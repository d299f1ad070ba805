import Telemetry.Proofs.Run.Attachment
import Telemetry.Proofs.Run.Closing
import Telemetry.Proofs.Run.EventRouting
import Telemetry.Proofs.Run.History

/-!
# What an operation leaves to others

The host of a manager may hold more than the manager has made: components of others, and emitters
that others have attached to its sinks. An operation on the manager takes no component away from
anybody. Its teardown frees the sink of its pipeline, whatever the sink holds, and no other sink.
Then a start attaches the emitter that it has built, which is a new one. So an emitter that no sink
holds is never attached again, and no event reaches it.

* `Host.Omits.of_reaches`: an emitter that is attached nowhere on the way.
* `System.getElem?_vacated`: what a teardown leaves in a sink.
* `System.holder_of_held`: whose emitter a sink holds after an operation.
* `System.omits_step`, `System.omits_of_vacated`: no operation attaches an emitter that was there
  before it.
* `System.isBacked_of_step`: an operation takes no component away from a pipeline.
-/

namespace Telemetry

/-! ## Emitters that no sink holds -/

namespace Host

variable {g : Generation} {h k l : Host}

/-- No sink holds an emitter, and the starts to come have other numbers. -/
structure Lacks (h : Host) (g : Generation) : Prop where
  old : g ≤ h.generation
  free : ∀ sink : SinkName, h.sinks[sink]? ≠ some g

/-- From `h` to `k` no event reaches an emitter, and no sink of `k` holds it. -/
structure Omits (g : Generation) (h k : Host) : Prop where
  lacks : k.Lacks g
  added : ∃ added, k.journal = h.journal ++ added ∧
    ∀ d ∈ added.filterMap Effect.delivery?, d.emitter ≠ g

namespace Omits

theorem refl (lacks : h.Lacks g) : Omits g h h := ⟨lacks, [], by simp, by simp⟩

theorem trans (hk : Omits g h k) (hl : Omits g k l) : Omits g h l := by
  obtain ⟨xs, journal, quiet⟩ := hk.added
  obtain ⟨ys, journal', quiet'⟩ := hl.added
  refine ⟨hl.lacks, xs ++ ys, by rw [journal', journal, List.append_assoc], fun d hd => ?_⟩
  rw [List.filterMap_append] at hd
  rcases List.mem_append.mp hd with hd | hd
  · exact quiet d hd
  · exact quiet' d hd

/-- What is attached nowhere on the way, and held nowhere before, is omitted. -/
theorem of_reaches {n : Generation} {ms : List Effect} (lacks : h.Lacks g)
    (later : h.generation ≤ n) (reaches : Reaches { h with generation := n } ms k)
    (never : ∀ sink, .attached sink g ∉ ms) : Omits g h k := by
  obtain ⟨added, journal, milestones, routed, sinks⟩ := reaches.added
  have absent : ∀ sink, .attached sink g ∉ added := fun sink mem =>
    never sink (milestones ▸ List.mem_filter.mpr ⟨mem, rfl⟩)
  refine ⟨⟨?_, fun sink held => ?_⟩, added, journal, fun d => routed.emitter_ne lacks.free absent⟩
  · rw [reaches.generation]
    exact Nat.le_trans lacks.old later
  · rw [sinks] at held
    rcases attached_of_foldl_act held with before | attached
    · exact lacks.free sink before
    · exact absent sink attached

end Omits

end Host

theorem Pipeline.eq_of_mem_attachment {p : Pipeline} {sink : SinkName} {g : Generation}
    (attached : .attached sink g ∈ p.attachment) : p.sink = sink ∧ p.logHook = some g := by
  cases hook : p.logHook with
  | none => simp [attachment, hook] at attached
  | some k =>
    obtain ⟨rfl, rfl⟩ : sink = p.sink ∧ g = k := by simpa [attachment, hook] using attached
    exact ⟨rfl, rfl⟩

/-- An installation attaches nothing but an emitter of its own number. -/
theorem Manager.eq_of_attached {m : Manager} {factory : Factory} {config : Config}
    {version : String} {own : Option SinkName} {h : Host} {sink : SinkName} {g : Generation}
    (attached : .attached sink g ∈ m.installEffects factory config version own h) :
    g = h.generation + 1 := by
  have switched := List.mem_filter.mpr ⟨attached, show Effect.isSwitch _ = true from rfl⟩
  rw [filter_isSwitch_installEffects] at switched
  cases product : m.product factory config version own h with
  | error payload => simp [product, Except.toOption] at switched
  | ok p =>
    rw [product] at switched
    obtain ⟨-, hook⟩ := Pipeline.eq_of_mem_attachment switched
    rcases (numbered_of_product product).1 with missing | numbered
    · rw [missing] at hook
      cases hook
    · rw [numbered] at hook
      exact (Option.some.inj hook).symm

theorem Pipeline.isBacked_iff {p : Pipeline} {h : Host} :
    p.IsBacked h ↔ (∀ g, p.logHook = some g → (h.closable? .logs g).isSome = true) ∧
      ∀ g, p.bridge = some g → (h.closable? .metrics g).isSome = true := by
  simp only [Host.closable?, Option.isSome_map, ← Std.ExtTreeMap.mem_iff_isSome_getElem?]
  exact ⟨fun backed => ⟨backed.emitter, backed.bridge⟩, fun found => ⟨found.1, found.2⟩⟩

namespace Manager

variable {m : Manager} {sink other : SinkName} {g : Generation}

theorem logHook_of_holder (holds : m.holder sink = some g) : m.logHook = some g := by
  obtain ⟨p, active, -, hook⟩ := holder_eq_some_iff.mp holds
  exact Option.bind_eq_some_iff.mpr ⟨p, active, hook⟩

/-- A manager uses one sink at a time. -/
theorem eq_of_holder {k : Generation} (holds : m.holder sink = some g)
    (holds' : m.holder other = some k) : sink = other := by
  obtain ⟨p, active, rfl, -⟩ := holder_eq_some_iff.mp holds
  obtain ⟨q, active', rfl, -⟩ := holder_eq_some_iff.mp holds'
  rw [active] at active'
  rw [Option.some.inj active']

end Manager

/-! ## Teardowns -/

namespace System

variable {s : System} {op : Operation}

/-- The host when the pipeline that an operation ends has been taken down. A start has built nothing
by then. -/
def vacated (s : System) : Operation → Host
  | .start .. => (s.manager.retire s.host).2
  | .shutdown deadline => (s.manager.shutdown deadline s.host).2.2
  | _ => s.host

theorem sinks_vacated (backed : s.IsBacked) (ends : op.endsPipeline = true) :
    (s.vacated op).sinks = s.manager.detachment.foldl Effect.act s.host.sinks := by
  cases op with
  | start factory config version own =>
    rw [← Manager.filter_isSwitch_replacementEffects backed, Effect.foldl_act_filter_isSwitch]
    exact (Manager.reaches_replacement backed).sinks
  | shutdown deadline => exact sinks_step backed (.shutdown deadline)
  | _ => cases ends

/-- A teardown leaves nothing in the sink of a pipeline with an emitter, and every other sink as it
is. -/
theorem getElem?_vacated (backed : s.IsBacked) (ends : op.endsPipeline = true) (sink : SinkName) :
    (s.vacated op).sinks[sink]? =
      if (s.manager.holder sink).isSome then none else s.host.sinks[sink]? := by
  rw [sinks_vacated backed ends, Manager.detachment, Manager.holder]
  cases s.manager.active with
  | none => rfl
  | some p =>
    cases hook : p.logHook with
    | none => simp [Pipeline.detachment, hook]
    | some k =>
      by_cases same : p.sink = sink <;>
        simp [Pipeline.detachment, hook, same, Effect.act, Std.ExtTreeMap.getElem?_erase]

/-- After the teardown the sink of the new pipeline is attached, if there is one. -/
theorem sinks_step_of_endsPipeline (backed : s.IsBacked) (ends : op.endsPipeline = true) :
    (s.step op).2.host.sinks =
      ((s.step op).2.manager.active.elim [] Pipeline.attachment).foldl Effect.act
        (s.vacated op).sinks := by
  rw [sinks_step backed, sinks_vacated backed ends, ← List.foldl_append]
  congr 1
  cases op with
  | start factory config version own =>
    have effective : config.isEffective = true := ends
    have started := Manager.manager_start_of_effective factory version own effective backed
    have active : (s.step (.start factory config version own)).2.manager.active =
      (s.manager.product factory config version own s.host).toOption :=
        congrArg Manager.active started
    rw [switchesOf, if_pos effective, active]
  | shutdown deadline =>
    rw [switchesOf, show (s.step (.shutdown deadline)).2.manager.active = none from
      Manager.active_shutdown s.manager deadline s.host]
    exact (List.append_nil _).symm
  | _ => cases ends

theorem switchesOf_of_not_endsPipeline (ends : op.endsPipeline = false) : s.switchesOf op = [] := by
  cases op with
  | start factory config version own =>
    exact if_neg (by simpa [Operation.endsPipeline] using ends)
  | shutdown deadline => cases ends
  | _ => rfl

theorem holder_step_of_not_endsPipeline (ends : op.endsPipeline = false) (sink : SinkName) :
    (s.step op).2.manager.holder sink = s.manager.holder sink := by
  rw [Manager.holder, Manager.holder, active_step ends]
  cases s.manager.active <;> rfl

/-- What a sink holds after an operation is the emitter of the manager of this operation, or it was
there before and is none of this manager. -/
theorem holder_of_held (backed : s.IsBacked) (op : Operation) {sink : SinkName} {g : Generation}
    (held : (s.step op).2.host.sinks[sink]? = some g) :
    (s.step op).2.manager.holder sink = some g ∨
      s.host.sinks[sink]? = some g ∧ s.manager.holder sink ≠ some g := by
  cases ends : op.endsPipeline with
  | false =>
    rw [sinks_step backed, switchesOf_of_not_endsPipeline ends] at held
    rw [holder_step_of_not_endsPipeline ends]
    by_cases own : s.manager.holder sink = some g
    · exact Or.inl own
    · exact Or.inr ⟨held, own⟩
  | true =>
    rw [sinks_step_of_endsPipeline backed ends] at held
    rcases attached_of_foldl_act held with before | attached
    · rw [getElem?_vacated backed ends] at before
      split at before
      · cases before
      · rename_i other
        refine Or.inr ⟨before, fun own => other ?_⟩
        rw [own]
        rfl
    · cases active : (s.step op).2.manager.active with
      | none => simp [active] at attached
      | some p =>
        rw [active] at attached
        obtain ⟨hsink, hook⟩ := Pipeline.eq_of_mem_attachment attached
        exact Or.inl (Manager.holder_eq_some_iff.mpr ⟨p, active, hsink, hook⟩)

/-- What an operation attaches has the number of a start that is still to come. -/
theorem eq_of_attached (backed : s.IsBacked) (op : Operation) {sink : SinkName} {g : Generation}
    (attached : .attached sink g ∈ s.effectsOf op) : g = s.host.generation + 1 := by
  have switches := filter_isSwitch_effectsOf backed op
  cases op with
  | start factory config version own =>
    cases effective : config.isEffective with
    | true =>
      have retired := Manager.reaches_replacement backed
      rw [effectsOf, if_pos effective] at attached
      rcases List.mem_append.mp attached with replaced | installed
      · have impossible := isAttachment_of_detachment
          (Manager.filter_isSwitch_replacementEffects backed) replaced
        cases impossible
      · rw [Manager.eq_of_attached installed, retired.generation]
    | false =>
      have none_left := List.filter_eq_nil_iff.mp
        (switches.trans (switchesOf_of_not_endsPipeline effective)) _ attached
      exact absurd rfl none_left
  | shutdown deadline =>
    have impossible := isAttachment_of_detachment switches attached
    cases impossible
  | _ => exact absurd rfl (List.filter_eq_nil_iff.mp switches _ attached)

variable {g : Generation}

theorem omits_step (backed : s.IsBacked) (lacks : s.host.Lacks g) (op : Operation) :
    Host.Omits g s.host (s.step op).2.host := by
  refine .of_reaches lacks (Nat.le_add_right _ _) (reaches_step backed op) fun sink attached => ?_
  rw [eq_of_attached backed op attached] at lacks
  exact Nat.not_succ_le_self _ lacks.old

/-- What no sink holds after a teardown is omitted by the installation that follows it. -/
theorem omits_of_vacated (ends : op.endsPipeline = true) (lacks : (s.vacated op).Lacks g) :
    Host.Omits g (s.vacated op) (s.step op).2.host := by
  cases op with
  | start factory config version own =>
    have installed := Manager.reaches_install (s.manager.retire s.host).1 factory config version
      own (s.manager.retire s.host).2
    simp only [step, Manager.start_of_effective _ _ _ _ _ ends]
    refine .of_reaches lacks (Nat.le_succ _) installed fun sink attached => ?_
    rw [Manager.eq_of_attached attached] at lacks
    exact Nat.not_succ_le_self _ lacks.old
  | shutdown deadline => exact .refl lacks
  | _ => cases ends

theorem generation_vacated (backed : s.IsBacked) (op : Operation) :
    (s.vacated op).generation = s.host.generation := by
  cases op with
  | start factory config version own => exact (Manager.reaches_replacement backed).generation
  | shutdown deadline => exact generation_step backed (.shutdown deadline)
  | _ => rfl

/-! ## What an operation leaves to the other managers -/

theorem isSome_closable?_step (backed : s.IsBacked) (numbered : s.host.IsNumbered) (op : Operation)
    {signal : Signal} (found : (s.host.closable? signal g).isSome = true) :
    ((s.step op).2.host.closable? signal g).isSome = true := by
  have old := numbered.le_generation found
  have attended : s.host.Attends signal g (Moment.touch? ⟨s, op⟩ signal g).toList
      (s.step op).2.host :=
    attends_step backed op fun _ => Nat.ne_of_gt (Nat.lt_succ_of_le old)
  rwa [attended.closable, Option.isSome_map]

/-- No operation takes a component away from a pipeline of whatever manager. -/
theorem isBacked_of_step (backed : s.IsBacked) (numbered : s.host.IsNumbered) (op : Operation)
    {p : Pipeline} (own : p.IsBacked s.host) : p.IsBacked (s.step op).2.host := by
  rw [Pipeline.isBacked_iff] at own ⊢
  exact ⟨fun g hook => isSome_closable?_step backed numbered op (own.1 g hook),
    fun g bridge => isSome_closable?_step backed numbered op (own.2 g bridge)⟩

theorem le_generation_of_logHook (backed : s.IsBacked) (numbered : s.host.IsNumbered)
    (hook : s.manager.logHook = some g) : g ≤ s.host.generation := by
  obtain ⟨p, active, held⟩ := Option.bind_eq_some_iff.mp hook
  exact numbered.le_generation ((Pipeline.isBacked_iff.mp (backed p active)).1 g held)

/-- The emitter that an operation leaves to its manager is the one that it had, or a new one. -/
theorem logHook_of_step (backed : s.IsBacked) (op : Operation)
    (hook : (s.step op).2.manager.logHook = some g) :
    s.manager.logHook = some g ∨ g = s.host.generation + 1 := by
  obtain ⟨p, active, held⟩ := Option.bind_eq_some_iff.mp hook
  cases ends : op.endsPipeline with
  | false =>
    rw [active_step ends] at active
    obtain ⟨q, before, rfl⟩ := Option.map_eq_some_iff.mp active
    exact Or.inl (Option.bind_eq_some_iff.mpr ⟨q, before, held⟩)
  | true =>
    obtain ⟨-, numbered, -⟩ := numbered_of_endsPipeline backed ends active
    exact Or.inr (numbered g held)

end System

end Telemetry
