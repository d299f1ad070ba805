import Telemetry.Manager.Run
import Telemetry.Proofs.Manager.Custody

/-!
# What every run keeps

A new system has an inactive manager, and in its host nothing is attached, built or noted. In a
sound system the sinks agree with the active pipeline, and the components of the pipeline exist.

* `reaches_step`: the milestones of every operation.
* `isBacked_step`: no operation takes a component away from the active pipeline.
* `holder_step`: every operation leaves each sink with what it should hold.
* `isSound_step`, `isSound_run`: operations keep a system sound, so every run does.
-/

namespace Telemetry

/-- What a sink should hold: the emitter of the active pipeline, if the pipeline has one and this is
its sink. -/
def Manager.holder (m : Manager) (sink : SinkName) : Option Generation :=
  m.active.bind fun p => if p.sink = sink then p.logHook else none

namespace System

/-- A system in which nothing has happened. -/
structure IsNew (s : System) : Prop where
  active : s.manager.active = none
  sinks : s.host.sinks = ∅
  emitters : s.host.emitters = ∅
  bridges : s.host.bridges = ∅
  generation : s.host.generation = 0
  past : s.host.past = []

/-- A manager that has done nothing, in a host with some layers. -/
def fresh (ownSink : SinkName) (platform : Platform) (layers : List Layer) : System :=
  ⟨{ ownSink }, { platform, layers }⟩

theorem isNew_fresh (ownSink : SinkName) (platform : Platform) (layers : List Layer) :
    (fresh ownSink platform layers).IsNew :=
  ⟨rfl, rfl, rfl, rfl, rfl, rfl⟩

/-- A system whose sinks and components agree with the active pipeline. -/
structure IsSound (s : System) : Prop where
  holder : ∀ sink, s.host.sinks[sink]? = s.manager.holder sink
  backed : ∀ p, s.manager.active = some p → p.IsBacked s.host

/-- The components of the active pipeline exist in the host. -/
def IsBacked (s : System) : Prop := ∀ p, s.manager.active = some p → p.IsBacked s.host

theorem IsNew.isSound {s : System} (new : s.IsNew) : s.IsSound := by
  refine ⟨fun sink => ?_, fun p hp => ?_⟩
  · simp [new.sinks, Manager.holder, new.active]
  · rw [new.active] at hp
    cases hp

/-! ## Milestones -/

def disabledEvent (clock : Timestamp) : Event :=
  .report clock .info Manager.target "OTEL integration is disabled"

/-- The milestones of an operation. -/
def effectsOf (s : System) : Operation → List Effect
  | .start factory config version sink =>
    if config.isEffective then
      s.manager.replacementEffects s.host ++
        (s.manager.retire s.host).1.installEffects factory config version sink
          (s.manager.retire s.host).2
    else if config.enabled then []
    else [.emitted .manager (disabledEvent s.host.clock)]
  | .shutdown deadline => s.manager.active.elim [] fun p => p.teardownEffects deadline s.host
  | .addHook _ => []
  | .event event => [.emitted .application event]
  | .fire _ _ => []
  | .updateLabels _ _ => []
  | .closeEmitter g bound => s.host.emitters[g]?.elim [] fun e => e.closingEffects g bound
  | .shutdownBridge g deadline =>
    s.host.bridges[g]?.elim [] fun b => b.shutdownEffects g deadline s.host.now
  | .record g instrument attributes reading =>
    s.host.bridges[g]?.elim [] fun _ =>
      [.recorded g instrument attributes reading (s.host.offers g instrument)]
  | .wake signal g => s.host.wakeEffects signal g

/-- How many starts an operation adds to those that have built something. -/
def startsOf : Operation → Nat
  | .start _ config _ _ => if config.isEffective then 1 else 0
  | _ => 0

/-- A bump of the number of the last start counts for nothing but the ground. -/
theorem reaches_bump {h k l : Host} {n : Nat} {xs ys : List Effect} (hk : h.Reaches xs k)
    (hl : Host.Reaches { k with generation := n } ys l) :
    Host.Reaches { h with generation := n } (xs ++ ys) l := by
  have bumped : Host.Reaches { h with generation := n } xs { k with generation := n } :=
    ⟨congrArg (fun h : Host => { h with generation := n }) hk.ground, hk.added⟩
  exact bumped.trans hl

/-- Every operation leads over its milestones, and an effective start to the next number. -/
theorem reaches_step {s : System} (backed : s.IsBacked) (op : Operation) :
    Host.Reaches { s.host with generation := s.host.generation + startsOf op } (s.effectsOf op)
      (s.step op).2.host := by
  cases op with
  | start factory config version sink =>
    change Host.Reaches _ _ (s.manager.start factory config version sink s.host).2.2
    cases effective : config.isEffective with
    | true =>
      have retired := Manager.reaches_replacement backed
      have installed := Manager.reaches_install (s.manager.retire s.host).1 factory config version
        sink (s.manager.retire s.host).2
      rw [retired.generation] at installed
      rw [Manager.start_of_effective _ _ _ _ _ effective]
      simpa [effectsOf, startsOf, effective] using reaches_bump retired installed
    | false =>
      rcases Manager.start_of_ineffective s.manager factory version sink s.host effective with
        ⟨told, off⟩ | ⟨refused, on⟩
      · have milestones : s.effectsOf (.start factory config version sink) =
            [.emitted .manager (disabledEvent s.host.clock)] := by simp [effectsOf, effective, off]
        rw [told, milestones, show startsOf (.start factory config version sink) = 0 by
          simp [startsOf, effective]]
        exact Host.reaches_report s.host .info "OTEL integration is disabled" []
      · have milestones : s.effectsOf (.start factory config version sink) = [] := by
          simp [effectsOf, effective, on]
        rw [refused, milestones, show startsOf (.start factory config version sink) = 0 by
          simp [startsOf, effective]]
        exact .refl s.host
  | shutdown deadline => exact Manager.reaches_shutdown backed deadline
  | addHook hook => exact .refl s.host
  | event event => exact Host.reaches_emit s.host .application event
  | fire g entry => exact Host.reaches_fire s.host g entry
  | updateLabels g labels => exact Host.reaches_updateLabels s.host g labels
  | closeEmitter g bound =>
    change s.host.Reaches _ (s.host.closeEmitter g bound).2
    cases found : s.host.emitters[g]? with
    | none => simpa [effectsOf, Host.closeEmitter, found] using Host.Reaches.refl s.host
    | some e => simpa [effectsOf, found] using Host.reaches_closeEmitter found bound
  | shutdownBridge g deadline =>
    change s.host.Reaches _ (s.host.shutdownBridge g deadline).2
    cases found : s.host.bridges[g]? with
    | none => simpa [effectsOf, Host.shutdownBridge, found] using Host.Reaches.refl s.host
    | some b => simpa [effectsOf, found] using Host.reaches_shutdownBridge found deadline
  | record g instrument attributes reading =>
    exact Host.reaches_record s.host g instrument attributes reading _
  | wake signal g => exact Host.reaches_wake s.host signal g

/-! ## Soundness -/

/-- What an operation attaches and detaches. -/
def switchesOf (s : System) : Operation → List Effect
  | .start factory config version sink =>
    if config.isEffective then
      s.manager.detachment ++
        (s.manager.product factory config version sink s.host).toOption.elim [] Pipeline.attachment
    else []
  | .shutdown _ => s.manager.detachment
  | _ => []

theorem filter_isSwitch_effectsOf {s : System} (backed : s.IsBacked) (op : Operation) :
    (s.effectsOf op).filter Effect.isSwitch = s.switchesOf op := by
  cases op with
  | start factory config version sink =>
    rw [effectsOf, switchesOf]
    split
    · rw [List.filter_append, Manager.filter_isSwitch_replacementEffects backed,
        Manager.filter_isSwitch_installEffects,
        Manager.product_retire factory version sink backed]
    · split <;> rfl
  | shutdown deadline =>
    rw [switchesOf, Manager.detachment]
    cases active : s.manager.active with
    | none => simp [effectsOf, active]
    | some p =>
      simpa [effectsOf, active] using
        Pipeline.filter_isSwitch_teardownEffects (backed p active) deadline
  | closeEmitter g bound =>
    rw [effectsOf]
    cases s.host.emitters[g]? with
    | none => rfl
    | some e =>
      obtain ⟨rest, closing, incidental⟩ := e.closingEffects_eq g bound
      rw [Option.elim_some, closing, List.filter_cons_of_neg (by simp [Effect.isSwitch])]
      exact Effect.filter_isSwitch_of_isQuiet fun x hx =>
        Effect.isQuiet_of_isIncidental (incidental x hx)
  | shutdownBridge g deadline =>
    rw [effectsOf]
    cases s.host.bridges[g]? with
    | none => rfl
    | some b =>
      obtain ⟨rest, closing, incidental⟩ := b.shutdownEffects_eq g deadline s.host.now
      rw [Option.elim_some, closing, List.filter_cons_of_neg (by simp [Effect.isSwitch])]
      exact Effect.filter_isSwitch_of_isQuiet fun x hx =>
        Effect.isQuiet_of_isIncidental (incidental x hx)
  | record g instrument attributes reading =>
    rw [effectsOf]
    cases s.host.bridges[g]? <;> rfl
  | wake signal g =>
    exact Effect.filter_isSwitch_of_isQuiet fun x hx =>
      Effect.isQuiet_of_isIncidental (Host.isIncidental_of_mem_wakeEffects hx)
  | _ => rfl

theorem sinks_step {s : System} (backed : s.IsBacked) (op : Operation) :
    (s.step op).2.host.sinks = (s.switchesOf op).foldl Effect.act s.host.sinks := by
  rw [← filter_isSwitch_effectsOf backed, Effect.foldl_act_filter_isSwitch]
  exact (reaches_step backed op).sinks

/-- Once the active pipeline has been detached no sink holds anything. -/
theorem IsSound.free {s : System} (sound : s.IsSound) (sink : SinkName) :
    (s.manager.detachment.foldl Effect.act s.host.sinks)[sink]? = none := by
  have held := sound.holder sink
  rw [Manager.detachment]
  cases active : s.manager.active with
  | none => simpa [Manager.holder, active] using held
  | some p =>
    rw [Manager.holder, active, Option.bind_some] at held
    cases hook : p.logHook with
    | none => simpa [Pipeline.detachment, hook] using held
    | some g =>
      simp only [Option.elim_some, Pipeline.detachment, hook, Option.map_some, Option.toList_some,
        List.foldl_cons, List.foldl_nil, Effect.act, Std.ExtTreeMap.getElem?_erase,
        Std.LawfulEqOrd.compare_eq_iff_eq]
      split
      · rfl
      · rename_i other
        rw [held, if_neg other]

theorem IsBacked.of_retains {s : System} (backed : s.IsBacked) {h : Host}
    (retained : s.host.Retains h) : IsBacked ⟨s.manager, h⟩ :=
  fun p hp => (backed p hp).of_retains retained

theorem isBacked_start {s : System} (backed : s.IsBacked) (factory : Factory) (config : Config)
    (version : String) (sink : Option SinkName) :
    (s.step (.start factory config version sink)).2.IsBacked := by
  cases effective : config.isEffective with
  | true =>
    intro p hp
    have started := Manager.manager_start_of_effective factory version sink effective backed
    change (s.manager.start factory config version sink s.host).2.1.active = some p at hp
    rw [started] at hp
    cases product : s.manager.product factory config version sink s.host with
    | error payload => simp [product, Except.toOption] at hp
    | ok q =>
      obtain rfl : q = p := by simpa [product, Except.toOption] using hp
      exact Manager.isBacked_start_of_effective factory version sink effective backed product
  | false =>
    rcases Manager.start_of_ineffective s.manager factory version sink s.host effective with
      ⟨told, -⟩ | ⟨refused, -⟩
    · have kept := Host.Retains.of_unwritten
        (s.host.unwritten_report .info "OTEL integration is disabled" [])
      simpa only [step, told] using backed.of_retains kept
    · simpa only [step, refused] using backed

/-- No operation takes a component away from its pipeline. -/
theorem isBacked_step {s : System} (backed : s.IsBacked) (op : Operation) :
    (s.step op).2.IsBacked := by
  cases op with
  | start factory config version sink => exact isBacked_start backed factory config version sink
  | shutdown deadline =>
    intro p hp
    have inactive := Manager.active_shutdown s.manager deadline s.host
    change (s.manager.shutdown deadline s.host).2.1.active = some p at hp
    rw [inactive] at hp
    cases hp
  | addHook hook =>
    cases active : s.manager.active with
    | none => simpa only [step, Manager.addHook, active] using backed
    | some p =>
      -- a hook does not touch the components of its pipeline
      have kept := backed p active
      intro q hq
      simp only [step, Manager.addHook, active] at hq ⊢
      obtain rfl : { p with hooks := p.hooks ++ [hook] } = q := by simpa using hq
      exact ⟨kept.emitter, kept.bridge⟩
  | event event =>
    exact backed.of_retains (.of_unwritten (s.host.unwritten_emit .application event))
  | fire g entry => exact backed.of_retains (.of_unwritten (s.host.unwritten_fire g entry))
  | updateLabels g labels => exact backed.of_retains (Host.retains_updateLabels s.host g labels)
  | closeEmitter g bound => exact backed.of_retains (Host.retains_closeEmitter s.host g bound)
  | shutdownBridge g deadline =>
    exact backed.of_retains (Host.retains_shutdownBridge s.host g deadline)
  | record g instrument attributes reading =>
    exact backed.of_retains (Host.retains_record s.host g instrument attributes reading _)
  | wake signal g => exact backed.of_retains (Host.retains_wake s.host signal g)

theorem holder_start {s : System} (sound : s.IsSound) (factory : Factory) {config : Config}
    (version : String) (own : Option SinkName) (effective : config.isEffective = true)
    (sink : SinkName) :
    (s.step (.start factory config version own)).2.host.sinks[sink]? =
      (s.step (.start factory config version own)).2.manager.holder sink := by
  have switched := sinks_step sound.backed (.start factory config version own)
  have started := Manager.manager_start_of_effective factory version own effective sound.backed
  have manager : (s.step (.start factory config version own)).2.manager = _ := started
  rw [switched, manager, switchesOf, if_pos effective, List.foldl_append, Manager.holder]
  cases s.manager.product factory config version own s.host with
  | error payload => exact sound.free sink
  | ok p =>
    cases hook : p.logHook with
    | none => simpa [Pipeline.attachment, hook, Except.toOption] using sound.free sink
    | some g =>
      simp [Pipeline.attachment, hook, Except.toOption, Effect.act,
        Std.ExtTreeMap.getElem?_insert, sound.free sink]

theorem holder_step {s : System} (sound : s.IsSound) (op : Operation) (sink : SinkName) :
    (s.step op).2.host.sinks[sink]? = (s.step op).2.manager.holder sink := by
  have switched := sinks_step sound.backed op
  cases op with
  | start factory config version own =>
    cases effective : config.isEffective with
    | true => exact holder_start sound factory version own effective sink
    | false =>
      rw [switched, switchesOf, if_neg (by simp [effective]), List.foldl_nil]
      rcases Manager.start_of_ineffective s.manager factory version own s.host effective with
        ⟨told, -⟩ | ⟨refused, -⟩
      · simpa only [step, told] using sound.holder sink
      · simpa only [step, refused] using sound.holder sink
  | shutdown deadline =>
    have inactive := Manager.active_shutdown s.manager deadline s.host
    rw [switched, show (s.step (.shutdown deadline)).2.manager.holder sink = none by
      simp only [step, Manager.holder, inactive, Option.bind_none]]
    exact sound.free sink
  | addHook hook =>
    -- a hook does not touch the sink of its pipeline
    have held := sound.holder sink
    cases active : s.manager.active with
    | none => simpa only [step, Manager.addHook, active] using held
    | some p => simpa [step, Manager.addHook, active, Manager.holder] using held
  | _ =>
    rw [switched]
    exact sound.holder sink

/-- What touches neither the manager nor the sinks, nor takes a component away, keeps a system
sound. -/
theorem IsSound.of_kept {s : System} (sound : s.IsSound) {h : Host} (sinks : h.sinks = s.host.sinks)
    (retained : s.host.Retains h) : IsSound ⟨s.manager, h⟩ :=
  ⟨fun sink => by rw [sinks]; exact sound.holder sink, IsBacked.of_retains sound.backed retained⟩

theorem isSound_step {s : System} (sound : s.IsSound) (op : Operation) :
    (s.step op).2.IsSound :=
  ⟨holder_step sound op, isBacked_step sound.backed op⟩

theorem isSound_run {s : System} (sound : s.IsSound) (ops : List Operation) :
    (s.run ops).IsSound := by
  induction ops generalizing s with
  | nil => exact sound
  | cons op rest ih => exact ih (isSound_step sound op)

/-- A system that some run of a new one leads to. -/
def IsReachable (s : System) : Prop := ∃ new ops, IsNew new ∧ s = new.run ops

theorem IsReachable.isSound {s : System} (reachable : s.IsReachable) : s.IsSound := by
  obtain ⟨new, ops, hnew, rfl⟩ := reachable
  exact isSound_run hnew.isSound ops

end System

end Telemetry
