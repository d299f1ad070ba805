import Telemetry.Proofs.Host.Calls
import Telemetry.Proofs.Run.Moments

/-!
# Where events go

An event reaches an emitter through a layer if the sink of the layer holds the emitter at that time.
The teardown of a pipeline begins by detaching its sink, so from its begin to the next attachment no
event reaches any emitter; a replacement is announced before, to the emitter that is replaced. An
emitter is attached immediately before the event that its pipeline has been started, so this is the
first event that reaches it.

* `started_after_attached`: what follows an attachment.
* `isSilent_shutdown`, `exists_announcement`: a teardown in the journal of a run.
* `first_call`: the first event that reaches an emitter.
* `events_follow_sinks`: all of this for every run.
-/

namespace Telemetry

theorem exists_of_flatMap_eq {α β : Type} {f : α → List β} {xs : List α} {before after : List β}
    {b : β} (h : xs.flatMap f = before ++ b :: after) :
    ∃ past x future front back, xs = past ++ x :: future ∧ f x = front ++ b :: back ∧
      before = past.flatMap f ++ front ∧ after = back ++ future.flatMap f := by
  induction xs generalizing before with
  | nil => simp at h
  | cons x rest ih =>
    rw [List.flatMap_cons] at h
    rcases List.append_eq_append_iff.mp h with ⟨gap, rfl, later⟩ | ⟨back, here, later⟩
    · obtain ⟨past, y, future, front, back, rfl, parts, rfl, rfl⟩ := ih later
      exact ⟨x :: past, y, future, front, back, rfl, parts, by simp, rfl⟩
    · cases back with
      | nil =>
        obtain ⟨past, y, future, front, back, rfl, parts, nothing, rfl⟩ := @ih []
          (by simpa using later.symm)
        refine ⟨x :: past, y, future, front, back, rfl, parts, ?_, rfl⟩
        rw [List.flatMap_cons, List.append_assoc, ← nothing, here, List.append_nil, List.append_nil]
      | cons c back =>
        obtain ⟨rfl, rfl⟩ := List.cons.inj later
        exact ⟨[], x, rest, before, back, rfl, here, by simp, rfl⟩

/-- The operation of a moment is a start that installs a pipeline. An emitter of the pipeline is
numbered by the start. -/
structure Moment.Installs (m : Moment) (p : Pipeline) : Prop where
  start : ∃ factory config version sink, m.operation = .start factory config version sink
  active : m.after.manager.active = some p
  number : ∀ g, p.logHook = some g → g = m.before.host.generation + 1

theorem isOfTransport_manager : Target.isOfTransport Manager.target = false := by decide +kernel

namespace System

variable {s : System}

theorem isAttachment_of_isQuiet {effect : Effect} (h : effect.isQuiet = true) :
    effect.isAttachment = false := by
  cases effect <;> first | rfl | cases h

theorem isAttachment_of_detachment {effects : List Effect} {m : Manager}
    (h : effects.filter Effect.isSwitch = m.detachment) {x : Effect} (hx : x ∈ effects) :
    x.isAttachment = false := by
  cases x with
  | attached sink g =>
    have mem : .attached sink g ∈ m.detachment := h ▸ List.mem_filter.mpr ⟨hx, rfl⟩
    obtain ⟨_, impossible⟩ := Manager.isDetached_of_mem_detachment mem
    cases impossible
  | _ => rfl

/-- Only a completed start attaches an emitter, and it tells so at once. -/
theorem effectsOf_start_of_attached (sound : s.IsSound) {factory : Factory} {config : Config}
    {version : String} {own : Option SinkName} {sink : SinkName} {g : Generation}
    (attached : .attached sink g ∈ s.effectsOf (.start factory config version own)) :
    config.isEffective = true ∧ ∃ p calls,
      s.manager.product factory config version own s.host = .ok p ∧ p.logHook = some g ∧
      p.sink = sink ∧
      s.effectsOf (.start factory config version own) = calls ++ [.attached sink g,
        .emitted .manager (Manager.startedEvent s.host.clock p)] ∧
      ∀ x ∈ calls, x.isAttachment = false := by
  cases effective : config.isEffective with
  | false =>
    rw [effectsOf, if_neg (by simp [effective])] at attached
    split at attached <;> simp at attached
  | true =>
    refine ⟨rfl, ?_⟩
    have retired := Manager.reaches_replacement sound.backed
    have replaced : ∀ x ∈ s.manager.replacementEffects s.host, x.isAttachment = false :=
      fun _ => isAttachment_of_detachment (Manager.filter_isSwitch_replacementEffects sound.backed)
    obtain ⟨calls, last, installed, quiet, hl⟩ := Manager.installEffects_eq
      (s.manager.retire s.host).1 factory config version own (s.manager.retire s.host).2
    rw [Manager.product_retire factory version own sound.backed, retired.clock] at hl
    rw [effectsOf, if_pos effective, installed, ← List.append_assoc] at attached ⊢
    -- nothing is attached before the pipeline has been built
    have before : ∀ x ∈ s.manager.replacementEffects s.host ++ calls, x.isAttachment = false := by
      intro x hx
      rcases List.mem_append.mp hx with hx | hx
      · exact replaced x hx
      · exact isAttachment_of_isQuiet (quiet x hx)
    rcases List.mem_append.mp attached with early | at_last
    · have impossible := before _ early
      cases impossible
    · cases product : s.manager.product factory config version own s.host with
      | error payload =>
        rw [hl, product] at at_last
        cases at_last
      | ok p =>
        simp only [hl, product, Manager.openingEffects] at at_last ⊢
        cases hook : p.logHook with
        | none => simp [hook] at at_last
        | some k =>
          obtain ⟨rfl, rfl⟩ : sink = p.sink ∧ g = k := by simpa [hook] using at_last
          exact ⟨p, _, rfl, hook, rfl, by simp, before⟩

theorem isStart_of_attached (sound : s.IsSound) {op : Operation} {sink : SinkName}
    {g : Generation} (attached : .attached sink g ∈ s.effectsOf op) :
    ∃ factory config version own, op = .start factory config version own := by
  have switched : .attached sink g ∈ s.switchesOf op := by
    rw [← filter_isSwitch_effectsOf sound.backed]
    exact List.mem_filter.mpr ⟨attached, rfl⟩
  cases op with
  | start factory config version own => exact ⟨factory, config, version, own, rfl⟩
  | shutdown deadline =>
    obtain ⟨_, impossible⟩ := Manager.isDetached_of_mem_detachment switched
    cases impossible
  | _ => cases switched

/-- What stands behind the last element but one, if it stands nowhere before. -/
theorem eq_of_append_pair_eq {α : Type} {xs ys zs : List α} {a b : α} (absent : a ∉ xs)
    (different : a ≠ b) (h : xs ++ [a, b] = ys ++ a :: zs) : zs = [b] := by
  rcases List.append_eq_append_iff.mp h with ⟨gap, rfl, cut⟩ | ⟨gap, rfl, cut⟩
  · cases gap with
    | nil => exact (List.cons.inj cut).2.symm
    | cons x gap =>
      obtain ⟨-, cut⟩ := List.cons.inj cut
      cases gap with
      | nil => exact absurd (List.cons.inj cut).1.symm different
      | cons y gap => simp at cut
  · cases gap with
    | nil => exact (List.cons.inj cut).2
    | cons x gap =>
      obtain ⟨rfl, -⟩ := List.cons.inj cut
      simp at absent

theorem installs_of_product {m : Moment} (sound : m.before.IsSound) {factory : Factory}
    {config : Config} {version : String} {own : Option SinkName}
    (start : m.operation = .start factory config version own)
    (effective : config.isEffective = true) {p : Pipeline}
    (product : m.before.manager.product factory config version own m.before.host = .ok p) :
    m.Installs p := by
  refine ⟨⟨_, _, _, _, start⟩, ?_, ?_⟩
  · have started := Manager.manager_start_of_effective factory version own effective sound.backed
    rw [product] at started
    rw [Moment.after, start]
    exact congrArg Manager.active started
  · intro g hook
    rcases (Manager.numbered_of_product product).1 with missing | numbered
    · rw [hook] at missing
      cases missing
    · rw [hook] at numbered
      exact Option.some.inj numbered

/-- After an attachment the next milestone is the event of the start that attaches. -/
theorem started_after_attached (sound : s.IsSound) {ops : List Operation}
    {before after : List Effect} {sink : SinkName} {g : Generation}
    (h : (s.moments ops).flatMap Moment.effects = before ++ .attached sink g :: after) :
    ∃ m ∈ s.moments ops, ∃ p, m.Installs p ∧ p.logHook = some g ∧ p.sink = sink ∧
      ∃ ms, after.filter Effect.isMilestone =
        .emitted .manager (Manager.startedEvent m.before.host.clock p) :: ms := by
  obtain ⟨past, m, future, front, back, split, parts, rfl, rfl⟩ := exists_of_flatMap_eq h
  have hm : m ∈ s.moments ops := by
    rw [split]
    simp
  have here : m.before.IsSound := isSound_of_mem_moments sound hm
  have milestones := (Moment.extends_of_isBacked here.backed).milestones
  rw [parts, List.filter_append, List.filter_cons_of_pos (a := Effect.attached sink g) rfl]
    at milestones
  have attached : .attached sink g ∈ m.before.effectsOf m.operation := by
    rw [← milestones]
    simp
  obtain ⟨factory, config, version, own, start⟩ := isStart_of_attached here attached
  rw [start] at milestones attached
  obtain ⟨effective, p, calls, product, hook, hsink, effects, clear⟩ :=
    effectsOf_start_of_attached here attached
  -- the attachment is the last milestone but one of the moment
  have later : back.filter Effect.isMilestone =
      [.emitted .manager (Manager.startedEvent m.before.host.clock p)] := by
    rw [effects] at milestones
    refine eq_of_append_pair_eq (fun mem => ?_) Effect.noConfusion milestones.symm
    have impossible := clear _ mem
    cases impossible
  refine ⟨m, hm, p, installs_of_product here start effective product, hook, hsink,
    (future.flatMap Moment.effects).filter Effect.isMilestone, ?_⟩
  rw [List.filter_append, later]
  rfl

/-! ## Teardowns -/

theorem filter_isMilestone_moments (sound : s.IsSound) (op : Operation) (rest : List Operation) :
    ((s.moments (op :: rest)).flatMap Moment.effects).filter Effect.isMilestone =
      s.effectsOf op ++
        (((s.step op).2.moments rest).flatMap Moment.effects).filter Effect.isMilestone := by
  have milestones := (Moment.extends_of_isBacked (m := ⟨s, op⟩) sound.backed).milestones
  rw [moments, List.flatMap_cons, List.filter_append, milestones]

/-- Effects that begin with the detachment of the active pipeline are silent. -/
theorem isSilent_of_detachment (sound : s.IsSound) {effects : List Effect}
    (routed : Routed s.host.layers s.host.sinks effects)
    (detached : s.manager.detachment <+: effects.filter Effect.isMilestone) :
    IsSilent effects := by
  obtain ⟨rest, milestones⟩ := detached
  refine routed.isSilent milestones.symm (fun x hx => ?_) sound.free
  obtain ⟨sink, rfl⟩ := Manager.isDetached_of_mem_detachment hx
  rfl

/-- From a shutdown on no event reaches an emitter. -/
theorem isSilent_shutdown (sound : s.IsSound) (deadline : Deadline) (rest : List Operation) :
    IsSilent ((s.moments (.shutdown deadline :: rest)).flatMap Moment.effects) := by
  obtain ⟨later, torn⟩ : ∃ later, s.effectsOf (.shutdown deadline) =
      s.manager.detachment ++ later := by
    rw [Manager.detachment]
    cases active : s.manager.active with
    | none => exact ⟨[], by simp [effectsOf, active]⟩
    | some p =>
      obtain ⟨later, torn, -⟩ := Pipeline.teardownEffects_eq (sound.backed p active) deadline
      exact ⟨later, by simpa [effectsOf, active] using torn⟩
  refine isSilent_of_detachment sound (routed_moments sound _) ?_
  rw [filter_isMilestone_moments sound, torn, List.append_assoc]
  exact List.prefix_append _ _

/-- A replacement is announced to the emitter that is replaced, and then no event reaches an
emitter. -/
theorem exists_announcement (sound : s.IsSound) {p : Pipeline} (active : s.manager.active = some p)
    (factory : Factory) {config : Config} (effective : config.isEffective = true) (version : String)
    (own : Option SinkName) (rest : List Operation) :
    ∃ lead tail, (s.moments (.start factory config version own :: rest)).flatMap Moment.effects =
        lead ++ tail ∧
      lead.filter Effect.isMilestone = [.emitted .manager (Manager.replacingEvent s.host.clock)] ∧
      lead.filterMap Effect.delivery? =
        deliveries s.host.layers s.host.sinks (Manager.replacingEvent s.host.clock) ∧
      IsSilent tail := by
  have milestones := filter_isMilestone_moments sound (.start factory config version own) rest
  obtain ⟨later, torn, -⟩ := Pipeline.teardownEffects_eq
    (Manager.isBacked_announced (sound.backed p active)) (Manager.replaceDeadline s.host)
  rw [effectsOf, if_pos effective, Manager.replacementEffects, active, Option.elim_some,
    Manager.retirement, torn] at milestones
  simp only [List.cons_append, List.append_assoc] at milestones
  obtain ⟨lead, tail, effects, announced, calls, routed, left⟩ :=
    (routed_moments sound (.start factory config version own :: rest)).exists_lead milestones
  refine ⟨lead, tail, effects, announced, calls, isSilent_of_detachment sound routed ?_⟩
  rw [left, Manager.detachment, active, Option.elim_some]
  exact List.prefix_append _ _

/-- The replacement is announced once, to the emitter of the pipeline that is replaced. -/
theorem deliveries_replacingEvent (sound : s.IsSound) (plain : s.host.HasPlainLayers) {p : Pipeline}
    (active : s.manager.active = some p) {layer : Layer} (hl : layer ∈ s.host.layers)
    (same : layer.sink = p.sink) :
    deliveries s.host.layers s.host.sinks (Manager.replacingEvent s.host.clock) =
      (p.logHook.map fun g =>
        ⟨p.sink, g, .ofEvent (Manager.replacingEvent s.host.clock)⟩).toList := by
  have all : ∀ d ∈ deliveries s.host.layers s.host.sinks (Manager.replacingEvent s.host.clock),
      decide (d.sink = layer.sink) = true := by
    intro d hd
    obtain ⟨-, -, -, -, -, held, -⟩ := mem_deliveries_iff.mp hd
    rw [sound.holder, Manager.holder, active, Option.bind_some] at held
    split at held
    · rename_i own
      rw [same, own]
      exact decide_eq_true rfl
    · cases held
  have held : s.host.sinks[layer.sink]? = p.logHook := by
    rw [sound.holder, Manager.holder, active, same]
    simp
  have carried : Target.isOfTransport (Manager.replacingEvent s.host.clock).target = false :=
    isOfTransport_manager
  rw [← List.filter_eq_self.mpr all, filter_deliveries plain.distinct hl, Layer.delivery?,
    plain.admits layer hl, carried, held, same]
  rfl

/-! ## The first event of an emitter -/

/-- An event that follows an attachment at once makes the layer of the sink call the emitter. -/
theorem mem_callsAfter_of_attached {layers : List Layer} {σ : Sinks}
    {before between rest : List Effect} {layer : Layer} (hl : layer ∈ layers)
    (admits : ∀ event, layer.admits event = true) {g : Generation} {origin : Origin} {event : Event}
    (carried : Target.isOfTransport event.target = false)
    (quiet : ∀ x ∈ between, x.isMilestone = false)
    (routed : Routed layers σ
      (before ++ .attached layer.sink g :: (between ++ .emitted origin event :: rest))) :
    ⟨layer.sink, g, .ofEvent event⟩ ∈ callsAfter rest := by
  rw [← List.cons_append, ← List.append_assoc] at routed
  rw [routed.callsAfter_eq, mem_deliveries_iff]
  refine ⟨layer, hl, admits event, carried, rfl, ?_, rfl⟩
  rw [List.foldl_append, List.foldl_cons, Effect.foldl_act_of_not_milestone quiet, Effect.act]
  simp

/-- The first call of an emitter is made for the event of the start that has built it. -/
theorem first_call (new : s.IsNew) (plain : s.host.HasPlainLayers) {ops : List Operation}
    {past future : List Effect} {sink : SinkName} {g : Generation} {entry : Entry}
    (h : (s.moments ops).flatMap Moment.effects = past ++ .forwarded sink g entry :: future)
    (first : ∀ d ∈ past.filterMap Effect.delivery?, d.emitter ≠ g) :
    ∃ m ∈ s.moments ops, ∃ p, m.Installs p ∧ p.logHook = some g ∧ p.sink = sink ∧
      entry = .ofEvent (Manager.startedEvent m.before.host.clock p) ∧
      ∃ ms, past.filter Effect.isMilestone = ms ++ [.attached sink g,
        .emitted .manager (Manager.startedEvent m.before.host.clock p)] := by
  have routed := routed_moments new.isSound ops
  rw [h, new.sinks] at routed
  obtain ⟨before, origin, event, between, rfl, quiet, asked⟩ := routed.exists_event
  obtain ⟨layer, hl, -, -, rfl, held, rfl⟩ := mem_deliveries_iff.mp asked
  have attached : .attached layer.sink g ∈ before := by
    rcases attached_of_foldl_act held with at_first | attached
    · simp at at_first
    · exact attached
  obtain ⟨early, late, rfl⟩ := List.append_of_mem attached
  have cut : (s.moments ops).flatMap Moment.effects = early ++ .attached layer.sink g ::
      (late ++ .emitted origin event ::
        (between ++ .forwarded layer.sink g (.ofEvent event) :: future)) := by
    simpa only [List.append_assoc, List.cons_append] using h
  obtain ⟨m, hm, p, installs, hook, hsink, ms, started⟩ := started_after_attached new.isSound cut
  refine ⟨m, hm, p, installs, hook, hsink, ?_⟩
  rw [List.filter_append, List.filter_cons_of_pos (a := Effect.emitted origin event) rfl] at started
  cases passed : late.filter Effect.isMilestone with
  | nil =>
    rw [passed, List.nil_append] at started
    obtain ⟨rfl, rfl⟩ := Effect.emitted.inj (List.cons.inj started).1
    have none_left : between.filter Effect.isMilestone = [] := by
      simpa [List.filter_eq_nil_iff] using quiet
    refine ⟨rfl, early.filter Effect.isMilestone, ?_⟩
    rw [List.filter_append, List.filter_append,
      List.filter_cons_of_pos (a := Effect.attached layer.sink g) rfl, passed,
      List.filter_cons_of_pos (a := Effect.emitted _ _) rfl, none_left, List.append_assoc]
    rfl
  | cons x more =>
    -- the start has told of itself before, and then the emitter was called before
    rw [passed, List.cons_append] at started
    obtain ⟨rfl, -⟩ := List.cons.inj started
    obtain ⟨gap, rest, rfl, apart, -, -⟩ := List.filter_eq_cons_iff.mp passed
    have called : ⟨layer.sink, g, .ofEvent (Manager.startedEvent m.before.host.clock p)⟩ ∈
        callsAfter (rest ++ .emitted origin event ::
          (between ++ .forwarded layer.sink g (.ofEvent event) :: future)) := by
      simp only [List.append_assoc, List.cons_append] at routed
      exact mem_callsAfter_of_attached hl (plain.admits layer hl) isOfTransport_manager
        (by simpa using apart) routed
    have earlier := mem_of_mem_callsAfter (x := .emitted origin event) rfl called
    have again := first ⟨layer.sink, g, .ofEvent (Manager.startedEvent m.before.host.clock p)⟩
      (by simp only [List.filterMap_append, List.filterMap_cons, List.mem_append, Effect.delivery?,
        earlier, true_or, or_true])
    exact absurd rfl again

/-! ## Every run -/

/-- A layer calls an emitter for an event once if its sink holds the emitter and the event is none
of the transport, and else not at all. -/
theorem filter_deliveries_emitter {layers : List Layer} (distinct : (layers.map Layer.sink).Nodup)
    {layer : Layer} (hl : layer ∈ layers) {event : Event} (admitted : layer.admits event = true)
    (σ : Sinks) (g : Generation) :
    (deliveries layers σ event).filter (fun d => d.sink = layer.sink ∧ d.emitter = g) =
      if Target.isOfTransport event.target = false ∧ σ[layer.sink]? = some g then
        [⟨layer.sink, g, .ofEvent event⟩]
      else [] := by
  have both : (fun d : Delivery => decide (d.sink = layer.sink ∧ d.emitter = g)) =
      fun d => decide (d.emitter = g) && decide (d.sink = layer.sink) := by
    funext d
    rw [Bool.decide_and, Bool.and_comm]
  rw [both, ← List.filter_filter, filter_deliveries distinct hl, Layer.delivery?, admitted]
  cases carried : Target.isOfTransport event.target with
  | true => simp
  | false =>
    cases held : σ[layer.sink]? with
    | none => simp
    | some k => by_cases same : k = g <;> simp [same]

theorem journal_run_of_new (new : s.IsNew) (ops : List Operation) :
    (s.run ops).host.journal = (s.moments ops).flatMap Moment.effects := by
  rw [journal_run new.isSound, Host.journal, new.past, List.reverse_nil, List.nil_append]

/-- The journal of a run parts at each of its operations. -/
theorem journal_of_mem_moments (sound : s.IsSound) {ops : List Operation} {m : Moment}
    (hm : m ∈ s.moments ops) :
    m.before.IsSound ∧ m.before.host.layers = s.host.layers ∧
      ∃ rest, (s.run ops).host.journal = m.before.host.journal ++
        (m.before.moments (m.operation :: rest)).flatMap Moment.effects := by
  obtain ⟨xs, rest, rfl, before⟩ := exists_of_mem_moments hm
  rw [before, run_append, journal_run (isSound_run sound xs)]
  exact ⟨isSound_run sound xs, layers_run sound xs, rest, rfl⟩

/-- In every run an event reaches the emitters that the sinks hold, each once. From the begin of a
teardown no event reaches an emitter before the next start attaches one, but the announcement of a
replacement reaches the emitter that is replaced. The first event that reaches an emitter is that of
its start. -/
theorem events_follow_sinks (new : s.IsNew) (plain : s.host.HasPlainLayers) (ops : List Operation) :
    let journal := (s.run ops).host.journal
    attachments journal = (s.run ops).host.sinks ∧
    (∀ past origin event future, journal = past ++ .emitted origin event :: future →
      ∀ layer ∈ s.host.layers, ∀ g,
        (callsAfter future).filter (fun d => d.sink = layer.sink ∧ d.emitter = g) =
          if Target.isOfTransport event.target = false ∧
              (attachments past)[layer.sink]? = some g then
            [⟨layer.sink, g, .ofEvent event⟩]
          else []) ∧
    (∀ past sink g entry future, journal = past ++ .forwarded sink g entry :: future →
      ∃ before origin event between, past = before ++ .emitted origin event :: between ∧
        (∀ x ∈ between, x.isMilestone = false) ∧ entry = .ofEvent event ∧
        ∃ layer ∈ s.host.layers, layer.sink = sink) ∧
    (∀ m ∈ s.moments ops, ∀ deadline, m.operation = .shutdown deadline →
      ∃ tail, journal = m.before.host.journal ++ tail ∧ IsSilent tail) ∧
    (∀ m ∈ s.moments ops, ∀ factory config version own,
      m.operation = .start factory config version own → config.isEffective = true →
      ∀ p, m.before.manager.active = some p →
      ∃ lead tail, journal = m.before.host.journal ++ (lead ++ tail) ∧
        lead.filter Effect.isMilestone =
          [.emitted .manager (Manager.replacingEvent m.before.host.clock)] ∧
        (∀ layer ∈ s.host.layers, layer.sink = p.sink → lead.filterMap Effect.delivery? =
          (p.logHook.map fun g =>
            ⟨p.sink, g, .ofEvent (Manager.replacingEvent m.before.host.clock)⟩).toList) ∧
        IsSilent tail) ∧
    (∀ past sink g future, journal = past ++ .attached sink g :: future →
      ∃ m ∈ s.moments ops, ∃ p, m.Installs p ∧ p.logHook = some g ∧ p.sink = sink) ∧
    (∀ past sink g entry future, journal = past ++ .forwarded sink g entry :: future →
      (∀ d ∈ past.filterMap Effect.delivery?, d.emitter ≠ g) →
      ∃ m ∈ s.moments ops, ∃ p, m.Installs p ∧ p.logHook = some g ∧ p.sink = sink ∧
        entry = .ofEvent (Manager.startedEvent m.before.host.clock p) ∧
        ∃ ms, past.filter Effect.isMilestone = ms ++ [.attached sink g,
          .emitted .manager (Manager.startedEvent m.before.host.clock p)]) := by
  intro journal
  have whole : journal = (s.moments ops).flatMap Moment.effects := journal_run_of_new new ops
  have routed := routed_moments new.isSound ops
  rw [← whole, new.sinks] at routed
  refine ⟨?_, ?_, ?_, ?_, ?_, ?_, ?_⟩
  · rw [sinks_run new.isSound, new.sinks, whole]
    rfl
  · intro past origin event future split layer hl g
    rw [split] at routed
    rw [routed.callsAfter_eq]
    exact filter_deliveries_emitter plain.distinct hl (plain.admits layer hl event) _ g
  · intro past sink g entry future split
    rw [split] at routed
    obtain ⟨before, origin, event, between, parts, quiet, asked⟩ := routed.exists_event
    obtain ⟨layer, hl, -, -, hsink, -, hentry⟩ := mem_deliveries_iff.mp asked
    exact ⟨before, origin, event, between, parts, quiet, hentry, layer, hl, hsink⟩
  · intro m hm deadline shutdown
    obtain ⟨sound, -, rest, split⟩ := journal_of_mem_moments new.isSound hm
    rw [shutdown] at split
    exact ⟨_, split, isSilent_shutdown sound deadline rest⟩
  · intro m hm factory config version own start effective p active
    obtain ⟨sound, layers, rest, split⟩ := journal_of_mem_moments new.isSound hm
    rw [start] at split
    obtain ⟨lead, tail, effects, announced, calls, silent⟩ :=
      exists_announcement sound active factory effective version own rest
    rw [effects] at split
    refine ⟨lead, tail, split, announced, fun layer hl same => ?_, silent⟩
    rw [calls]
    exact deliveries_replacingEvent sound (plain.of_eq layers) active (layers ▸ hl) same
  · intro past sink g future split
    obtain ⟨m, hm, p, installs, hook, hsink, -⟩ :=
      started_after_attached new.isSound (whole.symm.trans split)
    exact ⟨m, hm, p, installs, hook, hsink⟩
  · intro past sink g entry future split first
    exact first_call new plain (whole.symm.trans split) first

/-- The first emitter is told that it is replaced, through its sink, and then hears nothing. -/
theorem events_follow_sinks_of_restart :
    let s := fresh "own" ⟨"linux", "x86_64", 1, none⟩ [{ sink := "own" }, { sink := "other" }]
    let factory := Factory.constant (.built (.ofProvider ⟨some {}, false⟩)) (.failed .missingEndpoint)
    let first : Operation := .start factory .toLocalhost "" none
    let second : Operation := .start factory .toLocalhost "" (some "other")
    s.IsNew ∧ s.host.HasPlainLayers ∧ ∃ lead tail,
      (s.run [first, second]).host.journal = (s.run [first]).host.journal ++ (lead ++ tail) ∧
      lead.filterMap Effect.delivery? = [⟨"own", 1, .ofEvent (Manager.replacingEvent 0)⟩] ∧
      IsSilent tail := by
  intro s factory first second
  have new : s.IsNew := isNew_fresh _ _ _
  have plain : s.host.HasPlainLayers := by
    refine ⟨by decide, fun layer hl event => ?_⟩
    obtain rfl | rfl : layer = { sink := "own" } ∨ layer = { sink := "other" } := by
      simpa [s, fresh] using hl
    all_goals rfl
  have isSome : (s.run [first]).manager.active.isSome = true := by decide +kernel
  have opened : ∀ isSome : (s.run [first]).manager.active.isSome = true,
      ((s.run [first]).manager.active.get isSome).sink = "own" ∧
        ((s.run [first]).manager.active.get isSome).logHook = some 1 := by decide +kernel
  have clock : (s.run [first]).host.clock = 0 := by decide +kernel
  obtain ⟨hsink, hook⟩ := opened isSome
  obtain ⟨-, -, -, -, replaced, -, -⟩ := events_follow_sinks new plain [first, second]
  obtain ⟨lead, tail, journal, -, told, silent⟩ := replaced ⟨s.run [first], second⟩
    (List.mem_cons_of_mem _ List.mem_cons_self) factory .toLocalhost "" (some "other") rfl
    (by decide +kernel) _ (Option.some_get isSome).symm
  refine ⟨new, plain, lead, tail, journal, ?_, silent⟩
  rw [told { sink := "own" } List.mem_cons_self hsink.symm, hook, hsink, clock]
  rfl

end System

end Telemetry
