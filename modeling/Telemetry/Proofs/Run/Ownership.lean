import Telemetry.Proofs.Run.Moments

/-!
# What a manager owns

A manager acquires the components that the calls of a completed start return, and the hooks that it
accepts. It holds what it has acquired until an operation ends the pipeline; that operation asks
each of these holdings to end, and no other operation asks anything. So everything acquired, in
order, is everything released, in order, followed by what is still held.

* `released_eq`, `holdings_after`: what one operation releases, and what is held after it.
* `ledger`: the account of a run.
* `nothing_lost_or_released_twice`: each thing acquired is held or has been released, once.
-/

namespace Telemetry

/-- Whether an operation ends the pipeline that is active, if there is one. -/
def Operation.endsPipeline : Operation → Bool
  | .start _ config _ _ => config.isEffective
  | .shutdown _ => true
  | _ => false

/-- Whether a panic of the factory has broken a start off. -/
def StartResult.breaksOff : StartResult → Bool
  | panicked _ | aborted | stuck => true
  | _ => false

/-- The component that a call of the factory returns to a start. -/
def Factory.returned? (factory : Factory) (g : Generation) : Effect → Option Holding
  | .built signal config resource =>
    if factory.returns signal config resource then some (.component signal g) else none
  | _ => none

def Holding.component? : Holding → Option (Signal × Generation)
  | component signal g => some (signal, g)
  | hook _ => none

def components (holdings : List Holding) : List (Signal × Generation) :=
  holdings.filterMap Holding.component?

theorem components_append (xs ys : List Holding) :
    components (xs ++ ys) = components xs ++ components ys :=
  List.filterMap_append

namespace Moment

/-- What the manager acquires: the components that the calls of a completed start return, and a hook
whose registration is accepted. -/
def acquired (m : Moment) : List Holding :=
  match m.operation, m.answer with
  | .start factory _ _ _, .started .ok =>
    m.effects.filterMap (factory.returned? (m.before.host.generation + 1))
  | .addHook hook, .registered true => [.hook hook]
  | _, _ => []

/-- What the manager asks to end. A component that its holder closes is not asked by the manager. -/
def released (m : Moment) : List Holding :=
  match m.operation with
  | .closeEmitter .. | .shutdownBridge .. => []
  | _ => m.effects.filterMap Effect.requested?

end Moment

/-! ## One operation -/

theorem Factory.filterMap_returned?_filter (factory : Factory) (g : Generation)
    (effects : List Effect) :
    (effects.filter Effect.isCall).filterMap (factory.returned? g) =
      effects.filterMap (factory.returned? g) := by
  rw [List.filterMap_filter]
  congr 1
  funext effect
  cases effect <;> rfl

/-- The calls of a completed installation return what its pipeline holds. -/
theorem Manager.filterMap_returned?_installEffects {m : Manager} {factory : Factory}
    {config : Config} {version : String} {sink : Option SinkName} {h : Host} {p : Pipeline}
    (hp : m.product factory config version sink h = .ok p) :
    (m.installEffects factory config version sink h).filterMap
      (factory.returned? (h.generation + 1)) = p.holdings := by
  obtain ⟨hl, -, -⟩ := outcomes_of_product hp
  rw [← Factory.filterMap_returned?_filter, filter_isCall_installEffects, hl, Pipeline.holdings,
    eq_of_product hp, List.filterMap_append, List.map_nil, List.append_nil]
  congr 1
  · cases config.exportLogs <;>
      cases hr : factory.returns .logs config (h.resource config version) <;>
      simp [Factory.returned?, hr]
  · cases config.exportMetrics <;>
      cases hr : factory.returns .metrics config (h.resource config version) <;>
      simp [Factory.returned?, hr]

namespace Moment

variable {m : Moment}

/-- Of the effects only the milestones count for what is asked. -/
theorem filterMap_requested?_effects (sound : m.before.IsSound) :
    m.effects.filterMap Effect.requested? =
      (m.before.effectsOf m.operation).filterMap Effect.requested? :=
  (extends_of_isBacked sound.backed).filterMap_effects fun x => by cases x <;> rfl

theorem filterMap_returned?_effects (sound : m.before.IsSound) (factory : Factory)
    (g : Generation) :
    m.effects.filterMap (factory.returned? g) =
      (m.before.effectsOf m.operation).filterMap (factory.returned? g) :=
  (extends_of_isBacked sound.backed).filterMap_effects fun x => by cases x <;> rfl

/-- The operation that ends a pipeline asks everything to end that is held, and no other operation
asks anything. -/
theorem released_eq (sound : m.before.IsSound) :
    m.released = if m.operation.endsPipeline then m.before.manager.holdings else [] := by
  have asked := filterMap_requested?_effects sound
  obtain ⟨s, op⟩ := m
  cases op with
  | start factory config version sink =>
    cases effective : config.isEffective with
    | true =>
      rw [System.effectsOf, if_pos effective, List.filterMap_append,
        Manager.filterMap_requested?_replacementEffects sound.backed,
        Manager.filterMap_requested?_installEffects, List.append_nil] at asked
      simpa [released, Operation.endsPipeline, effective] using asked
    | false =>
      have silent : (s.effectsOf (.start factory config version sink)).filterMap
          Effect.requested? = [] := by
        rw [System.effectsOf, if_neg (by simp [effective])]
        split <;> rfl
      simpa [released, Operation.endsPipeline, effective, silent] using asked
  | shutdown deadline =>
    simp only [released, Operation.endsPipeline, if_true, asked, System.effectsOf, Manager.holdings]
    cases active : s.manager.active with
    | none => rfl
    | some p => exact Pipeline.filterMap_requested?_teardownEffects (sound.backed p active) deadline
  | addHook hook => exact asked
  | event event => exact asked
  | fire g entry => exact asked
  | updateLabels g labels => exact asked
  | closeEmitter g bound => rfl
  | shutdownBridge g deadline => rfl
  | record g instrument attributes reading =>
    have silent : (s.effectsOf (.record g instrument attributes reading)).filterMap
        Effect.requested? = [] := by
      rw [System.effectsOf]
      cases s.host.bridges[g]? <;> rfl
    exact asked.trans silent
  | wake signal g =>
    have silent : (s.effectsOf (.wake signal g)).filterMap Effect.requested? = [] := by
      rw [System.effectsOf, ← Effect.filterMap_requested?_filter,
        Effect.filter_isRequest_of_isQuiet fun x hx =>
          Effect.isQuiet_of_isIncidental (Host.isIncidental_of_mem_wakeEffects hx)]
      rfl
    exact asked.trans silent

/-- An effective start acquires what its pipeline holds, if it is completed. -/
theorem acquired_of_effective {s : System} (sound : s.IsSound) {factory : Factory} {config : Config}
    {version : String} {sink : Option SinkName} (effective : config.isEffective = true) :
    acquired ⟨s, .start factory config version sink⟩ =
      match s.manager.product factory config version sink s.host with
      | .ok p => p.holdings
      | .error _ => [] := by
  have result := Manager.fst_start_of_effective factory version sink effective sound.backed
  have answered := answer_start s factory config version sink
  rw [result] at answered
  cases product : s.manager.product factory config version sink s.host with
  | error payload =>
    rw [product] at answered
    rw [acquired, answered]
    cases Manager.releaseWork factory config (s.host.resource config version) <;> rfl
  | ok p =>
    have retired := Manager.reaches_replacement sound.backed
    have called := filterMap_returned?_effects (m := ⟨s, .start factory config version sink⟩) sound
      factory (s.host.generation + 1)
    have replaced : (s.manager.replacementEffects s.host).filterMap
        (factory.returned? (s.host.generation + 1)) = [] := by
      rw [← Factory.filterMap_returned?_filter, Manager.filter_isCall_replacementEffects]
      rfl
    have installed := Manager.filterMap_returned?_installEffects
      (m := (s.manager.retire s.host).1) (h := (s.manager.retire s.host).2)
      ((Manager.product_retire factory version sink sound.backed).trans product)
    rw [retired.generation] at installed
    rw [System.effectsOf, if_pos effective, List.filterMap_append, replaced, installed,
      List.nil_append] at called
    simpa [acquired, answered, product] using called

theorem acquired_of_ineffective {s : System} (sound : s.IsSound) {factory : Factory}
    {config : Config} {version : String} {sink : Option SinkName}
    (off : config.isEffective = false) :
    acquired ⟨s, .start factory config version sink⟩ = [] := by
  have called := filterMap_returned?_effects (m := ⟨s, .start factory config version sink⟩) sound
    factory (s.host.generation + 1)
  have silent : (s.effectsOf (.start factory config version sink)).filterMap
      (factory.returned? (s.host.generation + 1)) = [] := by
    rw [System.effectsOf, if_neg (by simp [off])]
    split <;> rfl
  rw [acquired]
  split
  · rename_i started _
    obtain ⟨rfl, -, -, -⟩ := Operation.start.inj started
    exact called.trans silent
  · rename_i registered _
    cases registered
  · rfl

/-- After an operation is held what was held, unless the operation ended the pipeline, and what the
operation acquired. -/
theorem holdings_after (sound : m.before.IsSound) :
    m.after.manager.holdings =
      (if m.operation.endsPipeline then [] else m.before.manager.holdings) ++ m.acquired := by
  obtain ⟨s, op⟩ := m
  cases op with
  | start factory config version sink =>
    cases effective : config.isEffective with
    | true =>
      rw [acquired_of_effective sound effective]
      change (s.manager.start factory config version sink s.host).2.1.holdings = _
      rw [Manager.manager_start_of_effective factory version sink effective sound.backed]
      cases s.manager.product factory config version sink s.host <;>
        simp [Manager.holdings, Operation.endsPipeline, effective, Except.toOption]
    | false =>
      rw [acquired_of_ineffective sound effective]
      change (s.manager.start factory config version sink s.host).2.1.holdings = _
      rcases Manager.start_of_ineffective s.manager factory version sink s.host effective with
        ⟨told, -⟩ | ⟨refused, -⟩
      · simp [told, Operation.endsPipeline, effective]
      · simp [refused, Operation.endsPipeline, effective]
  | shutdown deadline =>
    have inactive := Manager.active_shutdown s.manager deadline s.host
    change (s.manager.shutdown deadline s.host).2.1.holdings = _
    rw [Manager.holdings, inactive]
    rfl
  | addHook hook =>
    cases active : s.manager.active with
    | none => simp [after, answer, acquired, System.step, Manager.addHook, Manager.holdings, active,
        Operation.endsPipeline]
    | some p =>
      simp [after, answer, acquired, System.step, Manager.addHook, Manager.holdings, active,
        Operation.endsPipeline, Pipeline.holdings]
  | event event => simp [after, acquired, System.step, Operation.endsPipeline]
  | fire g entry => simp [after, acquired, System.step, Operation.endsPipeline]
  | updateLabels g labels => simp [after, acquired, System.step, Operation.endsPipeline]
  | closeEmitter g bound => simp [after, acquired, System.step, Operation.endsPipeline]
  | shutdownBridge g deadline => simp [after, acquired, System.step, Operation.endsPipeline]
  | record g instrument attributes reading =>
    simp [after, acquired, System.step, Operation.endsPipeline]
  | wake signal g => simp [after, acquired, System.step, Operation.endsPipeline]

/-- The components that an operation acquires are numbered by the start. -/
theorem components_acquired (sound : m.before.IsSound) :
    (components m.acquired).Nodup ∧
      ∀ c ∈ components m.acquired,
        c.2 = m.before.host.generation + 1 ∧ System.startsOf m.operation = 1 := by
  obtain ⟨s, op⟩ := m
  cases op with
  | start factory config version sink =>
    cases effective : config.isEffective with
    | false =>
      rw [acquired_of_ineffective sound effective]
      exact ⟨.nil, fun c hc => by cases hc⟩
    | true =>
      rw [acquired_of_effective sound effective, System.startsOf, if_pos effective]
      cases product : s.manager.product factory config version sink s.host with
      | error payload => exact ⟨.nil, fun c hc => by cases hc⟩
      | ok p =>
        obtain ⟨hl, hm, no_hooks⟩ := Manager.numbered_of_product product
        simp only [Pipeline.holdings, no_hooks]
        rcases hl with hl | hl <;> rcases hm with hm | hm <;>
          simp [hl, hm, components, Holding.component?]
  | addHook hook =>
    rw [acquired]
    split
    · rename_i started _
      cases started
    · exact ⟨.nil, fun c hc => by cases hc⟩
    · exact ⟨.nil, fun c hc => by cases hc⟩
  | _ => exact ⟨.nil, fun c hc => by cases hc⟩

/-- A hook is acquired by no operation but its registration. -/
theorem registered_of_hook_mem_acquired {hook : Hook} (hm : Holding.hook hook ∈ m.acquired) :
    m.operation = .addHook hook ∧ m.answer = .registered true := by
  rw [acquired] at hm
  split at hm
  · obtain ⟨effect, -, returned⟩ := List.mem_filterMap.mp hm
    cases effect <;> simp [Factory.returned?] at returned
  · rename_i operation answer
    obtain rfl := Holding.hook.inj (List.mem_singleton.mp hm)
    exact ⟨operation, answer⟩
  · cases hm

/-- A start that a panic of the factory breaks off counts as a start, and it hands nothing over. -/
theorem acquired_of_breaksOff {result : StartResult} (broken : m.answer = .started result)
    (breaksOff : result.breaksOff = true) :
    m.acquired = [] ∧ System.startsOf m.operation = 1 ∧ m.operation.endsPipeline = true := by
  obtain ⟨s, op⟩ := m
  cases op with
  | start factory config version sink =>
    cases effective : config.isEffective with
    | true =>
      have nothing : acquired ⟨s, .start factory config version sink⟩ = [] := by
        rw [acquired, broken]
        cases result <;> first | rfl | cases breaksOff
      simp [nothing, System.startsOf, Operation.endsPipeline, effective]
    | false =>
      rw [answer_start] at broken
      rcases Manager.start_of_ineffective s.manager factory version sink s.host effective with
        ⟨told, -⟩ | ⟨refused, -⟩
      · rw [told] at broken
        cases broken
        cases breaksOff
      · rw [refused] at broken
        cases broken
        cases breaksOff
  | _ => cases broken

end Moment

/-! ## Runs -/

namespace System

variable {s : System}

/-- What is held at first and what is acquired, in order, is what is released, in order, and what is
held at last. -/
theorem ledger (sound : s.IsSound) (ops : List Operation) :
    s.manager.holdings ++ (s.moments ops).flatMap Moment.acquired =
      (s.moments ops).flatMap Moment.released ++ (s.run ops).manager.holdings := by
  induction ops generalizing s with
  | nil => simp [moments, run]
  | cons op rest ih =>
    let m : Moment := ⟨s, op⟩
    have released : m.released = if op.endsPipeline then s.manager.holdings else [] :=
      Moment.released_eq sound
    have held : m.after.manager.holdings =
        (if op.endsPipeline then [] else s.manager.holdings) ++ m.acquired :=
      Moment.holdings_after sound
    have balance : s.manager.holdings ++ m.acquired = m.released ++ m.after.manager.holdings := by
      rw [released, held]
      cases op.endsPipeline <;> simp
    calc s.manager.holdings ++ (s.moments (op :: rest)).flatMap Moment.acquired
        = (s.manager.holdings ++ m.acquired) ++
            (m.after.moments rest).flatMap Moment.acquired := by
          rw [moments, List.flatMap_cons, List.append_assoc]
          rfl
      _ = m.released ++ (m.after.manager.holdings ++
            (m.after.moments rest).flatMap Moment.acquired) := by
          rw [balance, List.append_assoc]
      _ = m.released ++ ((m.after.moments rest).flatMap Moment.released ++
            (m.after.run rest).manager.holdings) :=
          congrArg (m.released ++ ·) (ih (isSound_step sound op))
      _ = (s.moments (op :: rest)).flatMap Moment.released ++
            (s.run (op :: rest)).manager.holdings := by
          rw [moments, List.flatMap_cons, List.append_assoc]
          rfl

/-- What is held stays held and is not asked to end, until an operation ends the pipeline and asks
it. -/
theorem held_or_released (sound : s.IsSound) {x : Holding} (hx : x ∈ s.manager.holdings)
    (ops : List Operation) :
    (x ∈ (s.run ops).manager.holdings ∧
      ∀ m ∈ s.moments ops, m.operation.endsPipeline = false ∧ m.released = []) ∨
    ∃ mid e rest, s.moments ops = mid ++ e :: rest ∧
      (∀ m ∈ mid, m.operation.endsPipeline = false ∧ m.released = []) ∧
      e.operation.endsPipeline = true ∧ x ∈ e.released := by
  induction ops generalizing s with
  | nil => exact Or.inl ⟨hx, fun m hm => by cases hm⟩
  | cons op rest ih =>
    have released := Moment.released_eq (m := ⟨s, op⟩) sound
    have held := Moment.holdings_after (m := ⟨s, op⟩) sound
    cases ends : op.endsPipeline with
    | true =>
      rw [if_pos ends] at released
      exact Or.inr ⟨[], ⟨s, op⟩, _, rfl, List.forall_mem_nil _, ends, released ▸ hx⟩
    | false =>
      rw [if_neg (by simp [ends])] at released held
      have still : x ∈ (s.step op).2.manager.holdings := by
        change x ∈ (Moment.after ⟨s, op⟩).manager.holdings
        rw [held]
        exact List.mem_append_left _ hx
      rcases ih (isSound_step sound op) still with
        ⟨at_last, quiet⟩ | ⟨mid, e, later, split, quiet, last⟩
      · refine Or.inl ⟨at_last, fun m hm => ?_⟩
        rcases List.mem_cons.mp hm with rfl | hm
        · exact ⟨ends, released⟩
        · exact quiet m hm
      · refine Or.inr ⟨⟨s, op⟩ :: mid, e, later, by rw [moments, split]; rfl, fun m hm => ?_, last⟩
        rcases List.mem_cons.mp hm with rfl | hm
        · exact ⟨ends, released⟩
        · exact quiet m hm

/-- What is held was held from the first on, or it was acquired and no pipeline has ended since. -/
theorem held_since (sound : s.IsSound) {x : Holding} {ops : List Operation}
    (hx : x ∈ (s.run ops).manager.holdings) :
    (x ∈ s.manager.holdings ∧ ∀ m ∈ s.moments ops, m.operation.endsPipeline = false) ∨
    ∃ before m mid, s.moments ops = before ++ m :: mid ∧ x ∈ m.acquired ∧
      ∀ m' ∈ mid, m'.operation.endsPipeline = false := by
  induction ops generalizing s with
  | nil => exact Or.inl ⟨hx, fun m hm => by cases hm⟩
  | cons op rest ih =>
    rcases ih (isSound_step sound op) hx with ⟨still, quiet⟩ | ⟨before, m, mid, split, got, quiet⟩
    · have held := Moment.holdings_after (m := ⟨s, op⟩) sound
      have still : x ∈ (Moment.after ⟨s, op⟩).manager.holdings := still
      rw [held] at still
      rcases List.mem_append.mp still with kept | got
      · cases ends : op.endsPipeline with
        | true => simp [ends] at kept
        | false =>
          refine Or.inl ⟨by simpa [ends] using kept, fun m hm => ?_⟩
          rcases List.mem_cons.mp hm with rfl | hm
          · exact ends
          · exact quiet m hm
      · exact Or.inr ⟨[], ⟨s, op⟩, _, rfl, got, quiet⟩
    · exact Or.inr ⟨⟨s, op⟩ :: before, m, mid, by rw [moments, split]; rfl, got, quiet⟩

/-- No component is acquired twice, for the starts are numbered. -/
theorem nodup_components_acquired (sound : s.IsSound) (ops : List Operation) :
    (components ((s.moments ops).flatMap Moment.acquired)).Nodup ∧
      ∀ c ∈ components ((s.moments ops).flatMap Moment.acquired),
        s.host.generation < c.2 ∧ c.2 ≤ (s.run ops).host.generation := by
  induction ops generalizing s with
  | nil => exact ⟨.nil, fun c hc => by cases hc⟩
  | cons op rest ih =>
    obtain ⟨distinct, later⟩ := ih (isSound_step sound op)
    obtain ⟨own, numbered⟩ := Moment.components_acquired (m := ⟨s, op⟩) sound
    have counted : (s.step op).2.host.generation = s.host.generation + startsOf op :=
      (Moment.extends_of_isBacked (m := ⟨s, op⟩) sound.backed).generation
    have bound := generation_le_run (isSound_step sound op) rest
    rw [moments, List.flatMap_cons, components_append]
    refine ⟨List.nodup_append.mpr ⟨own, distinct, fun c hc d hd => ?_⟩, fun c hc => ?_⟩
    · -- what is acquired later has a larger number
      rintro rfl
      obtain ⟨number, one⟩ := numbered c hc
      have above := (later c hd).1
      rw [counted, show startsOf op = 1 from one, number] at above
      exact Nat.lt_irrefl _ above
    · rcases List.mem_append.mp hc with hc | hc
      · obtain ⟨number, one⟩ := numbered c hc
        rw [counted, show startsOf op = 1 from one] at bound
        rw [number]
        exact ⟨Nat.lt_succ_self _, bound⟩
      · obtain ⟨above, below⟩ := later c hc
        rw [counted] at above
        exact ⟨Nat.lt_of_le_of_lt (Nat.le_add_right _ _) above, below⟩

/-- What the factory returned to a start that is broken off is never the manager's. -/
theorem not_acquired_of_breaksOff (sound : s.IsSound) {ops : List Operation} {m : Moment}
    (hm : m ∈ s.moments ops) {result : StartResult} (broken : m.answer = .started result)
    (breaksOff : result.breaksOff = true) (signal : Signal) :
    (signal, m.before.host.generation + 1) ∉
      components ((s.moments ops).flatMap Moment.acquired) := by
  obtain ⟨past, future, split⟩ := List.append_of_mem hm
  obtain ⟨xs, op, ys, -, rfl, rfl, rfl⟩ := exists_of_moments_eq split
  obtain ⟨nothing, one, -⟩ := Moment.acquired_of_breaksOff broken breaksOff
  have before := isSound_run sound xs
  have counted := (Moment.extends_of_isBacked (m := ⟨s.run xs, op⟩) before.backed).generation
  rw [split, List.flatMap_append, List.flatMap_cons, nothing, List.nil_append, components_append]
  intro mem
  rcases List.mem_append.mp mem with mem | mem
  · have below := ((nodup_components_acquired sound xs).2 _ mem).2
    exact Nat.not_succ_le_self _ below
  · have above := ((nodup_components_acquired (isSound_step before op) ys).2 _ mem).1
    change (Moment.after ⟨s.run xs, op⟩).host.generation < _ at above
    rw [counted, one] at above
    exact Nat.lt_irrefl _ above

/-- What is released has been acquired by the pipeline that ends. -/
theorem acquired_of_mem_released (new : s.IsNew) {ops : List Operation} {past future : List Moment}
    {e : Moment} (split : s.moments ops = past ++ e :: future) {x : Holding} (hx : x ∈ e.released) :
    e.operation.endsPipeline = true ∧ ∃ before m mid, past = before ++ m :: mid ∧ x ∈ m.acquired ∧
      ∀ m' ∈ mid, m'.operation.endsPipeline = false := by
  obtain ⟨xs, op, ys, -, rfl, rfl, -⟩ := exists_of_moments_eq split
  have released := Moment.released_eq (m := ⟨s.run xs, op⟩) (isSound_run new.isSound xs)
  rw [released] at hx
  cases ends : op.endsPipeline with
  | false => simp [ends] at hx
  | true =>
    rw [if_pos ends] at hx
    refine ⟨rfl, ?_⟩
    rcases held_since new.isSound hx with ⟨at_first, -⟩ | since
    · simp [Manager.holdings, new.active] at at_first
    · exact since

theorem ledger_of_new (new : s.IsNew) (ops : List Operation) :
    (s.moments ops).flatMap Moment.acquired =
      (s.moments ops).flatMap Moment.released ++ (s.run ops).manager.holdings := by
  have empty : s.manager.holdings = [] := by simp [Manager.holdings, new.active]
  rw [← ledger new.isSound ops, empty, List.nil_append]

/-- Of each component that a manager has acquired one is true: it holds the component, or it has
asked it to end, once. -/
theorem held_or_released_once (new : s.IsNew) (ops : List Operation) {c : Signal × Generation}
    (hc : c ∈ components ((s.moments ops).flatMap Moment.acquired)) :
    let held := (s.run ops).manager.holdings
    let released := (s.moments ops).flatMap Moment.released
    c ∈ components held ∧ c ∉ components released ∨
      c ∉ components held ∧ (components released).count c = 1 := by
  intro held released
  have account := ledger_of_new new ops
  have distinct := (nodup_components_acquired new.isSound ops).1
  rw [account, components_append] at distinct hc
  obtain ⟨once, -, apart⟩ := List.nodup_append.mp distinct
  rcases List.mem_append.mp hc with hr | hh
  · refine Or.inr ⟨fun hh => apart c hr c hh rfl, ?_⟩
    exact (List.Nodup.count once).trans (if_pos hr)
  · exact Or.inl ⟨hh, fun hr => apart c hr c hh rfl⟩

/-- Everything that a manager acquires it holds, and has not asked to end, or else it has asked it
to end, once, in the operation that ended its pipeline; and it asks nothing else to end. -/
theorem nothing_lost_or_released_twice (new : s.IsNew) (ops : List Operation) :
    let ms := s.moments ops
    let held := (s.run ops).manager.holdings
    ms.flatMap Moment.acquired = ms.flatMap Moment.released ++ held ∧
    (∀ c ∈ components (ms.flatMap Moment.acquired),
      c ∈ components held ∧ c ∉ components (ms.flatMap Moment.released) ∨
        c ∉ components held ∧ (components (ms.flatMap Moment.released)).count c = 1) ∧
    (∀ past m future, ms = past ++ m :: future → ∀ x ∈ m.acquired,
      (x ∈ held ∧ ∀ m' ∈ future, m'.operation.endsPipeline = false ∧ m'.released = []) ∨
      ∃ mid e rest, future = mid ++ e :: rest ∧
        (∀ m' ∈ mid, m'.operation.endsPipeline = false ∧ m'.released = []) ∧
        e.operation.endsPipeline = true ∧ x ∈ e.released) ∧
    (∀ past e future, ms = past ++ e :: future →
      e.released = (if e.operation.endsPipeline then e.before.manager.holdings else []) ∧
      ∀ x ∈ e.released, ∃ before m mid, past = before ++ m :: mid ∧ x ∈ m.acquired ∧
        ∀ m' ∈ mid, m'.operation.endsPipeline = false) ∧
    (∀ hook, (∀ m ∈ ms, m.operation = .addHook hook → m.answer = .registered false) →
      Holding.hook hook ∉ ms.flatMap Moment.released) ∧
    ∀ m ∈ ms, ∀ result, m.answer = .started result → result.breaksOff = true →
      m.after.manager.holdings = [] ∧ ∀ signal, (signal, m.before.host.generation + 1) ∉
        components (ms.flatMap Moment.acquired) := by
  intro ms held
  have account := ledger_of_new new ops
  refine ⟨account, fun c => held_or_released_once new ops, ?_, ?_, ?_, ?_⟩
  · intro past m future split x hx
    obtain ⟨xs, op, ys, rfl, rfl, rfl, rfl⟩ := exists_of_moments_eq split
    have sound := isSound_run new.isSound xs
    have got : x ∈ (Moment.after ⟨s.run xs, op⟩).manager.holdings := by
      rw [Moment.holdings_after sound]
      exact List.mem_append_right _ hx
    have last : s.run (xs ++ op :: ys) = (Moment.after ⟨s.run xs, op⟩).run ys :=
      run_append s xs (op :: ys)
    have kept := held_or_released (isSound_step sound op) got ys
    rwa [show held = ((Moment.after ⟨s.run xs, op⟩).run ys).manager.holdings by rw [← last]]
  · intro past e future split
    obtain ⟨xs, op, ys, -, -, rfl, -⟩ := exists_of_moments_eq split
    exact ⟨Moment.released_eq (isSound_run new.isSound xs),
      fun x hx => (acquired_of_mem_released new split hx).2⟩
  · intro hook refused released
    obtain ⟨e, he, asked⟩ := List.mem_flatMap.mp released
    obtain ⟨past, future, split⟩ := List.append_of_mem he
    obtain ⟨-, before, m, mid, rfl, got, -⟩ := acquired_of_mem_released new split asked
    obtain ⟨operation, accepted⟩ := Moment.registered_of_hook_mem_acquired got
    have hm : m ∈ ms := by
      rw [show ms = _ from split]
      simp
    rw [refused m hm operation] at accepted
    cases accepted
  · intro m hm result broken breaksOff
    have sound := isSound_of_mem_moments new.isSound hm
    obtain ⟨nothing, -, ends⟩ := Moment.acquired_of_breaksOff broken breaksOff
    refine ⟨?_, not_acquired_of_breaksOff new.isSound hm broken breaksOff⟩
    rw [Moment.holdings_after sound, nothing, if_pos ends, List.append_nil]

/-- Of two starts with a failing shutdown of the first emitter, the second without a bridge, the
components of the first have been asked to end, and the emitter of the second is held. -/
theorem nothing_lost_or_released_twice_of_restart :
    let s := fresh "own" ⟨"linux", "x86_64", 1, none⟩ [{ sink := "own" }]
    let stuck : Emitter := .ofProvider ⟨some { onShutdown := { work := .hangs } }, false⟩
    let ops : List Operation := [
      .start (.constant (.built stuck) (.built {})) .toLocalhost "" none,
      .addHook ⟨"flush", fun _ _ => ⟨.panicked .other, [], .zero⟩⟩, .closeEmitter 1 .zero,
      .start (.constant (.built stuck) (.failed .missingEndpoint)) .toLocalhost "" none]
    let released := (s.moments ops).flatMap Moment.released
    let held := (s.run ops).manager.holdings
    s.IsNew ∧ (∀ c ∈ [(Signal.logs, 1), (.metrics, 1)],
      c ∉ components held ∧ (components released).count c = 1) ∧
      (Signal.logs, 2) ∈ components held ∧ (Signal.logs, 2) ∉ components released := by
  intro s stuck ops released held
  have new : s.IsNew := isNew_fresh _ _ _
  have acquired : components ((s.moments ops).flatMap Moment.acquired) =
      [(.logs, 1), (.metrics, 1), (.logs, 2)] := by decide +kernel
  have at_last : components held = [(.logs, 2)] := by decide +kernel
  obtain ⟨-, either, -⟩ := nothing_lost_or_released_twice new ops
  rw [acquired] at either
  refine ⟨new, fun c hc => ?_, ?_⟩
  · rcases either c (List.mem_append_left [(Signal.logs, 2)] hc) with ⟨hh, -⟩ | gone
    · rw [at_last] at hh
      revert hc
      rw [List.mem_singleton.mp hh]
      decide
    · exact gone
  · rcases either (.logs, 2) (by decide) with kept | ⟨gone, -⟩
    · exact kept
    · rw [at_last] at gone
      exact absurd (List.mem_singleton_self _) gone

end System

end Telemetry
