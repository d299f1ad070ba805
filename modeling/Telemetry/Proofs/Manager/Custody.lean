import Telemetry.Proofs.Manager.Lifecycle

/-!
# What a manager attaches and what it asks to end

A manager holds the components of the active pipeline and its hooks. It asks each of them to end in
a step of a teardown of its own, and detaches the sink before it asks the emitter. An installation
attaches the emitter that it got, if it got one. All other effects of its work are incidental: they
touch no sink and ask nothing of anybody.

* `filter_isSwitch_teardownEffects`, `filter_isSwitch_installEffects`: what touches a sink.
* `filter_isRequest_teardownEffects`, `map_holding_parts`: a teardown asks everything that its
  pipeline holds, in order.
-/

namespace Telemetry

/-- Something that a manager may hold. -/
inductive Holding
  | component (signal : Signal) (g : Generation)
  | hook (hook : Hook)

/-- What a pipeline holds, in the order of its teardown. -/
def Pipeline.holdings (p : Pipeline) : List Holding :=
  (p.logHook.map (.component .logs)).toList ++ (p.bridge.map (.component .metrics)).toList ++
    p.hooks.map .hook

def Manager.holdings (m : Manager) : List Holding := m.active.elim [] Pipeline.holdings

/-- The switches of the teardown of a pipeline. -/
def Pipeline.detachment (p : Pipeline) : List Effect :=
  (p.logHook.map fun _ => .detached p.sink).toList

def Manager.detachment (m : Manager) : List Effect := m.active.elim [] Pipeline.detachment

/-- The switches of the installation of a pipeline. -/
def Pipeline.attachment (p : Pipeline) : List Effect :=
  (p.logHook.map (.attached p.sink)).toList

namespace Effect

/-- What an effect asks to end. -/
def requested? : Effect → Option Holding
  | .closeRequested g _ => some (.component .logs g)
  | .shutdownRequested g _ => some (.component .metrics g)
  | .hookRun hook _ _ => some (.hook hook)
  | _ => none

def isRequest (effect : Effect) : Bool := effect.requested?.isSome

def isCall : Effect → Bool
  | .built .. => true
  | _ => false

/-- Whether an effect neither touches a sink nor asks anything to end. -/
def isQuiet (effect : Effect) : Bool := !effect.isSwitch && !effect.isRequest

/-- Whether an effect, besides, is no call of a factory. -/
def isIncidental (effect : Effect) : Bool := effect.isQuiet && !effect.isCall

theorem filterMap_requested?_filter (effects : List Effect) :
    (effects.filter isRequest).filterMap requested? = effects.filterMap requested? := by
  rw [List.filterMap_filter]
  congr 1
  funext effect
  cases requested : effect.requested? <;> simp [isRequest, requested]

theorem isQuiet_of_isIncidental {effect : Effect} (h : effect.isIncidental = true) :
    effect.isQuiet = true :=
  (Bool.and_eq_true_iff.mp h).1

theorem isSwitch_of_isIncidental {effect : Effect} (h : effect.isIncidental = true) :
    effect.isSwitch = false := by
  cases effect <;> first | rfl | cases h

theorem isRequest_of_isIncidental {effect : Effect} (h : effect.isIncidental = true) :
    effect.isRequest = false := by
  cases effect <;> first | rfl | cases h

theorem isCall_of_isIncidental {effect : Effect} (h : effect.isIncidental = true) :
    effect.isCall = false := by
  cases effect <;> first | rfl | cases h

theorem filter_isSwitch_of_isQuiet {effects : List Effect} (h : ∀ x ∈ effects, x.isQuiet = true) :
    effects.filter isSwitch = [] := by
  rw [List.filter_eq_nil_iff]
  intro x hx
  simpa using (Bool.and_eq_true_iff.mp (h x hx)).1

theorem filter_isRequest_of_isQuiet {effects : List Effect} (h : ∀ x ∈ effects, x.isQuiet = true) :
    effects.filter isRequest = [] := by
  rw [List.filter_eq_nil_iff]
  intro x hx
  simpa using (Bool.and_eq_true_iff.mp (h x hx)).2

theorem filter_isCall_of_isIncidental {effects : List Effect}
    (h : ∀ x ∈ effects, x.isIncidental = true) : effects.filter isCall = [] := by
  rw [List.filter_eq_nil_iff]
  intro x hx
  simpa using (Bool.and_eq_true_iff.mp (h x hx)).2

theorem isIncidental_of_mem_emitted {origin : Origin} {events : List Event} {x : Effect}
    (hx : x ∈ events.map (emitted origin)) : x.isIncidental = true := by
  obtain ⟨event, -, rfl⟩ := List.mem_map.mp hx
  rfl

theorem isIncidental_of_mem_asked {asked : Bool} {signal : Signal} {g : Generation} {x : Effect}
    (hx : x ∈ if asked then [shutDown signal g] else []) : x.isIncidental = true := by
  cases asked with
  | true =>
    obtain rfl := List.mem_singleton.mp hx
    rfl
  | false => cases hx

end Effect

/-! ## Parts -/

theorem LoggerProvider.isIncidental_of_mem_shutdownEffects {p : LoggerProvider} {g : Generation}
    {x : Effect} (hx : x ∈ p.shutdownEffects g) : x.isIncidental = true := by
  rcases List.mem_append.mp hx with hx | hx
  · exact Effect.isIncidental_of_mem_asked hx
  · exact Effect.isIncidental_of_mem_emitted hx

theorem Bridge.isIncidental_of_mem_readerEffects {b : Bridge} {g : Generation} {x : Effect}
    (hx : x ∈ b.readerEffects g) : x.isIncidental = true := by
  rcases List.mem_append.mp hx with hx | hx
  · rcases List.mem_append.mp hx with hx | hx
    · exact Effect.isIncidental_of_mem_asked hx
    · obtain ⟨series, -, rfl⟩ : ∃ series, b.shutReader.collected = some series ∧
          Effect.collected g series = x := by simpa using hx
      rfl
  · exact Effect.isIncidental_of_mem_emitted hx

theorem Emitter.closingEffects_eq (e : Emitter) (g : Generation) (bound : Duration) :
    ∃ rest, e.closingEffects g bound = .closeRequested g bound :: rest ∧
      ∀ x ∈ rest, x.isIncidental = true := by
  refine ⟨_, rfl, fun x hx => ?_⟩
  split at hx
  · exact LoggerProvider.isIncidental_of_mem_shutdownEffects hx
  · cases hx

theorem Emitter.isIncidental_of_mem_dropEffects {e : Emitter} {g : Generation} {x : Effect}
    (hx : x ∈ e.dropEffects g) : x.isIncidental = true := by
  rw [dropEffects] at hx
  split at hx
  · exact LoggerProvider.isIncidental_of_mem_shutdownEffects hx
  · cases hx

theorem Bridge.shutdownEffects_eq (b : Bridge) (g : Generation) (deadline : Deadline)
    (now : Instant) :
    ∃ rest, b.shutdownEffects g deadline now = .shutdownRequested g deadline :: rest ∧
      ∀ x ∈ rest, x.isIncidental = true := by
  refine ⟨_, rfl, fun x hx => ?_⟩
  split at hx
  · exact isIncidental_of_mem_readerEffects hx
  · cases hx

/-- A worker that was left behind touches no sink and asks nothing of anybody. -/
theorem Host.isIncidental_of_mem_wakeEffects {h : Host} {signal : Signal} {g : Generation}
    {x : Effect} (hx : x ∈ h.wakeEffects signal g) : x.isIncidental = true := by
  cases signal with
  | logs =>
    rw [wakeEffects] at hx
    cases found : h.emitters[g]? with
    | none => rw [found] at hx; cases hx
    | some e =>
      rw [found, Option.elim_some] at hx
      split at hx
      · cases hx
      · exact LoggerProvider.isIncidental_of_mem_shutdownEffects hx
  | metrics =>
    rw [wakeEffects] at hx
    cases found : h.bridges[g]? with
    | none => rw [found] at hx; cases hx
    | some b =>
      rw [found, Option.elim_some] at hx
      split at hx
      · cases hx
      · exact Bridge.isIncidental_of_mem_readerEffects hx

namespace Part

def holding : Part → Holding
  | log _ g _ => .component .logs g
  | metrics g _ => .component .metrics g
  | hook k => .hook k

/-- The switches that a teardown makes for a part. -/
def switches : Part → List Effect
  | log sink _ _ => [.detached sink]
  | _ => []

theorem requested?_request (deadline : Deadline) (now : Instant) (part : Part) :
    (part.request deadline now).requested? = some part.holding := by
  cases part <;> rfl

/-- Taking a part down begins with its switch and its request. -/
theorem effects_eq (deadline : Deadline) (now : Instant) (part : Part) :
    ∃ rest, part.effects deadline now = part.switches ++ part.request deadline now :: rest ∧
      ∀ x ∈ rest, x.isIncidental = true := by
  cases part with
  | log sink g e =>
    obtain ⟨rest, closing, incidental⟩ := e.closingEffects_eq g (closeBound deadline now)
    exact ⟨rest, by rw [effects, closing]; rfl, incidental⟩
  | metrics g b => exact b.shutdownEffects_eq g deadline now
  | hook k => exact ⟨_, rfl, fun x hx => Effect.isIncidental_of_mem_emitted hx⟩

/-- What is incidental aside, taking a part down is its switch and its request. -/
theorem filter_effects {keep : Effect → Bool}
    (incidental : ∀ x : Effect, x.isIncidental = true → keep x = false) (deadline : Deadline)
    (now : Instant) (part : Part) :
    (part.effects deadline now).filter keep =
      (part.switches ++ [part.request deadline now]).filter keep := by
  obtain ⟨rest, effects, left⟩ := part.effects_eq deadline now
  have nothing : rest.filter keep = [] := by
    rw [List.filter_eq_nil_iff]
    intro x hx kept
    rw [incidental x (left x hx)] at kept
    cases kept
  rw [effects, List.append_cons, List.filter_append, nothing, List.append_nil]

end Part

theorem filter_schedule {keep : Effect → Bool}
    (incidental : ∀ x : Effect, x.isIncidental = true → keep x = false) (deadline : Deadline)
    (now : Instant) (parts : List Part) :
    ((schedule deadline now parts).flatMap (Step.effects deadline)).filter keep =
      (schedule deadline now parts).flatMap fun step =>
        (step.part.switches ++ [step.request deadline]).filter keep := by
  rw [List.filter_flatMap]
  congr 1
  funext step
  exact step.part.filter_effects incidental deadline step.now

theorem filter_isSwitch_schedule (deadline : Deadline) (now : Instant) (parts : List Part) :
    ((schedule deadline now parts).flatMap (Step.effects deadline)).filter Effect.isSwitch =
      parts.flatMap Part.switches := by
  have switches : ∀ step : Step, (step.part.switches ++ [step.request deadline]).filter
      Effect.isSwitch = step.part.switches := by
    rintro ⟨now, part⟩
    cases part <;> rfl
  rw [filter_schedule fun _ => Effect.isSwitch_of_isIncidental]
  simp only [switches]
  rw [← List.flatMap_map, map_part_schedule]

theorem filter_isRequest_schedule (deadline : Deadline) (now : Instant) (parts : List Part) :
    ((schedule deadline now parts).flatMap (Step.effects deadline)).filter Effect.isRequest =
      (schedule deadline now parts).map (Step.request deadline) := by
  have request : ∀ step : Step, (step.part.switches ++ [step.request deadline]).filter
      Effect.isRequest = [step.request deadline] := by
    rintro ⟨now, part⟩
    cases part <;> rfl
  rw [filter_schedule fun _ => Effect.isRequest_of_isIncidental]
  simp only [request]
  exact List.map_eq_flatMap.symm

theorem filter_isCall_schedule (deadline : Deadline) (now : Instant) (parts : List Part) :
    ((schedule deadline now parts).flatMap (Step.effects deadline)).filter Effect.isCall = [] := by
  rw [filter_schedule fun _ => Effect.isCall_of_isIncidental, List.flatMap_eq_nil_iff]
  rintro ⟨now, part⟩ -
  cases part <;> rfl

/-! ## Teardowns -/

namespace Pipeline

variable {p : Pipeline} {h : Host}

/-- The parts of a pipeline are all that it holds. -/
theorem map_holding_parts (backed : p.IsBacked h) : (p.parts h).map Part.holding = p.holdings := by
  have logs : (p.logPart h).map Part.holding = (p.logHook.map (.component .logs)).toList := by
    cases hook : p.logHook with
    | none => simp [logPart, hook]
    | some g =>
      obtain ⟨e, found⟩ := backed.emitter_found hook
      simp [logPart_eq hook found, Part.holding]
  have metrics : (p.metricsPart h).map Part.holding =
      (p.bridge.map (.component .metrics)).toList := by
    cases bridge : p.bridge with
    | none => simp [metricsPart, bridge]
    | some g =>
      obtain ⟨b, found⟩ := backed.bridge_found bridge
      simp [metricsPart_eq bridge found, Part.holding]
  have hooks : (p.hooks.map Part.hook).map Part.holding = p.hooks.map .hook := by
    rw [List.map_map]
    rfl
  rw [parts, List.map_append, List.map_append, logs, metrics, hooks, holdings]

theorem flatMap_switches_parts (backed : p.IsBacked h) :
    (p.parts h).flatMap Part.switches = p.detachment := by
  have hooks : (p.hooks.map Part.hook).flatMap Part.switches = [] := by
    simp [List.flatMap_eq_nil_iff, Part.switches]
  have metrics : (p.metricsPart h).flatMap Part.switches = [] := by
    cases bridge : p.bridge with
    | none => simp [metricsPart, bridge]
    | some g =>
      obtain ⟨b, found⟩ := backed.bridge_found bridge
      simp [metricsPart_eq bridge found, Part.switches]
  rw [parts, List.flatMap_append, List.flatMap_append, metrics, hooks, List.append_nil,
    List.append_nil, detachment]
  cases hook : p.logHook with
  | none => simp [logPart, hook]
  | some g =>
    obtain ⟨e, found⟩ := backed.emitter_found hook
    simp [logPart_eq hook found, Part.switches]

theorem filter_isSwitch_teardownEffects (backed : p.IsBacked h) (deadline : Deadline) :
    (p.teardownEffects deadline h).filter Effect.isSwitch = p.detachment := by
  rw [teardownEffects, List.filter_append, steps, filter_isSwitch_schedule,
    flatMap_switches_parts backed]
  split <;> simp [Effect.isSwitch]

theorem filter_isRequest_teardownEffects (p : Pipeline) (deadline : Deadline) (h : Host) :
    (p.teardownEffects deadline h).filter Effect.isRequest =
      (p.steps deadline h).map (Step.request deadline) := by
  rw [teardownEffects, List.filter_append, steps, filter_isRequest_schedule]
  split <;> simp [Effect.isRequest, Effect.requested?]

theorem filter_isCall_teardownEffects (p : Pipeline) (deadline : Deadline) (h : Host) :
    (p.teardownEffects deadline h).filter Effect.isCall = [] := by
  rw [teardownEffects, List.filter_append, steps, filter_isCall_schedule]
  split <;> simp [Effect.isCall]

/-- A teardown asks everything to end that its pipeline holds. -/
theorem filterMap_requested?_teardownEffects (backed : p.IsBacked h) (deadline : Deadline) :
    (p.teardownEffects deadline h).filterMap Effect.requested? = p.holdings := by
  rw [← Effect.filterMap_requested?_filter, filter_isRequest_teardownEffects, List.filterMap_map]
  calc (p.steps deadline h).filterMap (Effect.requested? ∘ Step.request deadline)
      = (p.steps deadline h).map fun step => step.part.holding := by
        rw [← List.filterMap_eq_map]
        congr 1
        funext step
        exact step.part.requested?_request deadline step.now
    _ = p.holdings := by
        rw [← map_holding_parts backed, ← map_part_schedule deadline h.now (p.parts h),
          List.map_map]
        rfl

/-- A teardown detaches the sink before it does anything else, and touches no sink after it. -/
theorem teardownEffects_eq (backed : p.IsBacked h) (deadline : Deadline) :
    ∃ rest, p.teardownEffects deadline h = p.detachment ++ rest ∧
      rest.filter Effect.isSwitch = [] := by
  have switches := filter_isSwitch_teardownEffects backed deadline
  cases hook : p.logHook with
  | none =>
    have no_switch : p.detachment = [] := by simp [detachment, hook]
    exact ⟨_, by rw [no_switch, List.nil_append], by rw [switches, no_switch]⟩
  | some g =>
    obtain ⟨e, found⟩ := backed.emitter_found hook
    have one_switch : p.detachment = [.detached p.sink] := by simp [detachment, hook]
    obtain ⟨rest, first⟩ : ∃ rest, p.teardownEffects deadline h = .detached p.sink :: rest := by
      simp [teardownEffects, steps, parts, logPart_eq hook found, schedule, Step.effects,
        Part.effects]
    refine ⟨rest, by rw [first, one_switch]; rfl, ?_⟩
    rw [first, one_switch, List.filter_cons_of_pos rfl] at switches
    simpa using switches

end Pipeline

/-! ## Replacements and installations -/

namespace Manager

theorem isDetached_of_mem_detachment {m : Manager} {x : Effect} (hx : x ∈ m.detachment) :
    ∃ sink, x = .detached sink := by
  rw [detachment] at hx
  cases active : m.active with
  | none => simp [active] at hx
  | some p =>
    rw [active, Option.elim_some, Pipeline.detachment] at hx
    cases hook : p.logHook with
    | none => simp [hook] at hx
    | some g => exact ⟨p.sink, by simpa [hook] using hx⟩

variable (m : Manager) (factory : Factory) (config : Config) (version : String)
  (sink : Option SinkName) (h : Host)

theorem filter_isSwitch_replacementEffects {m : Manager} {h : Host}
    (backed : ∀ p, m.active = some p → p.IsBacked h) :
    (m.replacementEffects h).filter Effect.isSwitch = m.detachment := by
  rw [detachment]
  cases active : m.active with
  | none => simp [replacementEffects, active]
  | some p =>
    rw [replacementEffects, active, Option.elim_some, Option.elim_some,
      List.filter_cons_of_neg (by simp [Effect.isSwitch]), retirement, List.filter_append,
      Pipeline.filter_isSwitch_teardownEffects (isBacked_announced (backed p active))]
    split <;> simp [Effect.isSwitch]

theorem filter_isCall_replacementEffects (m : Manager) (h : Host) :
    (m.replacementEffects h).filter Effect.isCall = [] := by
  cases active : m.active with
  | none => simp [replacementEffects, active]
  | some p =>
    rw [replacementEffects, active, Option.elim_some,
      List.filter_cons_of_neg (by simp [Effect.isCall]), retirement, List.filter_append,
      Pipeline.filter_isCall_teardownEffects]
    split <;> simp [Effect.isCall]

/-- A replacement asks everything to end that is held. -/
theorem filterMap_requested?_replacementEffects {m : Manager} {h : Host}
    (backed : ∀ p, m.active = some p → p.IsBacked h) :
    (m.replacementEffects h).filterMap Effect.requested? = m.holdings := by
  cases active : m.active with
  | none => simp [replacementEffects, holdings, active]
  | some p =>
    rw [replacementEffects, holdings, active, Option.elim_some, Option.elim_some,
      List.filterMap_cons_none rfl, retirement, List.filterMap_append,
      Pipeline.filterMap_requested?_teardownEffects (isBacked_announced (backed p active))]
    split <;> simp [Effect.requested?]

theorem isQuiet_of_mem_callEffects {α : Type} {clock : Timestamp} {signal : Signal}
    {wanted : Bool} {resource : Resource} {failed : String} {build : Build α} {x : Effect}
    (hx : x ∈ callEffects clock signal wanted config resource failed build) : x.isQuiet = true := by
  cases wanted with
  | false => cases hx
  | true =>
    rcases List.mem_cons.mp hx with rfl | hx
    · rfl
    · exact Effect.isQuiet_of_isIncidental (Effect.isIncidental_of_mem_emitted hx)

theorem isQuiet_of_mem_callsEffects {x : Effect}
    (hx : x ∈ callsEffects factory config version h) : x.isQuiet = true := by
  rw [callsEffects] at hx
  rcases List.mem_append.mp hx with hx | hx
  · rcases List.mem_append.mp hx with hx | hx
    · exact Effect.isQuiet_of_isIncidental (Effect.isIncidental_of_mem_emitted hx)
    · exact isQuiet_of_mem_callEffects config hx
  · split at hx
    · cases hx
    · exact isQuiet_of_mem_callEffects config hx

theorem isIncidental_of_mem_releaseEffects {resource : Resource} {g : Generation} {x : Effect}
    (hx : x ∈ releaseEffects factory config resource g) : x.isIncidental = true := by
  rw [releaseEffects] at hx
  cases built : (factory.logs config resource).component? config.exportLogs with
  | none => rw [built] at hx; cases hx
  | some e =>
    rw [built] at hx
    exact Emitter.isIncidental_of_mem_dropEffects hx

/-- An installation attaches its emitter if it is completed; the rest of it is quiet. -/
theorem installEffects_eq :
    ∃ calls last, installEffects m factory config version sink h = calls ++ last ∧
      (∀ x ∈ calls, x.isQuiet = true) ∧
      last = match product m factory config version sink h with
        | .ok p => openingEffects h.clock p
        | .error _ => [] := by
  have calls : ∀ x ∈ callsEffects factory config version h, x.isQuiet = true :=
    fun _ => isQuiet_of_mem_callsEffects factory config version h
  rw [installEffects]
  cases product m factory config version sink h with
  | ok p => exact ⟨_, _, rfl, calls, rfl⟩
  | error payload =>
    refine ⟨_, [], (List.append_nil _).symm, fun x hx => ?_, rfl⟩
    rcases List.mem_append.mp hx with hx | hx
    · exact calls x hx
    · exact Effect.isQuiet_of_isIncidental (isIncidental_of_mem_releaseEffects _ _ hx)

theorem filter_isSwitch_installEffects :
    (installEffects m factory config version sink h).filter Effect.isSwitch =
      (product m factory config version sink h).toOption.elim [] Pipeline.attachment := by
  obtain ⟨calls, last, effects, quiet, hl⟩ := installEffects_eq m factory config version sink h
  rw [effects, List.filter_append, Effect.filter_isSwitch_of_isQuiet quiet, hl, List.nil_append]
  cases product m factory config version sink h with
  | error payload => rfl
  | ok p =>
    simp only [openingEffects, Except.toOption, Option.elim_some, Pipeline.attachment]
    cases p.logHook <;> rfl

theorem filterMap_requested?_installEffects :
    (installEffects m factory config version sink h).filterMap Effect.requested? = [] := by
  obtain ⟨calls, last, effects, quiet, hl⟩ := installEffects_eq m factory config version sink h
  rw [effects, List.filterMap_append, ← Effect.filterMap_requested?_filter calls,
    Effect.filter_isRequest_of_isQuiet quiet, hl]
  cases product m factory config version sink h with
  | error payload => rfl
  | ok p =>
    simp only [openingEffects]
    cases p.logHook <;> rfl

theorem filter_isCall_callEffects {α : Type} (clock : Timestamp) (signal : Signal)
    (wanted : Bool) (resource : Resource) (failed : String) (build : Build α) :
    (callEffects clock signal wanted config resource failed build).filter Effect.isCall =
      if wanted then [.built signal config resource] else [] := by
  cases wanted with
  | false => rfl
  | true =>
    rw [callEffects, if_pos rfl, if_pos rfl, List.filter_cons_of_pos rfl,
      Effect.filter_isCall_of_isIncidental fun _ => Effect.isIncidental_of_mem_emitted]

/-- After the calls of an installation the factory is not called again. -/
theorem filter_isCall_installEffects_eq :
    (installEffects m factory config version sink h).filter Effect.isCall =
      (callsEffects factory config version h).filter Effect.isCall := by
  have last : ∀ p : Pipeline, (openingEffects h.clock p).filter Effect.isCall = [] := by
    intro p
    rw [openingEffects]
    cases p.logHook <;> rfl
  have released : (releaseEffects factory config (h.resource config version)
      (h.generation + 1)).filter Effect.isCall = [] :=
    Effect.filter_isCall_of_isIncidental fun _ => isIncidental_of_mem_releaseEffects _ _
  rw [installEffects, List.filter_append]
  cases product m factory config version sink h with
  | ok p => simp only [last, List.append_nil]
  | error payload => simp only [released, List.append_nil]

theorem filter_isCall_installEffects :
    (installEffects m factory config version sink h).filter Effect.isCall =
      (if config.exportLogs then [.built .logs config (h.resource config version)] else []) ++
        match logOutcome factory config (h.resource config version) (h.generation + 1) with
        | .error _ => []
        | .ok _ =>
          if config.exportMetrics then [.built .metrics config (h.resource config version)]
          else [] := by
  have warned : ((Resource.warnings h.clock (Resource.hostName? h.hostNames)).map
      (Effect.emitted .manager)).filter Effect.isCall = [] :=
    Effect.filter_isCall_of_isIncidental fun _ => Effect.isIncidental_of_mem_emitted
  rw [filter_isCall_installEffects_eq, callsEffects, List.filter_append, List.filter_append, warned,
    List.nil_append, logEffects, filter_isCall_callEffects]
  cases logOutcome factory config (h.resource config version) (h.generation + 1) with
  | error payload => rfl
  | ok hook => simp only [metricsEffects, filter_isCall_callEffects]

end Manager

end Telemetry
