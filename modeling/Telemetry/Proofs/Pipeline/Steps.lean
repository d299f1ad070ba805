import Telemetry.Proofs.Host.Routing

/-!
# The steps of a teardown

The parts of a pipeline are its emitter, its bridge and its hooks, in the order in which they are
taken down. Each step asks one part to end, at a reading of the clock that depends on how long the
steps before it took; whether it fails depends on its own part and that reading alone.

* `Work.outcome_wait`, `Work.fault?_zero`: the failure of work that is waited for.
* `takesDown_dismantle`: a teardown takes these steps, all of them and in this order.
-/

namespace Telemetry

/-! ## Parts -/

/-- A part of a pipeline, with the state that a teardown finds it in. -/
inductive Part
  | log (sink : SinkName) (g : Generation) (emitter : Emitter)
  | metrics (g : Generation) (bridge : Bridge)
  | hook (hook : Hook)

/-- Why work failed that is under way and ends in a shutdown, if it is waited for no longer than a
bound. -/
def Work.faultBegun? (name : String) (bound : Duration) :
    Work (Except ProviderError Unit) → Option ComponentError
  | .returns delay outcome =>
    if bound = .zero ∨ ¬ delay ≤ bound then some (.deadlineExceeded bound)
    else match outcome with
      | .ok () => none
      | .error e => some (.provider e)
  | .panics delay =>
    if bound = .zero ∨ ¬ delay ≤ bound then some (.deadlineExceeded bound)
    else some (.worker (name ++ " worker exited without a result"))
  | .hangs => some (.deadlineExceeded bound)

/-- Why work failed that ends in a shutdown, once its worker was asked for. -/
def Work.fault? (name : String) (bound : Duration) (spawn : Spawn)
    (work : Work (Except ProviderError Unit)) : Option ComponentError :=
  match spawn with
  | .refused reason => some (.worker reason)
  | .begins delay => (work.after delay).faultBegun? name bound

/-- Why work fails that is not waited for: its worker is refused, or the time is up at once. -/
def Spawn.faultAtOnce : Spawn → ComponentError
  | refused reason => .worker reason
  | begins _ => .deadlineExceeded .zero

namespace Part

/-- How long an emitter may take to close: its usual time, or what remains until the deadline. -/
def closeBound (deadline : Deadline) (now : Instant) : Duration :=
  Emitter.closeTimeout.min (deadline.remaining now)

/-- What a teardown asks of a part. -/
def request (deadline : Deadline) (now : Instant) : Part → Effect
  | log _ g _ => .closeRequested g (closeBound deadline now)
  | metrics g _ => .shutdownRequested g deadline
  | hook k => .hookRun k deadline now

/-- The failure of the step that takes a part down. -/
def failure? (deadline : Deadline) (now : Instant) : Part → Option ShutdownFailure
  | log _ _ e =>
    (e.provider.shutdown.work.fault? Emitter.closeWork (closeBound deadline now)
      e.workers.next).map .logHook
  | metrics _ b =>
    (b.shutReader.work.fault? Bridge.shutdownWork (deadline.remaining now)
      b.workers.next).map .metricsBridge
  | hook k =>
    match (k.run deadline now).outcome with
    | .done => none
    | .failed text => some (.callback k.name text)
    | .panicked payload => some (.callback k.name ("panicked: " ++ payload.message))

def elapsed (deadline : Deadline) (now : Instant) : Part → Duration
  | log _ _ e => (e.closeWithin (closeBound deadline now)).elapsed
  | metrics _ b => (b.shutdown deadline now).elapsed
  | hook k => (k.run deadline now).elapsed

/-- The milestones of the step. -/
def effects (deadline : Deadline) (now : Instant) : Part → List Effect
  | log sink g e => .detached sink :: e.closingEffects g (closeBound deadline now)
  | metrics g b => b.shutdownEffects g deadline now
  | hook k => .hookRun k deadline now :: (k.run deadline now).events.map (.emitted .hook)

end Part

/-! ## Failures -/

theorem Work.outcome_waitBegun (name : String) (bound : Duration)
    (work : Work (Except ProviderError Unit)) :
    (work.waitBegun name bound).outcome =
      match work.faultBegun? name bound with
      | none => .ok ()
      | some e => .error e := by
  by_cases hb : bound = .zero
  · cases work <;> simp [waitBegun, faultBegun?, hb, Waiting.outcome]
  · cases work with
    | returns delay outcome =>
      by_cases hd : delay ≤ bound
      · rcases outcome with e | _ <;> simp [waitBegun, faultBegun?, hb, hd, Waiting.outcome]
      · simp [waitBegun, faultBegun?, hb, hd, Waiting.outcome]
    | panics delay =>
      by_cases hd : delay ≤ bound <;> simp [waitBegun, faultBegun?, hb, hd, Waiting.outcome]
    | hangs => simp [waitBegun, faultBegun?, hb, Waiting.outcome]

theorem Work.outcome_wait (name : String) (bound : Duration) (spawn : Spawn)
    (work : Work (Except ProviderError Unit)) :
    (work.wait name bound spawn).outcome =
      match work.fault? name bound spawn with
      | none => .ok ()
      | some e => .error e := by
  cases spawn with
  | refused reason => rfl
  | begins delay => exact (work.after delay).outcome_waitBegun name bound

theorem ShutdownFailure.ofResult_outcome_wait (failure : ComponentError → ShutdownFailure)
    (name : String) (bound : Duration) (spawn : Spawn) (work : Work (Except ProviderError Unit)) :
    ShutdownFailure.ofResult failure (some (work.wait name bound spawn).outcome) =
      ((work.fault? name bound spawn).map failure).toList := by
  rw [Work.outcome_wait]
  cases work.fault? name bound spawn <;> rfl

/-- With no time to wait every component fails, whatever it does. -/
theorem Work.fault?_zero (name : String) (spawn : Spawn) (work : Work (Except ProviderError Unit)) :
    work.fault? name .zero spawn = some spawn.faultAtOnce := by
  cases spawn with
  | refused reason => rfl
  | begins delay => cases work <;> simp [fault?, faultBegun?, after, Spawn.faultAtOnce]

/-! ## Steps -/

/-- A part that is taken down at a reading of the clock. -/
structure Step where
  now : Instant
  part : Part

namespace Step

def request (deadline : Deadline) (s : Step) : Effect := s.part.request deadline s.now

def failure? (deadline : Deadline) (s : Step) : Option ShutdownFailure :=
  s.part.failure? deadline s.now

def effects (deadline : Deadline) (s : Step) : List Effect := s.part.effects deadline s.now

end Step

/-- The steps that take parts down one after the other. -/
def schedule (deadline : Deadline) : Instant → List Part → List Step
  | _, [] => []
  | now, part :: rest =>
    ⟨now, part⟩ :: schedule deadline (now.add (part.elapsed deadline now)) rest

/-- The reading of the clock when all parts have been taken down. -/
def finish (deadline : Deadline) : Instant → List Part → Instant
  | now, [] => now
  | now, part :: rest => finish deadline (now.add (part.elapsed deadline now)) rest

theorem schedule_append (deadline : Deadline) (now : Instant) (xs ys : List Part) :
    schedule deadline now (xs ++ ys) =
      schedule deadline now xs ++ schedule deadline (finish deadline now xs) ys := by
  induction xs generalizing now with
  | nil => rfl
  | cons x rest ih => simp only [List.cons_append, schedule, finish, ih]

theorem finish_append (deadline : Deadline) (now : Instant) (xs ys : List Part) :
    finish deadline now (xs ++ ys) = finish deadline (finish deadline now xs) ys := by
  induction xs generalizing now with
  | nil => rfl
  | cons x rest ih => simp only [List.cons_append, finish, ih]

theorem map_part_schedule (deadline : Deadline) (now : Instant) (parts : List Part) :
    (schedule deadline now parts).map Step.part = parts := by
  induction parts generalizing now with
  | nil => rfl
  | cons part rest ih => simp only [schedule, List.map_cons, ih]

/-- From a host some parts are taken down, with a list of failures and a host as the result. -/
structure TakesDown (deadline : Deadline) (h : Host) (parts : List Part)
    (result : List ShutdownFailure × Host) : Prop where
  failures : result.1 = (schedule deadline h.now parts).filterMap (Step.failure? deadline)
  reaches : h.Reaches ((schedule deadline h.now parts).flatMap (Step.effects deadline)) result.2
  now : result.2.now = finish deadline h.now parts

namespace TakesDown

variable {deadline : Deadline} {h : Host} {xs ys : List Part}

theorem nil (deadline : Deadline) (h : Host) : TakesDown deadline h [] ([], h) :=
  ⟨rfl, .refl h, rfl⟩

theorem single {part : Part} {r : List ShutdownFailure × Host}
    (failures : r.1 = (part.failure? deadline h.now).toList)
    (reaches : h.Reaches (part.effects deadline h.now) r.2)
    (now : r.2.now = h.now.add (part.elapsed deadline h.now)) :
    TakesDown deadline h [part] r := by
  refine ⟨?_, ?_, now⟩
  · rw [failures]
    cases hf : part.failure? deadline h.now <;> simp [schedule, Step.failure?, hf]
  · simpa [schedule, Step.effects] using reaches

theorem append {r r' : List ShutdownFailure × Host} (hx : TakesDown deadline h xs r)
    (hy : TakesDown deadline r.2 ys r') : TakesDown deadline h (xs ++ ys) (r.1 ++ r'.1, r'.2) := by
  obtain ⟨f₁, r₁, n₁⟩ := hx
  obtain ⟨f₂, r₂, n₂⟩ := hy
  rw [n₁] at f₂ r₂ n₂
  refine ⟨?_, ?_, ?_⟩
  · rw [f₁, f₂, schedule_append, List.filterMap_append]
  · rw [schedule_append, List.flatMap_append]
    exact r₁.trans r₂
  · rw [n₂, finish_append]

end TakesDown

/-! ## The parts of a pipeline -/

namespace Pipeline

/-- The components of a pipeline exist in a host. -/
structure IsBacked (p : Pipeline) (h : Host) : Prop where
  emitter : ∀ g, p.logHook = some g → g ∈ h.emitters
  bridge : ∀ g, p.bridge = some g → g ∈ h.bridges

def logPart (p : Pipeline) (h : Host) : List Part :=
  (p.logHook.bind fun g => h.emitters[g]?.map (.log p.sink g)).toList

def metricsPart (p : Pipeline) (h : Host) : List Part :=
  (p.bridge.bind fun g => h.bridges[g]?.map (.metrics g)).toList

/-- The parts of a pipeline in the order of their teardown. -/
def parts (p : Pipeline) (h : Host) : List Part :=
  p.logPart h ++ p.metricsPart h ++ p.hooks.map .hook

variable {p : Pipeline} {h : Host}

theorem IsBacked.of_retains {k : Host} (backed : p.IsBacked h) (kept : h.Retains k) :
    p.IsBacked k :=
  ⟨fun g hg => kept.emitters g (backed.emitter g hg),
    fun g hg => kept.bridges g (backed.bridge g hg)⟩

theorem IsBacked.emitter_found (backed : p.IsBacked h) {g : Generation}
    (hook : p.logHook = some g) : ∃ e, h.emitters[g]? = some e :=
  Option.isSome_iff_exists.mp (Std.ExtTreeMap.mem_iff_isSome_getElem?.mp (backed.emitter g hook))

theorem IsBacked.bridge_found (backed : p.IsBacked h) {g : Generation}
    (bridge : p.bridge = some g) : ∃ b, h.bridges[g]? = some b :=
  Option.isSome_iff_exists.mp (Std.ExtTreeMap.mem_iff_isSome_getElem?.mp (backed.bridge g bridge))

theorem logPart_eq {g : Generation} {e : Emitter} (hook : p.logHook = some g)
    (found : h.emitters[g]? = some e) : p.logPart h = [.log p.sink g e] := by
  simp [logPart, hook, found]

theorem metricsPart_eq {g : Generation} {b : Bridge} (bridge : p.bridge = some g)
    (found : h.bridges[g]? = some b) : p.metricsPart h = [.metrics g b] := by
  simp [metricsPart, bridge, found]

/-- Closing the emitter is the step of its part, and it touches no bridge. -/
theorem takesDown_closeLog (backed : p.IsBacked h) (deadline : Deadline) :
    TakesDown deadline h (p.logPart h) (p.closeLog deadline h) ∧
      (p.closeLog deadline h).2.bridges = h.bridges := by
  cases hook : p.logHook with
  | none =>
    have no_part : p.logPart h = [] := by simp [logPart, hook]
    have kept : p.closeLog deadline h = ([], h) := by simp only [closeLog, hook]
    rw [no_part, kept]
    exact ⟨.nil deadline h, rfl⟩
  | some g =>
    obtain ⟨e, found⟩ := backed.emitter_found hook
    let bound := Part.closeBound deadline h.now
    have closed : p.closeLog deadline h =
        (ShutdownFailure.ofResult .logHook ((h.detach p.sink).closeEmitter g bound).1,
          ((h.detach p.sink).closeEmitter g bound).2) := by
      simp only [closeLog, hook]
      rfl
    have result : ((h.detach p.sink).closeEmitter g bound).1 =
        some (e.provider.shutdown.work.wait Emitter.closeWork bound e.workers.next).outcome := by
      simp only [Host.closeEmitter, show (h.detach p.sink).emitters[g]? = some e from found,
        Emitter.closeWithin]
    have kept := Host.unwritten_closeEmitter (h := h.detach p.sink) found bound
    rw [logPart_eq hook found, closed, result, ShutdownFailure.ofResult_outcome_wait]
    refine ⟨.single rfl ?_ (Host.now_of_unwritten kept), (congrArg Host.bridges kept :)⟩
    exact (Host.reaches_detach h p.sink).trans
      (Host.reaches_closeEmitter (h := h.detach p.sink) found bound)

theorem takesDown_closeMetrics (backed : ∀ g, p.bridge = some g → ∃ b, h.bridges[g]? = some b)
    (deadline : Deadline) :
    TakesDown deadline h (p.metricsPart h) (p.closeMetrics deadline h) := by
  cases bridge : p.bridge with
  | none =>
    have no_part : p.metricsPart h = [] := by simp [metricsPart, bridge]
    have kept : p.closeMetrics deadline h = ([], h) := by simp only [closeMetrics, bridge]
    rw [no_part, kept]
    exact .nil deadline h
  | some g =>
    obtain ⟨b, found⟩ := backed g bridge
    have closed : p.closeMetrics deadline h =
        (ShutdownFailure.ofResult .metricsBridge (h.shutdownBridge g deadline).1,
          (h.shutdownBridge g deadline).2) := by
      simp only [closeMetrics, bridge]
    have result : (h.shutdownBridge g deadline).1 =
        some (b.shutReader.work.wait Bridge.shutdownWork (deadline.remaining h.now)
          b.workers.next).outcome := by
      simp only [Host.shutdownBridge, found, Bridge.shutdown]
    have kept := Host.unwritten_shutdownBridge found deadline
    rw [metricsPart_eq bridge found, closed, result, ShutdownFailure.ofResult_outcome_wait]
    exact .single rfl (Host.reaches_shutdownBridge found deadline) (Host.now_of_unwritten kept)

theorem takesDown_runHook (hook : Hook) (deadline : Deadline) (h : Host) :
    TakesDown deadline h [.hook hook] (runHook hook deadline h) := by
  refine .single ?_ ?_ (Host.now_of_unwritten (Host.unwritten_runHook hook deadline h))
  · simp only [runHook, Part.failure?]
    cases (hook.run deadline h.now).outcome <;> rfl
  · have run := Host.reaches_note h (.hookRun hook deadline h.now) rfl
    exact (run.trans (Host.reaches_emitAll _ .hook _)).pass _

theorem takesDown_runHooks (hooks : List Hook) (deadline : Deadline) (h : Host) :
    TakesDown deadline h (hooks.map .hook) (runHooks hooks deadline h) := by
  induction hooks generalizing h with
  | nil => exact .nil deadline h
  | cons hook rest ih => exact (takesDown_runHook hook deadline h).append (ih _)

/-- A teardown takes the steps of all parts in order. -/
theorem takesDown_dismantle (backed : p.IsBacked h) (deadline : Deadline) :
    TakesDown deadline h (p.parts h) (p.dismantle deadline h) := by
  obtain ⟨logs, bridges⟩ := takesDown_closeLog backed deadline
  have metrics := takesDown_closeMetrics (h := (p.closeLog deadline h).2)
    (fun g hg => bridges ▸ backed.bridge_found hg) deadline
  rw [show p.metricsPart (p.closeLog deadline h).2 = p.metricsPart h by
    simp only [metricsPart, bridges]] at metrics
  exact (logs.append metrics).append (takesDown_runHooks p.hooks deadline _)

end Pipeline

end Telemetry
