import Telemetry.Proofs.Run.Installation
import Telemetry.Proofs.Run.Teardown

/-!
# The log of a manager

A manager tells in a few lines what becomes of its pipelines, and some of that is to be seen nowhere
else: that a pipeline has lost a signal, or that the one before it did not come down cleanly.

* `managerLog_teardownEffects`, `managerLog_installEffects`: the lines of a teardown and of an
  installation.
* `manager_reports_lifecycle`: the lines of every start and every shutdown.
-/

namespace Telemetry

/-- A line of a log: a level, a message and the texts of its fields. -/
structure LogLine where
  level : EventLevel
  message : String
  fields : List (String × String) := []
  deriving DecidableEq, Repr

namespace LogLine

def disabled : LogLine := ⟨.info, "OTEL integration is disabled", []⟩

def replacing : LogLine := ⟨.info, "replacing active telemetry pipeline", []⟩

def shutDown (endpoint : String) : LogLine :=
  ⟨.info, "telemetry pipeline shut down", [("endpoint", endpoint)]⟩

/-- The steps that failed when a pipeline was taken down for another one. -/
def unclean (failures : List ShutdownFailure) : LogLine :=
  ⟨.warn, "previous telemetry pipeline did not shut down cleanly",
    [("error", "OTEL shutdown errors: [" ++
      String.intercalate "; " (failures.map ShutdownFailure.message) ++ "]")]⟩

def unknownHost : LogLine := ⟨.warn, "host name not detectable; omitting host.name", []⟩

/-- What is told of a pipeline that was taken down for another one. -/
def ofReplaced (p : Pipeline) (failures : List ShutdownFailure) : LogLine :=
  if failures = [] then shutDown p.config.endpoint else unclean failures

/-- The loss of a signal whose component cannot be built. -/
def lossOf : Signal → String
  | .logs => "failed to create OTLP log exporter; log export disabled"
  | .metrics => "failed to create OTLP metric reader; metric export disabled"

def lost (signal : Signal) (e : SetupError) : LogLine :=
  ⟨.error, lossOf signal, [("error", e.message)]⟩

def started (config : Config) (logs metrics : Bool) : LogLine :=
  ⟨.info, "telemetry pipeline started; SDK diagnostics are reported through tracing",
    [("endpoint", config.endpoint), ("protocol", config.protocol.name), ("logs", toString logs),
      ("metrics", toString metrics)]⟩

/-- What is told of a call of the factory, if the start makes it. -/
def ofCall {α : Type} (signal : Signal) (wanted : Bool) : Build α → List LogLine
  | .failed e => if wanted then [lost signal e] else []
  | _ => []

/-- Of a call that panics nothing is told. -/
theorem ofCall_of_map_outcome {α β : Type} {signal : Signal} {wanted : Bool} {build : Build α}
    {f : Option α → β} {payload : PanicPayload}
    (panicked : (build.outcome wanted).map f = .error payload) :
    ofCall signal wanted build = [] := by
  cases build with
  | failed e => cases panicked
  | _ => rfl

/-- The line of an event. -/
def ofEvent (e : Event) : LogLine where
  level := e.level
  message := e.message
  fields := e.details.map fun field => (field.1, field.2.recorded)

end LogLine

/-- The line that an effect adds to the log of the manager, if it is an event of the manager. -/
def Effect.managerLine? : Effect → Option LogLine
  | .emitted .manager event => some (.ofEvent event)
  | _ => none

/-- The lines that some effects add to the log of the manager. -/
def managerLog (effects : List Effect) : List LogLine := effects.filterMap Effect.managerLine?

/-- The lines that the manager adds to its log. -/
def Moment.log (m : Moment) : List LogLine := managerLog m.effects

theorem managerLog_append (xs ys : List Effect) :
    managerLog (xs ++ ys) = managerLog xs ++ managerLog ys :=
  List.filterMap_append

theorem managerLog_map_emitted (events : List Event) :
    managerLog (events.map (.emitted .manager)) = events.map .ofEvent := by
  rw [managerLog, List.filterMap_map]
  exact congrFun List.filterMap_eq_map events

/-! ## Lines of reports -/

section Report

variable (clock : Timestamp) (level : EventLevel) (target message : String)
  (fields : List (String × Value))

theorem Event.recordedFields_report : (report clock level target message fields).recordedFields =
    (messageKey, .debug message) :: fields := by
  have kept : (fields.map fun field => (field.1, some field.2)).filterMap
      (fun field => field.2.map (field.1, ·)) = fields := by
    rw [List.filterMap_map]
    exact List.filterMap_some
  exact congrArg ((messageKey, .debug message) :: ·) kept

/-- A report has the line that it is made for, as long as no other field is named as a message. -/
theorem LogLine.ofEvent_report (names : ∀ field ∈ fields, field.1 ≠ Event.messageKey) :
    ofEvent (.report clock level target message fields) =
      ⟨level, message, fields.map fun field => (field.1, field.2.recorded)⟩ := by
  have messages : fields.filter (fun field => field.1 = Event.messageKey) = [] :=
    List.filter_eq_nil_iff.mpr fun field hf => by simpa using names field hf
  have others : fields.filter (fun field => field.1 ≠ Event.messageKey) = fields :=
    List.filter_eq_self.mpr fun field hf => decide_eq_true (names field hf)
  have text : (Event.report clock level target message fields).message = message := by
    rw [Event.message, Event.recordedFields_report, List.filter_cons_of_pos (by simp), messages]
    rfl
  have details : (Event.report clock level target message fields).details = fields := by
    rw [Event.details, Event.recordedFields_report, List.filter_cons_of_neg (by simp), others]
  rw [ofEvent, text, details]
  rfl

end Report

/-! ## Effects without lines -/

theorem managerLog_map_emitted_of_ne {origin : Origin} (other : origin ≠ .manager)
    (events : List Event) : managerLog (events.map (.emitted origin)) = [] := by
  refine List.filterMap_eq_nil_iff.mpr fun x hx => ?_
  obtain ⟨event, -, rfl⟩ := List.mem_map.mp hx
  cases origin with
  | manager => exact absurd rfl other
  | _ => rfl

theorem managerLog_asked (asked : Bool) (signal : Signal) (g : Generation) :
    managerLog (if asked then [.shutDown signal g] else []) = [] := by
  cases asked <;> rfl

theorem LoggerProvider.managerLog_shutdownEffects (p : LoggerProvider) (g : Generation) :
    managerLog (p.shutdownEffects g) = [] := by
  rw [shutdownEffects, managerLog_append, managerLog_asked,
    managerLog_map_emitted_of_ne (by decide), List.append_nil]

theorem Bridge.managerLog_readerEffects (b : Bridge) (g : Generation) :
    managerLog (b.readerEffects g) = [] := by
  rw [readerEffects, managerLog_append, managerLog_append, managerLog_asked,
    managerLog_map_emitted_of_ne (by decide)]
  cases b.shutReader.collected <;> rfl

/-- The steps of a teardown are no events of the manager. -/
theorem Part.managerLog_effects (deadline : Deadline) (now : Instant) (part : Part) :
    managerLog (part.effects deadline now) = [] := by
  cases part with
  | log sink g e =>
    change managerLog (if _ then e.provider.shutdownEffects g else []) = []
    split
    · exact e.provider.managerLog_shutdownEffects g
    · rfl
  | metrics g b =>
    change managerLog (if _ then b.readerEffects g else []) = []
    split
    · exact b.managerLog_readerEffects g
    · rfl
  | hook hook => exact managerLog_map_emitted_of_ne (by decide) _

/-! ## Teardown -/

namespace Pipeline

/-- A teardown adds a line if no step fails, and otherwise none. -/
theorem managerLog_teardownEffects (p : Pipeline) (deadline : Deadline) (h : Host) :
    managerLog (p.teardownEffects deadline h) =
      if p.failures deadline h = [] then [.shutDown p.config.endpoint] else [] := by
  have steps : managerLog ((p.steps deadline h).flatMap (Step.effects deadline)) = [] := by
    rw [managerLog, List.filterMap_flatMap, List.flatMap_eq_nil_iff]
    exact fun step _ => step.part.managerLog_effects deadline step.now
  have told : LogLine.ofEvent (p.shutDownEvent h.clock) = .shutDown p.config.endpoint :=
    LogLine.ofEvent_report _ _ _ _ _ (by simp [Event.messageKey])
  rw [teardownEffects, managerLog_append, steps, List.nil_append, ← told]
  split <;> rfl

end Pipeline

namespace Manager

/-- The teardown of a replaced pipeline and the complaint about it come to one line. -/
theorem managerLog_retirement (p : Pipeline) (h : Host) :
    managerLog (retirement p h) =
      [.ofReplaced p (p.failures (replaceDeadline h) (announced h))] := by
  rw [retirement, managerLog_append, Pipeline.managerLog_teardownEffects, LogLine.ofReplaced]
  by_cases clean : p.failures (replaceDeadline h) (announced h) = []
  · rw [ShutdownError.ofFailures?_eq_none_iff.mpr clean, if_pos clean, if_pos clean]
    rfl
  · obtain ⟨e, failed⟩ := Option.ne_none_iff_exists'.mp
      (mt ShutdownError.ofFailures?_eq_none_iff.mp clean)
    have told : LogLine.ofEvent (uncleanEvent h.clock e) = .unclean e.failures :=
      LogLine.ofEvent_report _ _ _ _ _ (by simp [Event.messageKey])
    rw [failed, if_neg clean, if_neg clean, ← ShutdownError.failures_ofFailures? failed, ← told]
    rfl

theorem managerLog_replacementEffects (m : Manager) (h : Host) :
    managerLog (m.replacementEffects h) = m.active.elim [] fun p =>
      [.replacing, .ofReplaced p (p.failures (replaceDeadline h) (announced h))] := by
  rw [replacementEffects]
  cases m.active with
  | none => rfl
  | some p =>
    have told : LogLine.ofEvent (replacingEvent h.clock) = .replacing :=
      LogLine.ofEvent_report _ _ _ _ _ (by simp)
    rw [Option.elim_some, Option.elim_some, ← managerLog_retirement, ← told]
    rfl

/-! ## Installation -/

theorem managerLog_callEffects {α : Type} (clock : Timestamp) (signal : Signal) (wanted : Bool)
    (config : Config) (resource : Resource) (build : Build α) :
    managerLog (callEffects clock signal wanted config resource (LogLine.lossOf signal) build) =
      LogLine.ofCall signal wanted build := by
  cases wanted with
  | false => cases build <;> rfl
  | true =>
    have told : managerLog (callEffects clock signal true config resource (LogLine.lossOf signal)
        build) = (complaints clock (LogLine.lossOf signal) build).map .ofEvent :=
      managerLog_map_emitted _
    rw [told]
    cases build with
    | failed e =>
      have told : LogLine.ofEvent (.report clock .error target (LogLine.lossOf signal)
          [("error", .display e.message)]) = .lost signal e :=
        LogLine.ofEvent_report _ _ _ _ _ (by simp [Event.messageKey])
      exact congrArg (fun line => [line]) told
    | _ => rfl

theorem managerLog_warnings (clock : Timestamp) (host : Option String) :
    managerLog ((Resource.warnings clock host).map (.emitted .manager)) =
      if host = none then [.unknownHost] else [] := by
  cases host with
  | none =>
    have told : LogLine.ofEvent (.report clock .warn Resource.target
        ("host name not detectable; omitting " ++ Resource.hostKey)) = .unknownHost :=
      LogLine.ofEvent_report _ _ _ _ _ (by simp)
    exact congrArg (fun line => [line]) told
  | some name => rfl

theorem managerLog_openingEffects (clock : Timestamp) (p : Pipeline) :
    managerLog (openingEffects clock p) =
      [.started p.config p.logHook.isSome p.bridge.isSome] := by
  have told : LogLine.ofEvent (startedEvent clock p) =
      .started p.config p.logHook.isSome p.bridge.isSome :=
    LogLine.ofEvent_report _ _ _ _ _ (by simp [Event.messageKey])
  rw [openingEffects, managerLog_append, ← told]
  cases p.logHook <;> rfl

theorem managerLog_releaseEffects (factory : Factory) (config : Config) (resource : Resource)
    (g : Generation) : managerLog (releaseEffects factory config resource g) = [] := by
  rw [releaseEffects]
  cases (factory.logs config resource).component? config.exportLogs with
  | none => rfl
  | some e =>
    rw [Option.elim_some, Emitter.dropEffects]
    split
    · exact e.provider.managerLog_shutdownEffects g
    · rfl

/-- The lines of an installation: whether the host is known, which signals are lost, and, unless a
call panics, the pipeline that is installed. -/
theorem managerLog_installEffects (m : Manager) (factory : Factory) (config : Config)
    (version : String) (sink : Option SinkName) (h : Host) :
    managerLog (installEffects m factory config version sink h) =
      (if Resource.hostName? h.hostNames = none then [.unknownHost] else []) ++
        LogLine.ofCall .logs config.exportLogs (factory.logs config (h.resource config version)) ++
        match product m factory config version sink h with
        | .ok p =>
          LogLine.ofCall .metrics config.exportMetrics
            (factory.metrics config (h.resource config version)) ++
            [.started p.config p.logHook.isSome p.bridge.isSome]
        | .error _ => [] := by
  have logs : managerLog (logEffects factory config (h.resource config version) h.clock) =
      LogLine.ofCall .logs config.exportLogs (factory.logs config (h.resource config version)) :=
    managerLog_callEffects _ _ _ _ _ _
  have metrics : managerLog (metricsEffects factory config (h.resource config version) h.clock) =
      LogLine.ofCall .metrics config.exportMetrics
        (factory.metrics config (h.resource config version)) :=
    managerLog_callEffects _ _ _ _ _ _
  rw [installEffects, callsEffects, product, managerLog_append, managerLog_append,
    managerLog_append, managerLog_warnings, logs]
  cases hl : logOutcome factory config (h.resource config version) (h.generation + 1) with
  | error payload =>
    rw [managerLog_releaseEffects, List.append_nil]
    rfl
  | ok hook =>
    cases hm : metricsOutcome factory config (h.resource config version) (h.generation + 1) with
    | error payload =>
      -- a call that panics leaves no line behind
      simp [metrics, LogLine.ofCall_of_map_outcome hm, managerLog_releaseEffects]
    | ok bridge => simp [metrics, managerLog_openingEffects]

end Manager

/-! ## Starts and shutdowns -/

/-- A teardown that asks every part of a pipeline in order to end, and in which these steps fail. -/
structure Pipeline.ComesDown (p : Pipeline) (deadline : Deadline) (h : Host)
    (failures : List ShutdownFailure) : Prop where
  parts : (p.steps deadline h).map (fun step => step.part.holding) = p.holdings
  failing : failures = (p.steps deadline h).filterMap (Step.failure? deadline)
  result : (p.teardown deadline h).1 = .ok () ↔ failures = []

theorem Pipeline.comesDown_of_isBacked {p : Pipeline} {h : Host} (backed : p.IsBacked h)
    (deadline : Deadline) : p.ComesDown deadline h (p.failures deadline h) where
  parts := by
    rw [← map_holding_parts backed, ← map_part_schedule deadline h.now (p.parts h), List.map_map]
    rfl
  failing := rfl
  result := (teardown_eq_ok_iff backed).trans List.filterMap_eq_nil_iff.symm

theorem Moment.log_eq {m : Moment} (backed : m.before.IsBacked) :
    m.log = managerLog (m.before.effectsOf m.operation) :=
  (extends_of_isBacked backed).filterMap_effects fun x => by cases x <;> rfl

namespace Start

variable (a : Start)

/-- The lines of building and installing a pipeline. Only a call that panics keeps a start from
telling that it has started. -/
def installationLog : List LogLine :=
  (if Resource.hostName? a.before.host.hostNames = none then [.unknownHost] else []) ++
    LogLine.ofCall .logs a.config.exportLogs a.logCall ++
    match a.moment.answer with
    | .started .ok =>
      LogLine.ofCall .metrics a.config.exportMetrics a.metricsCall ++
        [.started a.config a.moment.after.manager.logHook.isSome
          a.moment.after.manager.bridge.isSome]
    | _ => []

variable {a}

/-- The lines of an effective start: those of the replacement, and those of the installation. -/
theorem log_of_isEffective (backed : a.before.IsBacked) (effective : a.config.isEffective = true) :
    a.moment.log =
      (a.before.manager.active.elim [] fun p => [.replacing,
        .ofReplaced p (p.failures (Manager.replaceDeadline a.before.host)
          (Manager.announced a.before.host))]) ++ a.installationLog := by
  have retired := Manager.reaches_replacement backed
  have same : Manager.product _ a.factory a.config a.version a.sink _ = _ :=
    Manager.product_retire a.factory a.version a.sink backed
  have names : (a.before.manager.retire a.before.host).2.hostNames = a.before.host.hostNames :=
    (congrArg Host.hostNames retired.ground :)
  have result := Manager.fst_start_of_effective a.factory a.version a.sink effective backed
  have manager := Manager.manager_start_of_effective a.factory a.version a.sink effective backed
  have answer : a.moment.answer = .started
      (a.before.manager.start a.factory a.config a.version a.sink a.before.host).1 :=
    Moment.answer_start ..
  have after : a.moment.after.manager =
      (a.before.manager.start a.factory a.config a.version a.sink a.before.host).2.1 := rfl
  rw [Moment.log_eq backed, moment, System.effectsOf, if_pos effective, managerLog_append,
    Manager.managerLog_replacementEffects, Manager.managerLog_installEffects, installationLog,
    same, names, retired.resource, answer, after, result, manager]
  cases product : a.before.manager.product a.factory a.config a.version a.sink a.before.host with
  | error payload =>
    -- whatever the end of letting the emitter go, it is not that of a completed start
    simp only
    cases Manager.releaseWork a.factory a.config (a.before.host.resource a.config a.version) <;> rfl
  | ok p =>
    obtain ⟨-, -, contents⟩ := Manager.outcomes_of_product product
    have config : p.config = a.config := by rw [contents]
    simp only [config]
    rfl

/-- A start that takes no effect tells that telemetry is off, or nothing. -/
theorem log_of_not_isEffective (backed : a.before.IsBacked)
    (ineffective : a.config.isEffective = false) :
    a.moment.log = if a.config.enabled then [] else [.disabled] := by
  have told : LogLine.ofEvent (System.disabledEvent a.before.host.clock) = .disabled :=
    LogLine.ofEvent_report _ _ _ _ _ (by simp)
  rw [Moment.log_eq backed, moment, System.effectsOf, if_neg (by simp [ineffective]), ← told]
  split <;> rfl

end Start

namespace System

/-- A shutdown tells of the active pipeline just if its teardown was clean. -/
theorem log_shutdown {s : System} (backed : s.IsBacked) (deadline : Deadline) :
    Moment.log ⟨s, .shutdown deadline⟩ = s.manager.active.elim [] fun p =>
      if p.failures deadline s.host = [] then [.shutDown p.config.endpoint] else [] := by
  rw [Moment.log_eq backed, effectsOf]
  cases s.manager.active with
  | none => rfl
  | some p => exact p.managerLog_teardownEffects deadline s.host

/-- What a start or a shutdown of a reachable system adds to the log of the manager. Of a pipeline
that is replaced there are two lines, and the second one says whether its teardown was clean. Of one
that is shut down there is a line only if its teardown was. -/
theorem manager_reports_lifecycle {s : System} (reachable : s.IsReachable) :
    (∀ factory config version sink,
      let a : Start := ⟨s, factory, config, version, sink⟩
      (config.enabled = false → a.moment.log = [.disabled]) ∧
      (config.enabled = true → (∀ c ∈ config.endpoint.toList, Text.isBlank c = true) →
        a.moment.log = []) ∧
      (config.enabled = true → (∃ c ∈ config.endpoint.toList, Text.isBlank c = false) →
        (s.manager.active = none → a.moment.log = a.installationLog) ∧
        (∀ old, s.manager.active = some old → ∃ failures,
          old.ComesDown (Manager.replaceDeadline s.host) (Manager.announced s.host) failures ∧
          a.moment.log = .replacing ::
            (if failures = [] then .shutDown old.config.endpoint else .unclean failures) ::
              a.installationLog)) ∧
      (a.IsRegular → a.moment.answer = .started .ok)) ∧
    ∀ deadline,
      let m : Moment := ⟨s, .shutdown deadline⟩
      (s.manager.active = none → m.log = []) ∧
      ∀ p, s.manager.active = some p → ∃ failures, p.ComesDown deadline s.host failures ∧
        m.log = if failures = [] then [.shutDown p.config.endpoint] else [] := by
  have backed : s.IsBacked := reachable.isSound.backed
  refine ⟨fun factory config version sink => ?_, fun deadline => ?_⟩
  · intro a
    refine ⟨fun off => ?_, fun on blank => ?_, fun on endpoint => ?_, fun r => r.completed.1⟩
    · have ineffective : config.isEffective = false := by simp [Config.isEffective, off]
      rw [Start.log_of_not_isEffective (a := a) backed ineffective]
      exact if_neg (by simp [a, off])
    · have ineffective : config.isEffective = false := by
        simp [Config.isEffective, Config.hasBlankEndpoint_iff.mpr blank]
      rw [Start.log_of_not_isEffective (a := a) backed ineffective]
      exact if_pos on
    · have log := Start.log_of_isEffective (a := a) backed
        (Config.isEffective_eq_true_iff.mpr ⟨on, endpoint⟩)
      constructor
      · intro inactive
        rw [show a.before.manager.active = none from inactive] at log
        exact log
      · intro old active
        rw [show a.before.manager.active = some old from active] at log
        exact ⟨_, Pipeline.comesDown_of_isBacked (Manager.isBacked_announced (backed old active)) _,
          log⟩
  · intro m
    have log := log_shutdown backed deadline
    constructor
    · intro inactive
      rw [inactive] at log
      exact log
    · intro p active
      rw [active] at log
      exact ⟨_, Pipeline.comesDown_of_isBacked (backed p active) deadline, log⟩

/-- A pipeline is replaced whose emitter never closes and one of whose hooks fails, by one whose
emitter cannot be built, on a host without a name. A shutdown of the old pipeline tells nothing. -/
theorem manager_reports_lifecycle_of_faults :
    let stuck : Emitter := .ofProvider ⟨some { onShutdown := { work := .hangs } }, false⟩
    let s := (fresh "own" ⟨"linux", "x86_64", 1, none⟩ [{ sink := "own" }]).run [
      .start (.constant (.built stuck) (.built {})) .toLocalhost "" none,
      .addHook ⟨"flush", fun _ _ => ⟨.failed "disk full", [], .zero⟩⟩]
    let config : Config := { enabled := true, endpoint := "http://other:4318" }
    let factory : Factory := .constant (.failed (.noRuntime "log")) (.built {})
    s.IsReachable ∧ (Start.moment ⟨s, factory, config, "", none⟩).log = [
      ⟨.info, "replacing active telemetry pipeline", []⟩,
      ⟨.warn, "previous telemetry pipeline did not shut down cleanly",
        [("error", "OTEL shutdown errors: [log hook shutdown: deadline exceeded after 15s; " ++
          "exporter shutdown (flush): disk full]")]⟩,
      ⟨.warn, "host name not detectable; omitting host.name", []⟩,
      ⟨.error, "failed to create OTLP log exporter; log export disabled",
        [("error", (SetupError.noRuntime "log").message)]⟩,
      ⟨.info, "telemetry pipeline started; SDK diagnostics are reported through tracing",
        [("endpoint", "http://other:4318"), ("protocol", "grpc"), ("logs", "false"),
          ("metrics", "true")]⟩] ∧
      Moment.log ⟨s, .shutdown (.expired .zero)⟩ = [] := by
  intro stuck s config factory
  have reachable : s.IsReachable := ⟨_, _, isNew_fresh _ _ _, rfl⟩
  have isSome : s.manager.active.isSome = true := by decide +kernel
  have active : s.manager.active = some (s.manager.active.get isSome) :=
    (Option.some_get isSome).symm
  obtain ⟨starts, shutdowns⟩ := manager_reports_lifecycle reachable
  obtain ⟨-, -, effective, -⟩ := starts factory config "" none
  obtain ⟨-, replaced⟩ := effective rfl ⟨'h', by decide +kernel, by decide +kernel⟩
  obtain ⟨failures, down, log⟩ := replaced _ active
  obtain ⟨-, shutdown⟩ := shutdowns (.expired .zero)
  obtain ⟨failures', down', log'⟩ := shutdown _ active
  have failed : ∀ isSome : s.manager.active.isSome = true,
      ((s.manager.active.get isSome).steps (Manager.replaceDeadline s.host)
          (Manager.announced s.host)).filterMap
        (Step.failure? (Manager.replaceDeadline s.host)) =
        [.logHook (.deadlineExceeded (.ofSecs 15)), .callback "flush" "disk full"] := by
    decide +kernel
  have failed' : ∀ isSome : s.manager.active.isSome = true,
      ((s.manager.active.get isSome).steps (.expired .zero) s.host).filterMap
        (Step.failure? (.expired .zero)) ≠ [] := by
    decide +kernel
  have installation : Start.installationLog ⟨s, factory, config, "", none⟩ =
      [.unknownHost, .lost .logs (.noRuntime "log"), .started config false true] := by
    decide +kernel
  have torn' : failures' ≠ [] := fun clean => failed' isSome (down'.failing.symm.trans clean)
  refine ⟨reachable, ?_, log'.trans (if_neg torn')⟩
  rw [log, installation, down.failing, failed isSome, if_neg (List.cons_ne_nil _ _)]
  decide +kernel

end System

end Telemetry
