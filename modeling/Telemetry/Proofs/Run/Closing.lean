import Telemetry.Proofs.Host.Closing
import Telemetry.Proofs.Run.Moments

/-!
# Who closes a component

A component can be closed by those who hold it, by a shutdown of the pipeline that it belongs to, and
by a start that replaces this pipeline. The worker of whoever comes first starts the shutdown of its
processor or reader, even with no time to wait for it, and the first request gets what the shutdown
comes to. All others are told that the component was shut down. With no time to wait nobody learns
anything.

That the first worker to begin is that of the first request takes a system that lets a worker begin
before the next request is made. Without that the shutdown is still started once at most.

* `attends_teardown`, `attends_install`: the requests of a teardown, and of a start to others than
  its own components.
* `attends_run`, `answers_moment`: all that happens to one component in a run, and in each moment.
* `closed_by_first_request`: the notes and the results of all requests to one component.
-/

namespace Telemetry

/-- The request that a teardown makes of a component. It gives the emitter its usual time or what
remains until the deadline, and the bridge what remains after the emitter. -/
def Pipeline.request? (p : Pipeline) (deadline : Deadline) (h : Host) :
    Signal → Generation → Option Request
  | .logs, g =>
    if p.logHook = some g then
      (h.detach p.sink).closeRequest? g (Emitter.closeTimeout.min (deadline.remaining h.now))
    else none
  | .metrics, g =>
    if p.bridge = some g then (p.closeLog deadline h).2.shutdownRequest? g deadline else none

/-- The request that an operation makes of a component. -/
def Moment.request? (m : Moment) (signal : Signal) (g : Generation) : Option Request :=
  let h := m.before.host
  match m.operation with
  | .closeEmitter k bound => if signal = .logs ∧ k = g then h.closeRequest? k bound else none
  | .shutdownBridge k deadline =>
    if signal = .metrics ∧ k = g then h.shutdownRequest? k deadline else none
  | .shutdown deadline => m.before.manager.active.bind fun p => p.request? deadline h signal g
  | .start _ config _ _ =>
    if config.isEffective then
      m.before.manager.active.bind fun p =>
        p.request? (Manager.replaceDeadline h) (Manager.announced h) signal g
    else none
  | _ => none

/-- What an operation does to a component that is closed. -/
def Moment.touch? (m : Moment) (signal : Signal) (g : Generation) : Option Touch :=
  match m.operation with
  | .wake other k => if signal = other ∧ k = g then some .wake else none
  | _ => (m.request? signal g).map .request

variable {signal : Signal} {g : Generation}

theorem Moment.touch?_bind_request? (m : Moment) :
    (m.touch? signal g).bind Touch.request? = m.request? signal g := by
  have back (r : Option Request) : (r.map Touch.request).bind Touch.request? = r := by
    cases r <;> rfl
  obtain ⟨s, op⟩ := m
  cases op with
  | wake other k =>
    simp only [touch?, request?]
    split <;> rfl
  | _ =>
    rw [touch?]
    exact back _

namespace Pipeline

variable (p : Pipeline) (deadline : Deadline) (h : Host)

theorem attends_closeLog :
    h.Attends signal g
      (if signal = .logs then (p.request? deadline h .logs g).toList.map .request else [])
      (p.closeLog deadline h).2 := by
  cases hook : p.logHook with
  | none =>
    have kept : p.closeLog deadline h = ([], h) := by simp only [closeLog, hook]
    have no_request : p.request? deadline h .logs g = none := by simp [request?, hook]
    rw [kept, no_request, Option.toList_none, List.map_nil, ite_self]
    exact .refl h
  | some k =>
    let bound := Emitter.closeTimeout.min (deadline.remaining h.now)
    have request :
        (if signal = .logs then (p.request? deadline h .logs g).toList.map Touch.request else []) =
          [] ++ if signal = .logs ∧ k = g then
            ((h.detach p.sink).closeRequest? k bound).toList.map .request else [] := by
      by_cases logs : signal = .logs
      · by_cases here : k = g
        · subst here
          simp [logs, request?, hook, bound]
        · simp [logs, here, request?, hook]
      · simp [logs]
    have closed : (p.closeLog deadline h).2 = ((h.detach p.sink).closeEmitter k bound).2 := by
      simp only [closeLog, hook]
      rfl
    rw [request, closed]
    exact (h.attends_detach p.sink).trans ((h.detach p.sink).attends_closeEmitter k bound)

theorem attends_closeMetrics :
    let k := (p.closeLog deadline h).2
    k.Attends signal g
      (if signal = .metrics then (p.request? deadline h .metrics g).toList.map .request else [])
      (p.closeMetrics deadline k).2 := by
  intro k
  cases bridge : p.bridge with
  | none =>
    have kept : p.closeMetrics deadline k = ([], k) := by simp only [closeMetrics, bridge]
    have no_request : p.request? deadline h .metrics g = none := by simp [request?, bridge]
    rw [kept, no_request, Option.toList_none, List.map_nil, ite_self]
    exact .refl k
  | some j =>
    have request :
        (if signal = .metrics then (p.request? deadline h .metrics g).toList.map Touch.request
          else []) =
          if signal = .metrics ∧ j = g then (k.shutdownRequest? j deadline).toList.map .request
          else [] := by
      by_cases metrics : signal = .metrics
      · by_cases here : j = g
        · subst here
          simp [metrics, request?, bridge, k]
        · simp [metrics, here, request?, bridge]
      · simp [metrics]
    have shut : (p.closeMetrics deadline k).2 = (k.shutdownBridge j deadline).2 := by
      simp only [closeMetrics, bridge]
    rw [request, shut]
    exact k.attends_shutdownBridge j deadline

theorem attends_runHooks (hooks : List Hook) (deadline : Deadline) (h : Host) :
    h.Attends signal g [] (runHooks hooks deadline h).2 := by
  induction hooks generalizing h with
  | nil => exact .refl h
  | cons hook rest ih =>
    have noted : h.Attends signal g [] (h.note (.hookRun hook deadline h.now)) :=
      Host.attends_of_unwritten (h.reaches_note _ rfl) rfl rfl
    have told := noted.trans (Host.attends_emitAll _ .hook (hook.run deadline h.now).events)
    have run : h.Attends signal g [] (runHook hook deadline h).2 :=
      told.trans (Host.attends_pass _ (hook.run deadline h.now).elapsed)
    exact run.trans (ih _)

theorem attends_teardown :
    h.Attends signal g ((p.request? deadline h signal g).toList.map .request)
      (p.teardown deadline h).2 := by
  have closed : h.Attends signal g _ _ :=
    (p.attends_closeLog deadline h).trans (p.attends_closeMetrics deadline h)
  have dismantled : h.Attends signal g _ (p.dismantle deadline h).2 :=
    closed.trans (attends_runHooks p.hooks deadline _)
  have requests :
      ((if signal = .logs then (p.request? deadline h .logs g).toList.map Touch.request else []) ++
        (if signal = .metrics then (p.request? deadline h .metrics g).toList.map .request
          else [])) ++ [] = (p.request? deadline h signal g).toList.map .request := by
    cases signal <;> simp
  rw [requests] at dismantled
  simp only [teardown]
  split
  · exact dismantled
  · simpa using dismantled.trans (Host.attends_report _ .info "telemetry pipeline shut down"
      [("endpoint", .display p.config.endpoint)])

end Pipeline

/-! ## Managers -/

namespace Manager

theorem attends_shutdown (m : Manager) (deadline : Deadline) (h : Host) :
    h.Attends signal g
      ((m.active.bind fun p => p.request? deadline h signal g).toList.map .request)
      (m.shutdown deadline h).2.2 := by
  cases active : m.active with
  | none =>
    rw [show m.shutdown deadline h = (.ok (), m, h) by simp [shutdown, active]]
    exact .refl h
  | some p => simpa [shutdown, active] using p.attends_teardown deadline h

theorem attends_retire (m : Manager) (h : Host) :
    h.Attends signal g
      ((m.active.bind fun p =>
        p.request? (replaceDeadline h) (announced h) signal g).toList.map .request)
      (m.retire h).2 := by
  cases active : m.active with
  | none =>
    rw [retire_of_inactive active]
    exact .refl h
  | some p =>
    have told : h.Attends signal g [] (announced h) := h.attends_report .info _ []
    have torn := told.trans (p.attends_teardown (replaceDeadline h) (announced h))
    rw [List.nil_append] at torn
    cases ended : p.teardown (replaceDeadline h) (announced h) with
    | mk result k =>
      rw [ended] at torn
      cases result with
      | ok done =>
        rw [retire_of_ok active ended]
        exact torn
      | error e =>
        rw [retire_of_error active ended]
        simpa using torn.trans (k.attends_report .warn
          "previous telemetry pipeline did not shut down cleanly" [("error", .display e.message)])

theorem filter_concerns_callEffects {α : Type} (clock : Timestamp) (called : Signal)
    (wanted : Bool) (config : Config) (resource : Resource) (failed : String) (build : Build α) :
    (callEffects clock called wanted config resource failed build).filter
      (Effect.concerns signal g) = [] := by
  cases wanted with
  | false => rfl
  | true =>
    rw [callEffects, if_pos rfl, List.filter_cons_of_neg Bool.false_ne_true,
      Effect.filter_concerns_emitted]

variable (factory : Factory) (config : Config) (resource : Resource) {n : Generation}

theorem attends_buildEmitter (other : n ≠ g) (h : Host) :
    h.Attends signal g [] (buildEmitter h factory config resource n).2 := by
  refine .of_quiet (reaches_buildEmitter h factory config resource n)
    (filter_concerns_callEffects _ _ _ _ _ _ _) ?_
  have called := Host.closable?_of_unwritten (unwritten_buildWith h .logs config.exportLogs config
    resource logsFailed factory.logs)
  rw [buildEmitter_eq]
  cases (factory.logs config resource).component? config.exportLogs with
  | none => exact congrFun (congrFun called signal) g
  | some e =>
    exact (Host.closable?_setEmitter _ _ _).trans
      ((if_neg fun here => other here.2).trans (congrFun (congrFun called signal) g))

theorem attends_buildBridge (other : n ≠ g) (h : Host) :
    h.Attends signal g [] (buildBridge h factory config resource n).2 := by
  refine .of_quiet (reaches_buildBridge h factory config resource n)
    (filter_concerns_callEffects _ _ _ _ _ _ _) ?_
  have called := Host.closable?_of_unwritten (unwritten_buildWith h .metrics config.exportMetrics
    config resource metricsFailed factory.metrics)
  rw [buildBridge_eq]
  cases (factory.metrics config resource).component? config.exportMetrics with
  | none => exact congrFun (congrFun called signal) g
  | some b =>
    exact (Host.closable?_setBridge _ _ _).trans
      ((if_neg fun here => other here.2).trans (congrFun (congrFun called signal) g))

/-- An installation asks nothing of the components that were there before it. -/
theorem attends_install (m : Manager) (version : String) (sink : Option SinkName) {h : Host}
    (other : h.generation + 1 ≠ g) :
    h.Attends signal g [] (m.install factory config version sink h).2.2 := by
  let bumped : Host := { h with generation := h.generation + 1 }
  have numbered : h.Attends signal g [] bumped :=
    ⟨by cases signal <;> exact Option.map_id'.symm, fun _ _ => trivial, [],
      (List.append_nil _).symm, by cases h.closable? signal g <;> rfl⟩
  have told := numbered.trans (bumped.attends_emitAll .manager
    (Resource.warnings h.clock (Resource.hostName? h.hostNames)))
  have logs : h.Attends signal g [] (afterLogs factory config version h) :=
    told.trans (attends_buildEmitter factory config (h.resource config version) other _)
  have metrics : h.Attends signal g [] (afterMetrics factory config version h) :=
    logs.trans (attends_buildBridge factory config (h.resource config version) other _)
  rw [install_eq]
  cases hl : logOutcome factory config (h.resource config version) (h.generation + 1) with
  | error payload => exact logs
  | ok hook =>
    have mine : ∀ k, hook = some k → k = h.generation + 1 := by
      intro k hk
      subst hk
      have numbered := eq_of_logOutcome _ _ _ _ hl
      split at numbered
      · exact Option.some.inj numbered
      · cases numbered
    cases metricsOutcome factory config (h.resource config version) (h.generation + 1) with
    | error payload =>
      cases hook with
      | none => exact metrics
      | some k =>
        have dropped : k ≠ g := by
          rw [mine k rfl]
          exact other
        exact metrics.trans (Host.attends_dropEmitter dropped _)
    | ok bridge =>
      have attached : h.Attends signal g []
          (attachTo (afterMetrics factory config version h) (sink.getD m.ownSink) hook) := by
        cases hook with
        | none => exact metrics
        | some k => exact metrics.trans (Host.attends_attach _ _ k)
      exact attached.trans (Host.attends_report _ _ _ _)

end Manager

/-! ## Runs -/

/-- No component has a number beyond that of the last start. -/
def Host.IsNumbered (h : Host) : Prop :=
  ∀ signal g, h.generation < g → h.closable? signal g = none

theorem Host.IsNumbered.le_generation {h : Host} (numbered : h.IsNumbered)
    (found : (h.closable? signal g).isSome = true) : g ≤ h.generation := by
  refine Nat.le_of_not_lt fun above => ?_
  rw [numbered signal g above] at found
  cases found

namespace System

theorem attends_start {s : System} (factory : Factory) (config : Config) (version : String)
    (sink : Option SinkName) (other : config.isEffective = true → s.host.generation + 1 ≠ g)
    (retired : (s.manager.retire s.host).2.generation = s.host.generation) :
    s.host.Attends signal g
      ((Moment.request? ⟨s, .start factory config version sink⟩ signal g).toList.map .request)
      (s.step (.start factory config version sink)).2.host := by
  change s.host.Attends signal g _ (s.manager.start factory config version sink s.host).2.2
  cases effective : config.isEffective with
  | true =>
    rw [Manager.start_of_effective _ _ _ _ _ effective]
    have later : (s.manager.retire s.host).2.generation + 1 ≠ g := by
      rw [retired]
      exact other effective
    simpa [Moment.request?, effective] using (s.manager.attends_retire s.host).trans
      (Manager.attends_install factory config _ version sink later)
  | false =>
    have no_request : Moment.request? ⟨s, .start factory config version sink⟩ signal g = none := by
      simp [Moment.request?, effective]
    rw [no_request]
    rcases Manager.start_of_ineffective s.manager factory version sink s.host effective with
      ⟨told, -⟩ | ⟨refused, -⟩
    · rw [told]
      exact s.host.attends_report .info "OTEL integration is disabled" []
    · rw [refused]
      exact .refl s.host

/-- An operation does to a component what is its own to do, unless it builds the component. -/
theorem attends_step {s : System} (backed : s.IsBacked) (op : Operation)
    (other : startsOf op = 1 → s.host.generation + 1 ≠ g) :
    s.host.Attends signal g (Moment.touch? ⟨s, op⟩ signal g).toList (s.step op).2.host := by
  cases op with
  | start factory config version sink =>
    have retired := (Manager.reaches_replacement backed).generation
    rw [Moment.touch?, Option.toList_map]
    exact attends_start factory config version sink (fun on => other (by simp [startsOf, on]))
      retired
  | shutdown deadline =>
    rw [Moment.touch?, Option.toList_map]
    exact s.manager.attends_shutdown deadline s.host
  | addHook hook => exact .refl s.host
  | event event => exact s.host.attends_emit .application event
  | fire k entry => exact s.host.attends_fire k entry
  | updateLabels k labels => exact s.host.attends_updateLabels k labels
  | closeEmitter k bound =>
    have touches : (Moment.touch? ⟨s, .closeEmitter k bound⟩ signal g).toList =
        if signal = .logs ∧ k = g then (s.host.closeRequest? k bound).toList.map .request
        else [] := by
      simp only [Moment.touch?, Moment.request?, Option.toList_map]
      split <;> rfl
    rw [touches]
    exact s.host.attends_closeEmitter k bound
  | shutdownBridge k deadline =>
    have touches : (Moment.touch? ⟨s, .shutdownBridge k deadline⟩ signal g).toList =
        if signal = .metrics ∧ k = g then (s.host.shutdownRequest? k deadline).toList.map .request
        else [] := by
      simp only [Moment.touch?, Moment.request?, Option.toList_map]
      split <;> rfl
    rw [touches]
    exact s.host.attends_shutdownBridge k deadline
  | record k instrument attributes reading =>
    exact s.host.attends_record k instrument attributes reading _
  | wake called k =>
    have touches : (Moment.touch? ⟨s, .wake called k⟩ signal g).toList =
        if signal = called ∧ k = g then [.wake] else [] := by
      simp only [Moment.touch?]
      split <;> rfl
    rw [touches]
    exact s.host.attends_wake called k

theorem generation_step {s : System} (backed : s.IsBacked) (op : Operation) :
    (s.step op).2.host.generation = s.host.generation + startsOf op :=
  (Moment.extends_of_isBacked (m := ⟨s, op⟩) backed).generation

theorem IsNew.isNumbered {s : System} (new : s.IsNew) : s.host.IsNumbered := by
  intro signal g _
  cases signal with
  | logs => simp [Host.closable?, new.emitters]
  | metrics => simp [Host.closable?, new.bridges]

/-- A component has the number of a start that has been. -/
theorem isNumbered_step {s : System} (backed : s.IsBacked) (numbered : s.host.IsNumbered)
    (op : Operation) : (s.step op).2.host.IsNumbered := by
  intro signal g later
  rw [generation_step backed op] at later
  have kept : s.host.Attends signal g (Moment.touch? ⟨s, op⟩ signal g).toList
      (s.step op).2.host := by
    refine attends_step backed op fun starts => ?_
    rw [starts] at later
    exact Nat.ne_of_lt later
  have above : s.host.generation < g := Nat.lt_of_le_of_lt (Nat.le_add_right _ _) later
  rw [kept.closable, numbered signal g above, Option.map_none]

theorem isNumbered_run {s : System} (sound : s.IsSound) (numbered : s.host.IsNumbered)
    (ops : List Operation) : (s.run ops).host.IsNumbered := by
  induction ops generalizing s with
  | nil => exact numbered
  | cons op rest ih => exact ih (isSound_step sound op) (isNumbered_step sound.backed numbered op)

theorem IsReachable.le_generation {s : System} (reachable : s.IsReachable) {c : Closable}
    (found : s.host.closable? signal g = some c) : g ≤ s.host.generation := by
  obtain ⟨new, ops, hnew, rfl⟩ := reachable
  exact (isNumbered_run hnew.isSound hnew.isNumbered ops).le_generation
    (Option.isSome_of_mem found)

end System

end Telemetry
