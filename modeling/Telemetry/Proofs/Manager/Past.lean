import Telemetry.Proofs.Manager.Lifecycle

/-!
# The journal is only written

Nothing that happens in a host depends on what has happened before it other than through the state:
where more has been noted beforehand, the same happens, and it is noted after the rest.

* `emit_following`, `closeEmitter_following`, `shutdownBridge_following`: the operations of a host.
* `teardown_following`, `install_following`: those of a manager.
-/

namespace Telemetry

namespace Host

/-- The host with the same state in which something has happened before all that is noted. -/
def following (h : Host) (old : List Effect) : Host := { h with past := h.past ++ old.reverse }

theorem following_unwritten (h : Host) : h.unwritten.following h.journal = h := by
  simp [unwritten, following, journal]

theorem unwritten_following (h : Host) (old : List Effect) :
    (h.following old).unwritten = h.unwritten := rfl

theorem journal_following (h : Host) (old : List Effect) :
    (h.following old).journal = old ++ h.journal := by
  simp [journal, following]

theorem following_following (h : Host) (old older : List Effect) :
    (h.following old).following older = h.following (older ++ old) := by
  simp [following]

/-- A host is another one with its own journal if they differ in nothing but the journal. -/
theorem eq_following_of_unwritten {h k : Host} (same : k.unwritten = h.unwritten) :
    k = h.unwritten.following k.journal := by
  rw [← same, following_unwritten]

variable (h : Host) (old : List Effect)

/-! ## What a journal does not change -/

@[simp] theorem now_following : (h.following old).now = h.now := rfl

@[simp] theorem sinks_following : (h.following old).sinks = h.sinks := rfl

@[simp] theorem emitters_following : (h.following old).emitters = h.emitters := rfl

@[simp] theorem bridges_following : (h.following old).bridges = h.bridges := rfl

@[simp] theorem note_following (effect : Effect) :
    (h.following old).note effect = (h.note effect).following old := rfl

@[simp] theorem pass_following (d : Duration) :
    (h.following old).pass d = (h.pass d).following old := rfl

@[simp] theorem setEmitter_following (g : Generation) (e : Emitter) :
    (h.following old).setEmitter g e = (h.setEmitter g e).following old := rfl

@[simp] theorem setBridge_following (g : Generation) (b : Bridge) :
    (h.following old).setBridge g b = (h.setBridge g b).following old := rfl

@[simp] theorem detach_following (sink : SinkName) :
    (h.following old).detach sink = (h.detach sink).following old := rfl

/-! ## Events -/

@[simp] theorem noteHanded_following (g : Generation) (records : List Record) :
    (h.following old).noteHanded g records = (h.noteHanded g records).following old := by
  unfold noteHanded
  induction records generalizing h with
  | nil => rfl
  | cons record rest ih => rw [List.foldl_cons, List.foldl_cons, note_following, ih]

@[simp] theorem fire_following (g : Generation) (entry : Entry) :
    (h.following old).fire g entry = ((h.fire g entry).1, (h.fire g entry).2.following old) := by
  unfold fire
  rw [emitters_following]
  cases h.emitters[g]? with
  | none => rfl
  | some e =>
    exact congrArg (Prod.mk _) (noteHanded_following
      (Host.setEmitter { h with ambient := (e.fire h.ambient h.clock entry).ambient } g
        (e.fire h.ambient h.clock entry).emitter) old g _)

@[simp] theorem noteLoss_following (g : Generation) (result : Option (Except EmitError Unit)) :
    (h.following old).noteLoss g result = (h.noteLoss g result).following old := by
  unfold noteLoss; split <;> rfl

@[simp] theorem forward_following (event : Event) (layer : Layer) :
    (h.following old).forward event layer = (h.forward event layer).following old := by
  unfold forward
  split
  · rfl
  · rw [sinks_following]
    cases h.sinks[layer.sink]? with
    | none => rfl
    | some g => simp only [note_following, fire_following, noteLoss_following]

@[simp] theorem emit_following (origin : Origin) (event : Event) :
    (h.following old).emit origin event = (h.emit origin event).following old := by
  suffices kept : ∀ (layers : List Layer) (k : Host),
      layers.foldl (fun h layer => h.forward event layer) (k.following old) =
        (layers.foldl (fun h layer => h.forward event layer) k).following old from
    kept h.layers (h.note (.emitted origin event))
  intro layers
  induction layers with
  | nil => intro k; rfl
  | cons layer rest ih => intro k; rw [List.foldl_cons, List.foldl_cons, forward_following, ih]

@[simp] theorem emitAll_following (origin : Origin) (events : List Event) :
    (h.following old).emitAll origin events = (h.emitAll origin events).following old := by
  unfold emitAll
  induction events generalizing h with
  | nil => rfl
  | cons event rest ih => rw [List.foldl_cons, List.foldl_cons, emit_following, ih]

@[simp] theorem report_following (level : EventLevel) (message : String)
    (fields : List (String × Value)) :
    (h.following old).report level message fields =
      (h.report level message fields).following old :=
  emit_following h old _ _

/-! ## Components -/

@[simp] theorem noteShutDown_following (signal : Signal) (g : Generation) (asked : Bool) :
    (h.following old).noteShutDown signal g asked =
      (h.noteShutDown signal g asked).following old := by
  cases asked <;> rfl

@[simp] theorem noteCollected_following (g : Generation) (collected : Option (List Series)) :
    (h.following old).noteCollected g collected = (h.noteCollected g collected).following old := by
  cases collected <;> rfl

theorem closeEmitter_following (g : Generation) (bound : Duration) :
    (h.following old).closeEmitter g bound =
      ((h.closeEmitter g bound).1, (h.closeEmitter g bound).2.following old) := by
  unfold closeEmitter
  rw [emitters_following]
  cases h.emitters[g]? with
  | none => rfl
  | some e =>
    simp only [note_following, setEmitter_following, noteShutDown_following, emitAll_following,
      pass_following]

theorem shutdownBridge_following (g : Generation) (deadline : Deadline) :
    (h.following old).shutdownBridge g deadline =
      ((h.shutdownBridge g deadline).1, (h.shutdownBridge g deadline).2.following old) := by
  unfold shutdownBridge
  rw [bridges_following]
  cases h.bridges[g]? with
  | none => rfl
  | some b =>
    rw [now_following]
    simp only [note_following, setBridge_following, noteShutDown_following,
      noteCollected_following, emitAll_following, pass_following]

theorem dropEmitter_following (g : Generation) :
    (h.following old).dropEmitter g =
      ((h.dropEmitter g).1, (h.dropEmitter g).2.following old) := by
  unfold dropEmitter
  rw [emitters_following]
  cases h.emitters[g]? with
  | none => rfl
  | some e =>
    by_cases none_left : e.workers.waiting = 0
    · have erased : ({ h.following old with emitters := h.emitters.erase g } : Host) =
          Host.following { h with emitters := h.emitters.erase g } old := rfl
      simp only [none_left, if_true, erased, noteShutDown_following, emitAll_following,
        pass_following]
    · simp only [none_left, if_false]

end Host

/-! ## Pipelines -/

namespace Pipeline

variable (p : Pipeline) (deadline : Deadline) (h : Host) (old : List Effect)

theorem closeLog_following :
    p.closeLog deadline (h.following old) =
      ((p.closeLog deadline h).1, (p.closeLog deadline h).2.following old) := by
  unfold closeLog
  cases p.logHook with
  | none => rfl
  | some g => simp only [Host.detach_following, Host.now_following, Host.closeEmitter_following]

theorem closeMetrics_following :
    p.closeMetrics deadline (h.following old) =
      ((p.closeMetrics deadline h).1, (p.closeMetrics deadline h).2.following old) := by
  unfold closeMetrics
  cases p.bridge with
  | none => rfl
  | some g => simp only [Host.shutdownBridge_following]

theorem runHook_following (hook : Hook) :
    runHook hook deadline (h.following old) =
      ((runHook hook deadline h).1, (runHook hook deadline h).2.following old) := by
  simp only [runHook, Host.now_following, Host.note_following, Host.emitAll_following,
    Host.pass_following]

theorem runHooks_following (hooks : List Hook) :
    runHooks hooks deadline (h.following old) =
      ((runHooks hooks deadline h).1, (runHooks hooks deadline h).2.following old) := by
  induction hooks generalizing h with
  | nil => rfl
  | cons hook rest ih => simp only [runHooks, runHook_following, ih]

theorem dismantle_following :
    p.dismantle deadline (h.following old) =
      ((p.dismantle deadline h).1, (p.dismantle deadline h).2.following old) := by
  simp only [dismantle, closeLog_following, closeMetrics_following, runHooks_following]

theorem teardown_following :
    p.teardown deadline (h.following old) =
      ((p.teardown deadline h).1, (p.teardown deadline h).2.following old) := by
  simp only [teardown, dismantle_following]
  cases ShutdownError.ofFailures? (p.dismantle deadline h).1 with
  | some e => rfl
  | none => simp only [Host.report_following]

end Pipeline

/-! ## Installations -/

namespace Manager

variable (h : Host) (old : List Effect)

theorem buildWith_following {α : Type} (signal : Signal) (wanted : Bool) (config : Config)
    (resource : Resource) (failed : String) (build : Config → Resource → Build α) :
    buildWith (h.following old) signal wanted config resource failed build =
      ((buildWith h signal wanted config resource failed build).1,
        (buildWith h signal wanted config resource failed build).2.following old) := by
  cases wanted with
  | false => rfl
  | true =>
    simp only [buildWith, Host.note_following]
    cases build config resource <;> simp

theorem buildEmitter_following (factory : Factory) (config : Config) (resource : Resource)
    (g : Generation) :
    buildEmitter (h.following old) factory config resource g =
      ((buildEmitter h factory config resource g).1,
        (buildEmitter h factory config resource g).2.following old) := by
  simp only [buildEmitter, buildWith_following]
  rcases buildWith h .logs config.exportLogs config resource _ factory.logs with
    ⟨payload | emitter, k⟩
  · rfl
  · cases emitter <;> rfl

theorem buildBridge_following (factory : Factory) (config : Config) (resource : Resource)
    (g : Generation) :
    buildBridge (h.following old) factory config resource g =
      ((buildBridge h factory config resource g).1,
        (buildBridge h factory config resource g).2.following old) := by
  simp only [buildBridge, buildWith_following]
  rcases buildWith h .metrics config.exportMetrics config resource _ factory.metrics with
    ⟨payload | bridge, k⟩
  · rfl
  · cases bridge <;> rfl

theorem attachTo_following (sink : SinkName) (hook : Option Generation) :
    attachTo (h.following old) sink hook = (attachTo h sink hook).following old := by
  cases hook <;> rfl

theorem reportStarted_following (p : Pipeline) :
    reportStarted (h.following old) p = (reportStarted h p).following old :=
  Host.report_following h old _ _ _

theorem unwind_following (m : Manager) (payload : PanicPayload) (hook : Option Generation) :
    m.unwind payload hook (h.following old) =
      ((m.unwind payload hook h).1, (m.unwind payload hook h).2.1,
        (m.unwind payload hook h).2.2.following old) := by
  cases hook with
  | none => rfl
  | some g => simp only [unwind, Host.dropEmitter_following]

variable (m : Manager) (factory : Factory) (config : Config) (version : String)
  (sink : Option SinkName)

theorem greeted_following : greeted (h.following old) = (greeted h).following old :=
  Host.emitAll_following { h with generation := h.generation + 1 } old _ _

theorem afterLogs_following :
    afterLogs factory config version (h.following old) =
      (afterLogs factory config version h).following old := by
  rw [afterLogs, greeted_following, buildEmitter_following]
  rfl

theorem afterMetrics_following :
    afterMetrics factory config version (h.following old) =
      (afterMetrics factory config version h).following old := by
  rw [afterMetrics, afterLogs_following, buildBridge_following]
  rfl

theorem install_following :
    m.install factory config version sink (h.following old) =
      ((m.install factory config version sink h).1, (m.install factory config version sink h).2.1,
        (m.install factory config version sink h).2.2.following old) := by
  rw [install_eq, install_eq, afterLogs_following, afterMetrics_following,
    show (h.following old).resource config version = h.resource config version from rfl,
    show (h.following old).generation = h.generation from rfl]
  cases logOutcome factory config (h.resource config version) (h.generation + 1) with
  | error payload => rfl
  | ok hook =>
    cases metricsOutcome factory config (h.resource config version) (h.generation + 1) with
    | error payload => simp only [unwind_following]
    | ok bridge => simp only [attachTo_following, reportStarted_following]

end Manager

end Telemetry
