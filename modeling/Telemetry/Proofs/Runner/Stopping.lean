import Telemetry.Proofs.Run.Soundness
import Telemetry.Runner.Program

/-!
# Stopping the runner

A runner that has started works with the settings of its environment. They give its heartbeat an
interval, so the heartbeat goes on until the runner is told to stop. Then the runner takes its
pipeline down, if the clock can hold the deadline: the settings are only kept from a time of zero,
and a time that goes beyond the clock ends the runner before anything was asked to end.

* `Deadline.after?_ofSecs`: which deadlines the clock can hold.
* `isInOrder_boot`, `isInOrder_naps`: what holds of a runner until it is told to stop.
* `journal_stop`, `stop_of_overflow`: what stopping it comes to.
* `stop_within_clock`: all this for the settings of an environment.
-/

namespace Telemetry

theorem Except.eq_ok_of_toOption {ε α : Type} {x : Except ε α} {a : α}
    (found : x.toOption = some a) : x = .ok a := by
  cases x with
  | error e => cases found
  | ok b => exact congrArg Except.ok (Option.some.inj found)

/-- The clock holds the deadlines whose whole seconds it can count. -/
theorem Deadline.after?_ofSecs (now : Instant) (n : Nat) :
    after? now (.ofSecs n) =
      if now.wholeSecs + n < clockLimit then some (after now (.ofSecs n)) else none := by
  have seconds : (now.add (.ofSecs n)).wholeSecs = now.wholeSecs + n := by
    rw [Duration.wholeSecs, Duration.nanos_add, Duration.wholeSecs]
    exact Nat.add_mul_div_left now.nanos n (by decide)
  simp only [after?, fits, seconds, decide_eq_true_eq]

/-! ## What heartbeats leave alone -/

namespace Host

/-- From `h` to `k` no sink has changed and no component has gone. -/
structure Spares (h k : Host) : Prop where
  sinks : k.sinks = h.sinks
  retains : h.Retains k

namespace Spares

variable {h k l : Host}

theorem refl (h : Host) : Spares h h := ⟨rfl, .refl h⟩

theorem trans (hk : Spares h k) (hl : Spares k l) : Spares h l :=
  ⟨hl.sinks.trans hk.sinks, hk.retains.trans hl.retains⟩

theorem of_unwritten (same : k.unwritten = h.unwritten) : Spares h k :=
  ⟨sinks_of_unwritten same, .of_unwritten same⟩

end Spares

theorem spares_record (h : Host) (g : Generation) (instrument : Instrument)
    (attributes : Attributes) (reading : Reading) (live : Bool) :
    h.Spares (h.record g instrument attributes reading live) := by
  refine ⟨?_, retains_record h g instrument attributes reading live⟩
  unfold record
  cases h.bridges[g]? <;> rfl

end Host

theorem System.IsSound.of_spares {s : System} (sound : s.IsSound) {h : Host}
    (spared : s.host.Spares h) : IsSound ⟨s.manager, h⟩ :=
  sound.of_kept spared.sinks spared.retains

namespace Runner

theorem Binding.spares_record (binding : Binding) (instrument : Instrument) (reading : Reading)
    (h : Host) : h.Spares (binding.record instrument reading h) :=
  h.spares_record binding.bridge instrument ∅ reading binding.live

namespace Heartbeat

theorem spares_bind (b : Heartbeat) (g : Generation) (h : Host) : h.Spares (b.bind g h).2 := by
  unfold bind
  split
  · exact .refl h
  · exact .of_unwritten (h.unwritten_emit .heartbeat _)

theorem spares_tick (b : Heartbeat) (bridge : Option Generation) (h : Host) :
    h.Spares (b.tick bridge h).2 := by
  cases bridge with
  | none => exact .refl h
  | some g =>
    have bound := b.spares_bind g h
    have counted := (b.bind g h).1.spares_record beats (.whole 1) (b.bind g h).2
    exact (bound.trans counted).trans (Binding.spares_record _ uptimeSeconds _ _)

theorem spares_beat (bridge : Option Generation) (n : Nat) (b : Heartbeat) (h : Host) :
    h.Spares (beat bridge n b h).2 := by
  induction n generalizing b h with
  | zero => exact .refl h
  | succ n ih => exact (spares_tick _ bridge h).trans (ih _ _)

end Heartbeat

namespace Task

theorem spares_sleep (t : Task) (d : Duration) (bridge : Option Generation) (h : Host) :
    h.Spares (t.sleep d bridge h).2 := by
  cases t with
  | beating b => exact Heartbeat.spares_beat bridge (b.ticksWithin d) b h
  | panicked => exact .refl h

theorem spares_spawn (interval : Duration) (bridge : Option Generation) (h : Host) :
    h.Spares (spawn interval bridge h).2 := by
  unfold spawn
  split
  · exact .refl h
  · exact Heartbeat.spares_tick _ bridge h

theorem isRunning_spawn {interval : Duration} (positive : interval ≠ .zero)
    (bridge : Option Generation) (h : Host) : (spawn interval bridge h).1.isRunning = true := by
  simp only [spawn, if_neg positive]
  rfl

theorem isRunning_sleep (t : Task) (d : Duration) (bridge : Option Generation) (h : Host) :
    (t.sleep d bridge h).1.isRunning = t.isRunning := by
  cases t <;> rfl

theorem stop_of_isRunning {t : Task} (running : t.isRunning = true) (h : Host) : t.stop h = h := by
  cases t with
  | beating b => rfl
  | panicked => cases running

end Task

theorem Settings.heartbeatInterval_ne_zero {env : Environment} {settings : Settings}
    (loaded : Settings.load env = .ok settings) : settings.heartbeatInterval ≠ .zero := by
  have positive := (Settings.load_pos loaded).1
  intro zero
  have nanos : 1000000000 * settings.heartbeatSecs = 0 := Duration.eq_zero_iff.mp zero
  omega

/-! ## A runner that has started -/

/-- A runner works with the settings of an environment, its heartbeat goes on, and its pipeline and
its host agree. -/
structure Running.IsInOrder (r : Running) (env : Environment) : Prop where
  loaded : Settings.load env = .ok r.settings
  beating : r.task.isRunning = true
  sound : r.system.IsSound

namespace Program

theorem isNew_hostOf (s : Surroundings) (filter : Filter) :
    System.IsNew ⟨⟨sink, none⟩, hostOf s filter⟩ :=
  ⟨rfl, rfl, rfl, rfl, rfl, rfl⟩

theorem spares_label (m : Manager) (h : Host) : h.Spares (label m h) := by
  unfold label
  cases m.logHook with
  | none => exact .refl h
  | some g =>
    exact ⟨(h.reaches_updateLabels g _).sinks, h.retains_updateLabels g _⟩

theorem spares_report (h : Host) (level : EventLevel) (message : String)
    (fields : List (String × Value)) : h.Spares (report h level message fields) :=
  .of_unwritten (h.unwritten_emit .application _)

/-- The start of the pipeline leaves a sound system, however it ends. -/
theorem isSound_started (s : Surroundings) (filter : Filter) (config : Config)
    {result : StartResult} {m : Manager} {h : Host}
    (started : (⟨sink, none⟩ : Manager).start (Factory.otlp s.sdk true s.env) config version none
      (hostOf s filter) = (result, m, h)) : System.IsSound ⟨m, h⟩ := by
  have sound := System.isSound_step (isNew_hostOf s filter).isSound
    (.start (Factory.otlp s.sdk true s.env) config version none)
  simpa only [System.step, started] using sound

theorem isInOrder_launch {s : Surroundings} {settings : Settings} {config : Config} {r : Running}
    {complaints : List String} (loaded : Settings.load s.env = .ok settings)
    (launched : launch s settings config = .running r complaints) : r.IsInOrder s.env := by
  unfold launch at launched
  cases started : (⟨sink, none⟩ : Manager).start (Factory.otlp s.sdk true s.env) config version none
    (hostOf s (Filter.choose (TextMap.lastValue? filterVariable s.env) settings.logLevel).1) with
  | mk result rest =>
    obtain ⟨m, h⟩ := rest
    have sound := isSound_started s _ config started
    simp only [started] at launched
    cases result with
    | refused e => cases launched
    | panicked payload => cases launched
    | aborted => cases launched
    | stuck => cases launched
    | ok =>
      obtain ⟨rfl, -⟩ := Boot.running.inj launched
      have told := (spares_label m h).trans (spares_report (label m h) .info "otel-runner starting"
        [("version", .str version), ("telemetry", .bool m.isActive),
          ("endpoint", .display config.endpoint)])
      have spawned := told.trans (Task.spares_spawn settings.heartbeatInterval m.bridge _)
      exact ⟨loaded, Task.isRunning_spawn (Settings.heartbeatInterval_ne_zero loaded) _ _,
        sound.of_spares spawned⟩

theorem isInOrder_boot {s : Surroundings} {r : Running} {complaints : List String}
    (booted : boot s = .running r complaints) : r.IsInOrder s.env := by
  unfold boot at booted
  cases loaded : Settings.load s.env with
  | error e =>
    rw [loaded] at booted
    cases booted
  | ok settings =>
    rw [loaded] at booted
    dsimp only at booted
    split at booted
    · cases booted
    · exact isInOrder_launch loaded booted

variable {env : Environment} {r : Running}

theorem isInOrder_sleep (order : r.IsInOrder env) (d : Duration) : (sleep r d).IsInOrder env := by
  refine ⟨order.loaded, (r.task.isRunning_sleep d _ _).trans order.beating, ?_⟩
  have slept := r.task.spares_sleep d r.system.manager.bridge r.system.host
  exact order.sound.of_spares ⟨slept.sinks, slept.retains.emitters, slept.retains.bridges⟩

theorem isInOrder_naps (order : r.IsInOrder env) (naps : List Duration) :
    (naps.foldl sleep r).IsInOrder env := by
  induction naps generalizing r with
  | nil => exact order
  | cons d rest ih => exact ih (isInOrder_sleep order d)

/-! ## Stopping -/

/-- The host of a runner that was told to stop. -/
def told (r : Running) : Host :=
  report r.system.host .info "shutdown signal received; flushing telemetry" []

theorem isBacked_told (order : r.IsInOrder env) (p : Pipeline)
    (active : r.system.manager.active = some p) : p.IsBacked (told r) :=
  (order.sound.backed p active).of_retains (spares_report r.system.host .info _ _).retains

/-- The heartbeat has nothing to say when it is stopped, so all depends on the deadline. -/
theorem stop_eq (order : r.IsInOrder env) :
    stop r = match Deadline.after? (told r).now r.settings.shutdownTimeout with
      | none => ⟨101, "overflow when adding duration to instant\n", told r⟩
      | some deadline =>
        match r.system.manager.shutdown deadline (told r) with
        | (.ok (), _, h) => ⟨0, "", h⟩
        | (.error e, _, h) =>
          ⟨1, "Error: " ++ e.message ++ "\n",
            report h .error "telemetry shutdown incomplete" [("error", .display e.message)]⟩ := by
  rw [stop, Task.stop_of_isRunning order.beating]
  rfl

theorem stop_of_overflow (order : r.IsInOrder env)
    (late : Deadline.clockLimit ≤ (told r).now.wholeSecs + r.settings.shutdownSecs) :
    stop r = ⟨101, "overflow when adding duration to instant\n", told r⟩ := by
  rw [stop_eq order, Settings.shutdownTimeout, Deadline.after?_ofSecs,
    if_neg (Nat.not_lt.mpr late)]

/-- A runner whose deadline the clock can hold asks all that its pipeline holds to end, and tells
with its exit code whether all of it ended in order. -/
theorem journal_stop (order : r.IsInOrder env)
    (fits : (told r).now.wholeSecs + r.settings.shutdownSecs < Deadline.clockLimit) :
    let deadline := Deadline.after (told r).now r.settings.shutdownTimeout
    let result := (r.system.manager.shutdown deadline (told r)).1
    (stop r).exitCode = (if result.isOk then 0 else 1) ∧
      ∃ flushed, (stop r).host.journal = (told r).journal ++ flushed ∧
        flushed.filter Effect.isRequest = r.system.manager.active.elim [] fun p =>
          (p.steps deadline (told r)).map (Step.request deadline) := by
  intro deadline result
  have torn := Manager.reaches_shutdown (isBacked_told order) deadline
  have requests : (r.system.manager.active.elim [] fun p =>
      p.teardownEffects deadline (told r)).filter Effect.isRequest =
        r.system.manager.active.elim [] fun p =>
          (p.steps deadline (told r)).map (Step.request deadline) := by
    cases r.system.manager.active with
    | none => rfl
    | some p => exact Pipeline.filter_isRequest_teardownEffects p deadline (told r)
  have milestones : ∀ effect : Effect, effect.isRequest = true → effect.isMilestone = true := by
    intro effect asks
    cases effect <;> first | rfl | cases asks
  have held : Deadline.after? (told r).now r.settings.shutdownTimeout = some deadline := by
    rw [Settings.shutdownTimeout, Deadline.after?_ofSecs, if_pos fits]
    rfl
  have stopped := stop_eq order
  simp only [held] at stopped
  cases ended : r.system.manager.shutdown deadline (told r) with
  | mk outcome rest =>
    obtain ⟨m, h⟩ := rest
    have outcome_eq : result = outcome := congrArg Prod.fst ended
    rw [ended] at torn
    simp only [ended] at stopped
    rw [outcome_eq]
    cases outcome with
    | ok done =>
      obtain ⟨flushed, journal, asked⟩ := torn.exists_added milestones
      rw [stopped]
      exact ⟨rfl, flushed, journal, asked.trans requests⟩
    | error e =>
      -- the report about the failure comes after all requests and asks nothing
      have complained := torn.trans (h.reaches_emit .application
        (.report h.clock .error target "telemetry shutdown incomplete"
          [("error", .display e.message)]))
      obtain ⟨flushed, journal, asked⟩ := complained.exists_added milestones
      rw [List.filter_append, requests] at asked
      rw [stopped]
      exact ⟨rfl, flushed, journal, asked.trans (List.append_nil _)⟩

/-- The settings that load keep the heartbeat from an interval of zero, and so it goes on until the
runner is told to stop. They do not keep the time for the shutdown within the clock. If the clock
can hold the deadline, the runner takes its pipeline down; if not, it ends without having asked
anything to end. -/
theorem stop_within_clock {env : Environment} {settings : Settings}
    (loaded : Settings.load env = .ok settings) :
    settings.heartbeatInterval ≠ .zero ∧
    (∀ now : Instant, Deadline.after? now settings.shutdownTimeout =
      if now.wholeSecs + settings.shutdownSecs < Deadline.clockLimit then
        some (.after now settings.shutdownTimeout) else none) ∧
    ∀ (s : Surroundings) (started : Running) (complaints : List String) (naps : List Duration),
      s.env = env → boot s = .running started complaints →
      let r := naps.foldl sleep started
      let deadline := Deadline.after (told r).now settings.shutdownTimeout
      let result := (r.system.manager.shutdown deadline (told r)).1
      r.settings = settings ∧ r.task.isRunning = true ∧
      ((told r).now.wholeSecs + settings.shutdownSecs < Deadline.clockLimit →
        (stop r).exitCode = (if result.isOk then 0 else 1) ∧
        ∃ flushed, (stop r).host.journal = (told r).journal ++ flushed ∧
          flushed.filter Effect.isRequest = r.system.manager.active.elim [] fun p =>
            (p.steps deadline (told r)).map (Step.request deadline)) ∧
      (Deadline.clockLimit ≤ (told r).now.wholeSecs + settings.shutdownSecs →
        stop r = ⟨101, "overflow when adding duration to instant\n", told r⟩) := by
  refine ⟨Settings.heartbeatInterval_ne_zero loaded,
    fun now => Deadline.after?_ofSecs now settings.shutdownSecs, ?_⟩
  intro s started complaints naps same booted r
  have order : r.IsInOrder env := by
    rw [← same]
    exact isInOrder_naps (isInOrder_boot booted) naps
  obtain rfl : settings = r.settings := Except.ok.inj (loaded.symm.trans order.loaded)
  exact ⟨rfl, order.beating, fun fits => journal_stop order fits,
    fun late => stop_of_overflow order late⟩

/-- A runner that exports logs and metrics, with the usual settings, is told to stop after half a
minute. It asks the emitter and the bridge to end. -/
theorem stop_within_clock_of_collector :
    let env : Environment :=
      [("OTEL_BRIDGE_ENABLED", "1"), ("OTEL_BRIDGE_ENDPOINT", "http://localhost:4317")]
    let s : Surroundings := { env, platform := ⟨"linux", "x86_64", 1, none⟩ }
    ∃ started complaints, boot s = .running started complaints ∧
      let r := sleep (sleep started (.ofSecs 20)) (.ofSecs 10)
      (stop r).exitCode = 0 ∧
      ∃ flushed, (stop r).host.journal = (told r).journal ++ flushed ∧
        (flushed.filter Effect.isRequest).length = 2 := by
  intro env s
  have loaded : Settings.load env = .ok ⟨"info", 15, 20⟩ :=
    Except.eq_ok_of_toOption (by decide +kernel)
  -- what running the program shows
  have shown : (match boot s with
      | .running started _ =>
        let r := sleep (sleep started (.ofSecs 20)) (.ofSecs 10)
        let deadline := Deadline.after (told r).now (Settings.shutdownTimeout ⟨"info", 15, 20⟩)
        decide ((told r).now.wholeSecs = 30 ∧
          (r.system.manager.shutdown deadline (told r)).1.isOk = true ∧
          (r.system.manager.active.elim [] fun p =>
            (p.steps deadline (told r)).map (Step.request deadline)).length = 2)
      | .refused _ => false) = true := by
    decide +kernel
  cases booted : boot s with
  | refused complaint =>
    rw [booted] at shown
    cases shown
  | running started complaints =>
    rw [booted] at shown
    obtain ⟨now, ok, two⟩ := of_decide_eq_true shown
    obtain ⟨-, -, stops⟩ := stop_within_clock loaded
    obtain ⟨-, -, flushes, -⟩ := stops s started complaints [.ofSecs 20, .ofSecs 10] rfl booted
    have fits : (told (sleep (sleep started (.ofSecs 20)) (.ofSecs 10))).now.wholeSecs + 20 <
        Deadline.clockLimit := by
      rw [now]
      decide
    obtain ⟨exit_code, flushed, journal, asked⟩ := flushes fits
    refine ⟨started, complaints, rfl, exit_code.trans (if_pos ok), flushed, journal, ?_⟩
    exact (congrArg List.length asked).trans two

/-- The longest time that the settings can hold goes beyond the clock, whatever this reads. -/
theorem not_always_within_clock :
    ¬ ∀ (env : Environment) (settings : Settings), Settings.load env = .ok settings →
      settings.heartbeatInterval ≠ .zero ∧
        ∀ now : Instant, (Deadline.after? now settings.shutdownTimeout).isSome = true := by
  intro always
  let env : Environment := [("OTEL_RUNNER_SHUTDOWN_TIMEOUT_SECS", "18446744073709551615")]
  have loaded : Settings.load env = .ok ⟨"info", 15, 18446744073709551615⟩ :=
    Except.eq_ok_of_toOption (by decide +kernel)
  have held := (always env _ loaded).2 .zero
  rw [Settings.shutdownTimeout, Deadline.after?_ofSecs, if_neg (by decide)] at held
  cases held

end Program

end Runner

end Telemetry
