import Telemetry.Proofs.Run.Moments

/-!
# Shutdowns

A shutdown takes the steps of the active pipeline, all of them and in order: the emitter, the
bridge, the hooks in the order of their registration. What a step fails with depends on its own
part and on the clock alone, so no failure keeps a later step from being taken or changes what it
comes to. The result lists the failures in the order of the steps. With a deadline that has passed
the components are asked all the same, and each fails at once.

* `failure?_of_isExpired`: the failure of a component after the deadline.
* `shutdown_takes_steps`: the requests and the result of a shutdown.
-/

namespace Telemetry

def Signal.failure : Signal → ComponentError → ShutdownFailure
  | logs => .logHook
  | metrics => .metricsBridge

namespace Duration

theorem le_refl (d : Duration) : d ≤ d := Nat.le_refl d.nanos

theorem le_trans {c d e : Duration} (h : c ≤ d) (h' : d ≤ e) : c ≤ e := Nat.le_trans h h'

theorem le_add (d e : Duration) : d ≤ d.add e := Nat.le_add_right d.nanos e.nanos

end Duration

theorem le_now_of_mem_schedule {deadline : Deadline} {now : Instant} {parts : List Part}
    {step : Step} (hs : step ∈ schedule deadline now parts) : now ≤ step.now := by
  induction parts generalizing now with
  | nil => cases hs
  | cons part rest ih =>
    rcases List.mem_cons.mp hs with rfl | hs
    · exact Duration.le_refl now
    · exact Duration.le_trans (Duration.le_add now _) (ih hs)

theorem Deadline.remaining_of_isExpired {deadline : Deadline} {now later : Instant}
    (expired : deadline.isExpired now = true) (order : now ≤ later) :
    deadline.remaining later = .zero :=
  Duration.sub_eq_zero_iff.mpr (Duration.le_trans (Deadline.isExpired_iff.mp expired) order)

/-- What becomes of the worker that takes a part down. A hook has none. -/
def Part.worker? : Part → Option Spawn
  | log _ _ e => some e.workers.next
  | metrics _ b => some b.workers.next
  | hook _ => none

/-- With no time left a component fails, whatever it does. -/
theorem Part.failure?_of_isExpired {deadline : Deadline} {now : Instant} {part : Part}
    {signal : Signal} {g : Generation} (component : part.holding = .component signal g)
    (expired : deadline.remaining now = .zero) {spawn : Spawn} (worker : part.worker? = some spawn) :
    part.failure? deadline now = some (signal.failure spawn.faultAtOnce) := by
  cases part with
  | log sink k e =>
    have bound : closeBound deadline now = .zero := by rw [closeBound, expired]; rfl
    obtain ⟨rfl, -⟩ := Holding.component.inj component
    obtain rfl := Option.some.inj worker
    rw [failure?, bound, Work.fault?_zero]
    rfl
  | metrics k b =>
    obtain ⟨rfl, -⟩ := Holding.component.inj component
    obtain rfl := Option.some.inj worker
    rw [failure?, expired, Work.fault?_zero]
    rfl
  | hook k => cases component

theorem Manager.shutdown_of_inactive {m : Manager} (inactive : m.active = none)
    (deadline : Deadline) (h : Host) : m.shutdown deadline h = (.ok (), m, h) := by
  simp [shutdown, inactive]

theorem ShutdownError.ofFailures?_eq_some_iff {failures : List ShutdownFailure}
    {e : ShutdownError} : ofFailures? failures = some e ↔ e.failures = failures := by
  refine ⟨failures_ofFailures?, fun h => ?_⟩
  subst h
  rw [ofFailures?, dif_neg e.failures_ne_nil]

namespace Pipeline

variable {p : Pipeline} {h : Host} {deadline : Deadline}

theorem teardown_eq_ok_iff (backed : p.IsBacked h) :
    (p.teardown deadline h).1 = .ok () ↔
      ∀ step ∈ p.steps deadline h, step.failure? deadline = none := by
  rw [fst_teardown deadline backed, ← List.filterMap_eq_nil_iff]
  change _ ↔ p.failures deadline h = []
  rw [← ShutdownError.ofFailures?_eq_none_iff]
  cases ShutdownError.ofFailures? (p.failures deadline h) <;> simp

theorem failures_of_teardown_eq_error (backed : p.IsBacked h) {e : ShutdownError}
    (failed : (p.teardown deadline h).1 = .error e) :
    e.failures = (p.steps deadline h).filterMap (Step.failure? deadline) := by
  rw [fst_teardown deadline backed] at failed
  rw [← ShutdownError.ofFailures?_eq_some_iff]
  change ShutdownError.ofFailures? (p.failures deadline h) = some e
  cases found : ShutdownError.ofFailures? (p.failures deadline h) with
  | none => rw [found] at failed; cases failed
  | some e' =>
    rw [found] at failed
    rw [Except.error.inj failed]

end Pipeline

namespace System

/-- A shutdown of an active pipeline takes all its steps in order, reports the failing ones and
leaves nothing active. -/
theorem shutdown_takes_steps {s : System} (reachable : s.IsReachable) {p : Pipeline}
    (active : s.manager.active = some p) (deadline : Deadline) :
    let m : Moment := ⟨s, .shutdown deadline⟩
    let steps := p.steps deadline s.host
    (steps.map Step.part = p.parts s.host ∧ (p.parts s.host).map Part.holding = p.holdings) ∧
    m.effects.filter Effect.isRequest = steps.map (Step.request deadline) ∧
    (∃ result, m.answer = .stopped result ∧
      (result = .ok () ↔ ∀ step ∈ steps, step.failure? deadline = none) ∧
      ∀ e, result = .error e → e.failures = steps.filterMap (Step.failure? deadline)) ∧
    (deadline.isExpired s.host.now = true → ∀ step ∈ steps, ∀ signal g,
      step.part.holding = .component signal g →
        (∀ delay, step.part.worker? = some (.begins delay) →
          step.failure? deadline = some (signal.failure (.deadlineExceeded .zero))) ∧
        ∀ reason, step.part.worker? = some (.refused reason) →
          step.failure? deadline = some (signal.failure (.worker reason))) ∧
    m.after.manager.active = none ∧
    ∀ later k, m.after.manager.shutdown later k = (.ok (), m.after.manager, k) := by
  intro m steps
  have sound := reachable.isSound
  have backed := sound.backed p active
  have inactive : m.after.manager.active = none :=
    Manager.active_shutdown s.manager deadline s.host
  refine ⟨⟨map_part_schedule deadline s.host.now (p.parts s.host),
    Pipeline.map_holding_parts backed⟩, ?_, ⟨(p.teardown deadline s.host).1, ?_,
      Pipeline.teardown_eq_ok_iff backed,
      fun _ => Pipeline.failures_of_teardown_eq_error backed⟩, ?_, inactive,
    fun later k => Manager.shutdown_of_inactive inactive later k⟩
  · -- every request is a milestone, so the requests of the teardown are all there are
    rw [← Pipeline.filter_isRequest_teardownEffects]
    have milestones := (Moment.extends_of_isBacked (m := m) sound.backed).milestones
    rw [show m.before.effectsOf m.operation = p.teardownEffects deadline s.host by
      simp [m, effectsOf, active]] at milestones
    rw [← milestones, List.filter_filter]
    congr 1
    funext effect
    cases effect <;> rfl
  · simp [m, Moment.answer, step, Manager.shutdown, active]
  · intro expired step hs signal g component
    have no_time : deadline.remaining step.now = .zero :=
      Deadline.remaining_of_isExpired expired (le_now_of_mem_schedule hs)
    exact ⟨fun _ => Part.failure?_of_isExpired component no_time,
      fun _ => Part.failure?_of_isExpired component no_time⟩

/-- Four steps, three of which fail: an emitter that would close in order but is given no time, a
bridge likewise, a hook that succeeds and one that panics. -/
theorem shutdown_takes_steps_of_expired :
    let s := (fresh "own" ⟨"linux", "x86_64", 1, none⟩ []).run [
      .start (.constant (.built (.ofProvider ⟨some {}, false⟩)) (.built {})) .toLocalhost "" none,
      .addHook ⟨"flush", fun _ _ => ⟨.done, [], .zero⟩⟩,
      .addHook ⟨"report", fun _ _ => ⟨.panicked (.text "lost"), [], .zero⟩⟩]
    s.IsReachable ∧ ∃ p, s.manager.active = some p ∧ ∃ e,
      Moment.answer ⟨s, .shutdown (.expired .zero)⟩ = .stopped (.error e) ∧
      e.failures = [.logHook (.deadlineExceeded .zero), .metricsBridge (.deadlineExceeded .zero),
        .callback "report" "panicked: lost"] := by
  intro s
  have reachable : s.IsReachable := ⟨_, _, isNew_fresh _ _ _, rfl⟩
  have isSome : s.manager.active.isSome = true := by decide +kernel
  have failed : ∀ isSome : s.manager.active.isSome = true,
      ((s.manager.active.get isSome).steps (.expired .zero) s.host).filterMap
        (Step.failure? (.expired .zero)) = [.logHook (.deadlineExceeded .zero),
          .metricsBridge (.deadlineExceeded .zero), .callback "report" "panicked: lost"] := by
    decide +kernel
  have active : s.manager.active = some (s.manager.active.get isSome) :=
    (Option.some_get isSome).symm
  obtain ⟨-, -, ⟨result, answer, ok_iff, failures⟩, -, -, -⟩ :=
    shutdown_takes_steps reachable active (.expired .zero)
  refine ⟨reachable, _, active, ?_⟩
  cases result with
  | ok _ =>
    have none_failed := List.filterMap_eq_nil_iff.mpr (ok_iff.mp rfl)
    rw [failed isSome] at none_failed
    cases none_failed
  | error e => exact ⟨e, answer, (failures e rfl).trans (failed isSome)⟩

end System

end Telemetry
