import Telemetry.Proofs.Run.Soundness

/-!
# Which sink holds which emitter

Between two operations a sink holds an emitter if the active pipeline has that emitter and uses that
sink, and only then. This is all that a sound system knows of its sinks: at most one of them holds
anything, and none does while no pipeline is active or the active one has no emitter.

* `sinks_run_iff`: the agreement of the sinks with the active pipeline in every run.
-/

namespace Telemetry

theorem Manager.holder_eq_some_iff {m : Manager} {sink : SinkName} {g : Generation} :
    m.holder sink = some g ↔ ∃ p, m.active = some p ∧ p.sink = sink ∧ p.logHook = some g := by
  rw [holder, Option.bind_eq_some_iff]
  refine exists_congr fun p => and_congr_right fun _ => ?_
  by_cases same : p.sink = sink <;> simp [same]

namespace System

variable {s : System}

namespace IsSound

theorem sinks_eq_some_iff (sound : s.IsSound) {sink : SinkName} {g : Generation} :
    s.host.sinks[sink]? = some g ↔
      ∃ p, s.manager.active = some p ∧ p.sink = sink ∧ p.logHook = some g := by
  rw [sound.holder, Manager.holder_eq_some_iff]

theorem isAttached_iff (sound : s.IsSound) {sink : SinkName} :
    s.host.isAttached sink = true ↔
      ∃ p g, s.manager.active = some p ∧ p.sink = sink ∧ p.logHook = some g := by
  rw [Host.isAttached, Option.isSome_iff_exists, exists_comm]
  exact exists_congr fun g => sound.sinks_eq_some_iff

theorem eq_of_isAttached (sound : s.IsSound) {a b : SinkName} (ha : s.host.isAttached a = true)
    (hb : s.host.isAttached b = true) : a = b := by
  obtain ⟨p, -, hp, rfl, -⟩ := sound.isAttached_iff.mp ha
  obtain ⟨q, -, hq, rfl, -⟩ := sound.isAttached_iff.mp hb
  rw [hp] at hq
  rw [Option.some.inj hq]

theorem isAttached_eq_false (sound : s.IsSound)
    (off : s.manager.isActive = false ∨ s.manager.logHook = none) (sink : SinkName) :
    s.host.isAttached sink = false := by
  rw [Bool.eq_false_iff]
  intro attached
  obtain ⟨p, g, active, -, hook⟩ := sound.isAttached_iff.mp attached
  rcases off with inactive | no_hook
  · simp [Manager.isActive, active] at inactive
  · simp [Manager.logHook, active, hook] at no_hook

theorem sinks_active (sound : s.IsSound) {p : Pipeline} (active : s.manager.active = some p) :
    s.host.sinks[p.sink]? = s.manager.logHook := by
  rw [sound.holder, Manager.holder, Manager.logHook, active]
  simp

end IsSound

/-- In every state of every run the sinks agree with the active pipeline. -/
theorem sinks_run_iff (new : s.IsNew) (ops : List Operation) :
    let t := s.run ops
    (∀ sink g, t.host.sinks[sink]? = some g ↔
      ∃ p, t.manager.active = some p ∧ p.sink = sink ∧ p.logHook = some g) ∧
    (∀ a b, t.host.isAttached a = true → t.host.isAttached b = true → a = b) ∧
    (t.manager.isActive = false ∨ t.manager.logHook = none →
      ∀ sink, t.host.isAttached sink = false) ∧
    ∀ p, t.manager.active = some p → t.host.sinks[p.sink]? = t.manager.logHook := by
  have sound := isSound_run new.isSound ops
  exact ⟨fun _ _ => sound.sinks_eq_some_iff, fun _ _ => sound.eq_of_isAttached,
    sound.isAttached_eq_false, fun _ => sound.sinks_active⟩

/-- A restart moves to another sink, although the first emitter was closed from outside and the
teardown of its pipeline fails. -/
theorem sinks_run_iff_of_restart :
    let s := fresh "own" ⟨"linux", "x86_64", 1, none⟩ [{ sink := "own" }, { sink := "other" }]
    let factory := Factory.constant (.built (.ofProvider ⟨some {}, false⟩)) (.failed .missingEndpoint)
    let t := s.run [.start factory .toLocalhost "" none,
      .addHook ⟨"flush", fun _ _ => ⟨.failed "", [], .zero⟩⟩,
      .closeEmitter 1 .zero, .start factory .toLocalhost "" (some "other")]
    s.IsNew ∧ t.host.sinks["other"]? = some 2 ∧ t.manager.logHook = some 2 ∧
      ∀ sink, sink ≠ "other" → t.host.isAttached sink = false := by
  intro s factory t
  obtain ⟨-, unique, -, -⟩ := sinks_run_iff (isNew_fresh "own" ⟨"linux", "x86_64", 1, none⟩
    [{ sink := "own" }, { sink := "other" }]) [.start factory .toLocalhost "" none,
      .addHook ⟨"flush", fun _ _ => ⟨.failed "", [], .zero⟩⟩, .closeEmitter 1 .zero,
      .start factory .toLocalhost "" (some "other")]
  have other : t.host.isAttached "other" = true := by decide +kernel
  refine ⟨isNew_fresh _ _ _, by decide +kernel, by decide +kernel, fun sink different => ?_⟩
  rw [Bool.eq_false_iff]
  exact fun attached => different (unique sink "other" attached other)

end System

end Telemetry
