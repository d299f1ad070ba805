import Telemetry.Manager.Pipeline

/-!
# What an emission leaves alone

An emission adds to the journal of a host and touches nothing else. So closing a component replaces
that component and lets time pass, and a hook lets its own time pass, whatever is reported meanwhile.

* `unwritten_closeEmitter`, `unwritten_shutdownBridge`: what closing a component does to a host.
* `unwritten_runHook`: what a hook does.
* `wakeEmitter_cases`, `wakeBridge_cases`: what a worker does that was left behind.
* `dropEmitter_cases`: what letting an emitter go does.
-/

namespace Telemetry

/-- What letting an emitter go comes to: its provider is shut down, unless a worker that was left
behind still holds it. -/
def Emitter.dropWork (e : Emitter) : Work (Except ProviderError Unit) :=
  if e.workers.waiting = 0 then e.provider.shutdown.work else .returns .zero (.ok ())

namespace Host

/-- A host without the parts that the work of a pipeline may touch: what is left are the wall clock,
the contexts, the surroundings, the layers and the number of the last start. -/
def ground (h : Host) : Host :=
  { h.unwritten with now := .zero, sinks := ∅, emitters := ∅, bridges := ∅ }

section

variable {h k : Host}

theorem ground_of_unwritten (same : k.unwritten = h.unwritten) : k.ground = h.ground := by
  rw [ground, same, ground]

theorem now_of_unwritten (same : k.unwritten = h.unwritten) : k.now = h.now :=
  (congrArg Host.now same :)

theorem emitters_of_unwritten (same : k.unwritten = h.unwritten) : k.emitters = h.emitters :=
  (congrArg Host.emitters same :)

theorem bridges_of_unwritten (same : k.unwritten = h.unwritten) : k.bridges = h.bridges :=
  (congrArg Host.bridges same :)

end

@[simp] theorem unwritten_pass (h : Host) (d : Duration) :
    (h.pass d).unwritten = h.unwritten.pass d := rfl

@[simp] theorem unwritten_setEmitter (h : Host) (g : Generation) (e : Emitter) :
    (h.setEmitter g e).unwritten = h.unwritten.setEmitter g e := rfl

@[simp] theorem unwritten_setBridge (h : Host) (g : Generation) (b : Bridge) :
    (h.setBridge g b).unwritten = h.unwritten.setBridge g b := rfl

@[simp] theorem unwritten_report (h : Host) (level : EventLevel) (message : String)
    (fields : List (String × Value)) :
    (h.report level message fields).unwritten = h.unwritten :=
  unwritten_emit h _ _

/-! ## Components and hooks -/

theorem unwritten_closeEmitter {h : Host} {g : Generation} {e : Emitter}
    (found : h.emitters[g]? = some e) (bound : Duration) :
    (h.closeEmitter g bound).2.unwritten =
      ((h.setEmitter g (e.closeWithin bound).emitter).pass
        (e.closeWithin bound).elapsed).unwritten := by
  simp [closeEmitter, found]

theorem unwritten_shutdownBridge {h : Host} {g : Generation} {b : Bridge}
    (found : h.bridges[g]? = some b) (deadline : Deadline) :
    (h.shutdownBridge g deadline).2.unwritten =
      ((h.setBridge g (b.shutdown deadline h.now).bridge).pass
        (b.shutdown deadline h.now).elapsed).unwritten := by
  simp [shutdownBridge, found]

theorem unwritten_runHook (hook : Hook) (deadline : Deadline) (h : Host) :
    (Pipeline.runHook hook deadline h).2.unwritten =
      (h.pass (hook.run deadline h.now).elapsed).unwritten := by
  simp [Pipeline.runHook]

/-- A worker of an emitter that was left behind shuts the provider down. -/
theorem wakeEmitter_cases (h : Host) (g : Generation) :
    (h.wakeEmitter g = h ∧ ∀ e, h.emitters[g]? = some e → e.workers.waiting = 0) ∨
      ∃ e, h.emitters[g]? = some e ∧ e.workers.waiting ≠ 0 ∧
        h.wakeEmitter g =
          ((h.setEmitter g e.closeLate).noteShutDown .logs g e.provider.shutdown.asked).emitAll
            .component e.provider.shutdown.events := by
  unfold wakeEmitter
  cases h.emitters[g]? with
  | none => exact Or.inl ⟨rfl, nofun⟩
  | some e =>
    by_cases none_left : e.workers.waiting = 0
    · exact Or.inl ⟨by simp [none_left], fun e' he => Option.some.inj he ▸ none_left⟩
    · exact Or.inr ⟨e, rfl, none_left, by simp [none_left]⟩

/-- A worker of a bridge that was left behind shuts the provider down. -/
theorem wakeBridge_cases (h : Host) (g : Generation) :
    (h.wakeBridge g = h ∧ ∀ b, h.bridges[g]? = some b → b.workers.waiting = 0) ∨
      ∃ b, h.bridges[g]? = some b ∧ b.workers.waiting ≠ 0 ∧
        h.wakeBridge g =
          (((h.setBridge g b.shutdownLate).noteShutDown .metrics g b.shutReader.asked).noteCollected
            g b.shutReader.collected).emitAll .component b.shutReader.events := by
  unfold wakeBridge
  cases h.bridges[g]? with
  | none => exact Or.inl ⟨rfl, nofun⟩
  | some b =>
    by_cases none_left : b.workers.waiting = 0
    · exact Or.inl ⟨by simp [none_left], fun b' hb => Option.some.inj hb ▸ none_left⟩
    · exact Or.inr ⟨b, rfl, none_left, by simp [none_left]⟩

/-- An emitter is gone once it is let go, unless a worker still holds it. -/
theorem dropEmitter_cases (h : Host) (g : Generation) :
    h.dropEmitter g = (.returns .zero (.ok ()), h) ∨
      ∃ e, h.emitters[g]? = some e ∧ e.workers.waiting = 0 ∧
        h.dropEmitter g = (e.provider.shutdown.work,
          (({ h with emitters := h.emitters.erase g }.noteShutDown .logs g
            e.provider.shutdown.asked).emitAll .component e.provider.shutdown.events).pass
              e.provider.shutdown.work.time) := by
  unfold dropEmitter
  cases h.emitters[g]? with
  | none => exact Or.inl rfl
  | some e =>
    by_cases none_left : e.workers.waiting = 0
    · exact Or.inr ⟨e, rfl, none_left, by simp [none_left]⟩
    · exact Or.inl (by simp [none_left])

/-- What letting an emitter go comes to. -/
theorem fst_dropEmitter {h : Host} {g : Generation} {e : Emitter}
    (found : h.emitters[g]? = some e) : (h.dropEmitter g).1 = e.dropWork := by
  simp only [dropEmitter, found, Emitter.dropWork]
  split <;> rfl

/-! ## Components stay -/

/-- No component of `h` has gone in `k`. -/
structure Retains (h k : Host) : Prop where
  emitters : ∀ g, g ∈ h.emitters → g ∈ k.emitters
  bridges : ∀ g, g ∈ h.bridges → g ∈ k.bridges

namespace Retains

variable {h k l : Host}

theorem refl (h : Host) : Retains h h := ⟨fun _ => id, fun _ => id⟩

theorem trans (hk : Retains h k) (hl : Retains k l) : Retains h l :=
  ⟨fun g hg => hl.emitters g (hk.emitters g hg), fun g hg => hl.bridges g (hk.bridges g hg)⟩

theorem of_unwritten (same : k.unwritten = h.unwritten) : Retains h k :=
  ⟨fun _ hg => by rwa [emitters_of_unwritten same],
    fun _ hg => by rwa [bridges_of_unwritten same]⟩

theorem setEmitter (h : Host) (g : Generation) (e : Emitter) : Retains h (h.setEmitter g e) :=
  ⟨fun _ hk => Std.ExtTreeMap.mem_insert.mpr (Or.inr hk), fun _ => id⟩

theorem setBridge (h : Host) (g : Generation) (b : Bridge) : Retains h (h.setBridge g b) :=
  ⟨fun _ => id, fun _ hk => Std.ExtTreeMap.mem_insert.mpr (Or.inr hk)⟩

/-- The passing of time takes no component away. -/
theorem pass (kept : Retains h k) (d : Duration) : Retains h (k.pass d) :=
  ⟨kept.emitters, kept.bridges⟩

end Retains

theorem retains_updateLabels (h : Host) (g : Generation) (labels : List (String × String)) :
    Retains h (h.updateLabels g labels) := by
  unfold updateLabels
  cases h.emitters[g]? with
  | none => exact .refl h
  | some e => exact .setEmitter h g _

theorem retains_record (h : Host) (g : Generation) (instrument : Instrument)
    (attributes : Attributes) (reading : Reading) (live : Bool) :
    Retains h (h.record g instrument attributes reading live) := by
  unfold record
  cases h.bridges[g]? with
  | none => exact .refl h
  | some b => exact (Retains.of_unwritten (unwritten_note h _)).trans (.setBridge _ g _)

theorem retains_closeEmitter (h : Host) (g : Generation) (bound : Duration) :
    Retains h (h.closeEmitter g bound).2 := by
  cases found : h.emitters[g]? with
  | none =>
    simp only [closeEmitter, found]
    exact .refl h
  | some e =>
    exact ((Retains.setEmitter h g _).pass _).trans
      (.of_unwritten (unwritten_closeEmitter found bound))

theorem retains_shutdownBridge (h : Host) (g : Generation) (deadline : Deadline) :
    Retains h (h.shutdownBridge g deadline).2 := by
  cases found : h.bridges[g]? with
  | none =>
    simp only [shutdownBridge, found]
    exact .refl h
  | some b =>
    exact ((Retains.setBridge h g _).pass _).trans
      (.of_unwritten (unwritten_shutdownBridge found deadline))

theorem retains_wake (h : Host) (signal : Signal) (g : Generation) :
    Retains h (h.wake signal g) := by
  cases signal with
  | logs =>
    rcases wakeEmitter_cases h g with ⟨same, -⟩ | ⟨e, -, -, woken⟩
    · rw [wake, same]
      exact .refl h
    · rw [wake, woken]
      exact (Retains.setEmitter h g e.closeLate).trans (.of_unwritten (by simp))
  | metrics =>
    rcases wakeBridge_cases h g with ⟨same, -⟩ | ⟨b, -, -, woken⟩
    · rw [wake, same]
      exact .refl h
    · rw [wake, woken]
      exact (Retains.setBridge h g b.shutdownLate).trans (.of_unwritten (by simp))

end Host

end Telemetry
