import Telemetry.Proofs.Host.Frame

/-!
# What components are made of

An emitter is made of its logger and the processor of its provider, a bridge of its reader. Whatever
is done to a component later, it is not made anew. A bridge holds what was recorded on it, also when
it was shut down.

* `kept_closeEmitter`, `kept_shutdownBridge`, `kept_wake`: closing a component does not replace it
  and loses nothing that was recorded.
* `makes_of_kept`, `series_of_kept`: what is kept by that.
* `makes_record`: a reading does not replace a component either.
-/

namespace Telemetry

/-- What an emitter is made of: its logger and the processor of its provider. -/
def Emitter.make (e : Emitter) : Option Logger × Option LogProcessor :=
  (e.logger, e.provider.processor)

/-- What a bridge is made of. -/
def Bridge.make (b : Bridge) : ShutdownBehaviour := b.onShutdown

/-- What a bridge is made of, and what was recorded on it. -/
def Bridge.kept (b : Bridge) : ShutdownBehaviour × List Series := (b.make, b.series)

theorem Emitter.make_closeWithin (e : Emitter) (bound : Duration) :
    (e.closeWithin bound).emitter.make = e.make := by
  simp only [make, closeWithin]
  split
  · rw [LoggerProvider.processor_shutdown]
  · rfl

theorem Emitter.make_closeLate (e : Emitter) : e.closeLate.make = e.make := by
  simp only [make, closeLate, LoggerProvider.processor_shutdown]

theorem Bridge.kept_shutReader (b : Bridge) : b.shutReader.bridge.kept = b.kept := by
  unfold shutReader
  split <;> rfl

theorem Bridge.make_shutReader (b : Bridge) : b.shutReader.bridge.make = b.make :=
  congrArg Prod.fst b.kept_shutReader

theorem Bridge.kept_shutdown (b : Bridge) (deadline : Deadline) (now : Instant) :
    (b.shutdown deadline now).bridge.kept = b.kept := by
  simp only [shutdown]
  split
  · exact b.kept_shutReader
  · rfl

theorem Bridge.kept_shutdownLate (b : Bridge) : b.shutdownLate.kept = b.kept := b.kept_shutReader

/-- A table in which an entry is replaced by one with the same image has the same images. -/
theorem map_getElem?_insert {α β : Type} {m : Std.ExtTreeMap Generation α} {g : Generation}
    {a b : α} (found : m[g]? = some a) {f : α → β} (same : f b = f a) (k : Generation) :
    (m.insert g b)[k]?.map f = m[k]?.map f := by
  simp only [Std.ExtTreeMap.getElem?_insert, Std.LawfulEqOrd.compare_eq_iff_eq]
  split
  · rename_i here
    subst here
    rw [found, Option.map_some, Option.map_some, same]
  · rfl

namespace Host

/-- What the components under a number are made of. -/
def makes (h : Host) (g : Generation) :
    Option (Option Logger × Option LogProcessor) × Option ShutdownBehaviour :=
  (h.emitters[g]?.map Emitter.make, h.bridges[g]?.map Bridge.make)

/-- What was recorded on a bridge. -/
def series (h : Host) (g : Generation) : Option (List Series) := h.bridges[g]?.map Bridge.series

/-- What the components under a number are made of, and what was recorded on the bridge. -/
def kept (h : Host) (g : Generation) :
    Option (Option Logger × Option LogProcessor) × Option (ShutdownBehaviour × List Series) :=
  (h.emitters[g]?.map Emitter.make, h.bridges[g]?.map Bridge.kept)

theorem makes_of_kept {h k : Host} (same : k.kept = h.kept) : k.makes = h.makes := by
  have makes_eq (h : Host) (g : Generation) :
      h.makes g = ((h.kept g).1, (h.kept g).2.map Prod.fst) := by
    rw [kept, Option.map_map]
    rfl
  funext g
  rw [makes_eq, makes_eq, same]

theorem series_of_kept {h k : Host} (same : k.kept = h.kept) : k.series = h.series := by
  have series_eq (h : Host) (g : Generation) : h.series g = (h.kept g).2.map Prod.snd := by
    rw [kept, Option.map_map]
    rfl
  funext g
  rw [series_eq, series_eq, same]

theorem kept_of_unwritten {h k : Host} (same : k.unwritten = h.unwritten) : k.kept = h.kept := by
  funext g
  rw [kept, kept, emitters_of_unwritten same, bridges_of_unwritten same]

theorem kept_pass (h : Host) (d : Duration) : (h.pass d).kept = h.kept := rfl

theorem kept_setEmitter {h : Host} {g : Generation} {e e' : Emitter}
    (found : h.emitters[g]? = some e) (same : e'.make = e.make) :
    (h.setEmitter g e').kept = h.kept := by
  funext k
  rw [kept, kept, setEmitter, map_getElem?_insert found same]

theorem kept_setBridge {h : Host} {g : Generation} {b b' : Bridge}
    (found : h.bridges[g]? = some b) (same : b'.kept = b.kept) :
    (h.setBridge g b').kept = h.kept := by
  funext k
  rw [kept, kept, setBridge, map_getElem?_insert found same]

theorem kept_updateLabels (h : Host) (g : Generation) (labels : List (String × String)) :
    (h.updateLabels g labels).kept = h.kept := by
  unfold updateLabels
  cases found : h.emitters[g]? with
  | none => rfl
  | some e => exact kept_setEmitter found rfl

theorem kept_closeEmitter (h : Host) (g : Generation) (bound : Duration) :
    (h.closeEmitter g bound).2.kept = h.kept := by
  cases found : h.emitters[g]? with
  | none => simp only [closeEmitter, found]
  | some e =>
    rw [kept_of_unwritten (unwritten_closeEmitter found bound), kept_pass]
    exact kept_setEmitter found (e.make_closeWithin bound)

theorem kept_shutdownBridge (h : Host) (g : Generation) (deadline : Deadline) :
    (h.shutdownBridge g deadline).2.kept = h.kept := by
  cases found : h.bridges[g]? with
  | none => simp only [shutdownBridge, found]
  | some b =>
    rw [kept_of_unwritten (unwritten_shutdownBridge found deadline), kept_pass]
    exact kept_setBridge found (b.kept_shutdown deadline h.now)

theorem kept_wake (h : Host) (signal : Signal) (g : Generation) :
    (h.wake signal g).kept = h.kept := by
  cases signal with
  | logs =>
    rcases wakeEmitter_cases h g with ⟨same, -⟩ | ⟨e, found, -, woken⟩
    · rw [wake, same]
    · rw [wake, woken, kept_of_unwritten (h := h.setEmitter g e.closeLate) (by simp)]
      exact kept_setEmitter found e.make_closeLate
  | metrics =>
    rcases wakeBridge_cases h g with ⟨same, -⟩ | ⟨b, found, -, woken⟩
    · rw [wake, same]
    · rw [wake, woken, kept_of_unwritten (h := h.setBridge g b.shutdownLate) (by simp)]
      exact kept_setBridge found b.kept_shutdownLate

theorem makes_record (h : Host) (g : Generation) (instrument : Instrument)
    (attributes : Attributes) (reading : Reading) (live : Bool) :
    (h.record g instrument attributes reading live).makes = h.makes := by
  unfold record
  cases found : h.bridges[g]? with
  | none => rfl
  | some b =>
    have recorded : (if live then b.record instrument attributes reading else b).make = b.make := by
      split <;> rfl
    funext k
    rw [makes, makes, Option.elim_some, setBridge]
    exact congrArg (Prod.mk _) (map_getElem?_insert found recorded k)

end Host

end Telemetry
