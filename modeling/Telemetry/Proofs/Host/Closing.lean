import Telemetry.Proofs.Host.Closable

/-!
# How a host closes components

Of all that happens in a host only the requests to close a component, and the workers that these
have left behind, change what closing the component depends on. The journal says of it what these
come to, and nothing else.

* `Host.Attends`: what becomes of a component on the way from one host to another.
* `Host.attends_closeEmitter`, `Host.attends_shutdownBridge`, `Host.attends_wake`: what the
  operations of a host do to it.
-/

namespace Telemetry

variable {signal : Signal} {g : Generation}

namespace Host

/-- What closing a component depends on, if it exists. -/
def closable? (h : Host) : Signal → Generation → Option Closable
  | .logs, g => h.emitters[g]?.map Emitter.closable
  | .metrics, g => h.bridges[g]?.map Bridge.closable

/-- The request that closing an emitter makes, with its result. -/
def closeRequest? (h : Host) (g : Generation) (bound : Duration) : Option Request :=
  h.emitters[g]?.bind fun e => (h.closeEmitter g bound).1.map fun result =>
    ⟨bound, none, e.workers.next, result⟩

/-- The request that shutting a bridge down makes, with its result. -/
def shutdownRequest? (h : Host) (g : Generation) (deadline : Deadline) : Option Request :=
  h.bridges[g]?.bind fun b => (h.shutdownBridge g deadline).1.map fun result =>
    ⟨deadline.remaining h.now, some deadline, b.workers.next, result⟩

/-- On the way from one host to another some things happen to a component, if it exists, and it
answers the requests among them. The journal says so, and nothing else of the component. -/
structure Attends (signal : Signal) (g : Generation) (h : Host) (touches : List Touch)
    (k : Host) : Prop where
  closable : k.closable? signal g = (h.closable? signal g).map (·.after touches)
  answers : ∀ c, h.closable? signal g = some c → c.Answers touches
  added : ∃ added, k.journal = h.journal ++ added ∧ added.filter (Effect.concerns signal g) =
    (h.closable? signal g).elim [] fun c => c.notes signal g touches

variable {h k l : Host}

theorem closable?_of_unwritten (same : k.unwritten = h.unwritten) : k.closable? = h.closable? := by
  funext signal g
  cases signal with
  | logs => rw [closable?, closable?, emitters_of_unwritten same]
  | metrics => rw [closable?, closable?, bridges_of_unwritten same]

theorem closable?_pass (h : Host) (d : Duration) : (h.pass d).closable? = h.closable? := by
  funext signal g
  cases signal <;> rfl

namespace Attends

/-- Where nothing concerns a component nothing happens to it. -/
theorem of_quiet {ms : List Effect} (reaches : h.Reaches ms k)
    (quiet : ms.filter (Effect.concerns signal g) = [])
    (same : k.closable? signal g = h.closable? signal g) : Attends signal g h [] k := by
  obtain ⟨added, journal, concerned⟩ := reaches.exists_added Effect.isMilestone_of_concerns
  refine ⟨?_, fun _ _ => trivial, added, journal, ?_⟩
  · rw [same]
    exact Option.map_id'.symm
  · rw [concerned, quiet]
    cases h.closable? signal g <;> rfl

theorem refl (h : Host) : Attends signal g h [] h := of_quiet (.refl h) rfl rfl

theorem trans {xs ys : List Touch} (hk : Attends signal g h xs k) (hl : Attends signal g k ys l) :
    Attends signal g h (xs ++ ys) l := by
  obtain ⟨first, first_journal, first_notes⟩ := hk.added
  obtain ⟨then_, then_journal, then_notes⟩ := hl.added
  have closable := hl.closable
  rw [hk.closable] at closable then_notes
  refine ⟨?_, fun c found => ?_, first ++ then_, ?_, ?_⟩
  · rw [closable, Option.map_map]
    congr 1
    funext c
    exact (c.after_append xs ys).symm
  · have later := hl.answers (c.after xs) (by rw [hk.closable, found]; rfl)
    exact Closable.answers_append (hk.answers c found) later
  · rw [then_journal, first_journal, List.append_assoc]
  · rw [List.filter_append, first_notes, then_notes]
    cases h.closable? signal g with
    | none => rfl
    | some c => exact (c.notes_append signal g xs ys).symm

/-- Nothing can happen to a component that does not exist. -/
theorem of_missing (missing : h.closable? signal g = none) (touches : List Touch) :
    Attends signal g h touches h := by
  refine ⟨by rw [missing]; rfl, fun c found => ?_, [], (List.append_nil _).symm, ?_⟩
  · rw [missing] at found
    cases found
  · rw [missing]
    rfl

/-- Something happens to a component that exists. -/
theorem single {c : Closable} {t : Touch} {ms : List Effect}
    (found : h.closable? signal g = some c)
    (result : ∀ r, t.request? = some r → r.result = c.answer r.bound r.spawn)
    (reaches : h.Reaches ms k)
    (noted : ms.filter (Effect.concerns signal g) = c.note signal g t)
    (next : k.closable? signal g = some (c.next t)) : Attends signal g h [t] k := by
  obtain ⟨added, journal, concerned⟩ := reaches.exists_added Effect.isMilestone_of_concerns
  refine ⟨?_, fun d hd => ?_, added, journal, ?_⟩
  · rw [next, found]
    rfl
  · obtain rfl := Option.some.inj (found.symm.trans hd)
    exact ⟨result, trivial⟩
  · rw [concerned, noted, found, Option.elim_some, Closable.notes_singleton]

/-- What happens to one component concerns no other one. -/
theorem of_touch {other : Signal} {j : Generation} {c : Closable} {t : Touch} {ms : List Effect}
    (found : h.closable? other j = some c)
    (result : ∀ r, t.request? = some r → r.result = c.answer r.bound r.spawn)
    (reaches : h.Reaches ms k)
    (noted : ms.filter (Effect.concerns signal g) =
      if signal = other ∧ j = g then c.note signal g t else [])
    (next : k.closable? signal g =
      if signal = other ∧ j = g then some (c.next t) else h.closable? signal g) :
    Attends signal g h (if signal = other ∧ j = g then [t] else []) k := by
  by_cases here : signal = other ∧ j = g
  · rw [if_pos here] at noted next ⊢
    obtain ⟨rfl, rfl⟩ := here
    exact .single found result reaches noted next
  · rw [if_neg here] at noted next ⊢
    exact .of_quiet reaches noted next

end Attends

/-! ### What touches no component -/

theorem attends_of_unwritten {ms : List Effect} (reaches : h.Reaches ms k)
    (quiet : ms.filter (Effect.concerns signal g) = []) (same : k.unwritten = h.unwritten) :
    Attends signal g h [] k :=
  .of_quiet reaches quiet (by rw [closable?_of_unwritten same])

theorem attends_emitAll (h : Host) (origin : Origin) (events : List Event) :
    Attends signal g h [] (h.emitAll origin events) :=
  attends_of_unwritten (h.reaches_emitAll origin events)
    (Effect.filter_concerns_emitted origin events) (h.unwritten_emitAll origin events)

theorem attends_emit (h : Host) (origin : Origin) (event : Event) :
    Attends signal g h [] (h.emit origin event) := h.attends_emitAll origin [event]

theorem attends_report (h : Host) (level : EventLevel) (message : String)
    (fields : List (String × Value)) : Attends signal g h [] (h.report level message fields) :=
  h.attends_emit .manager _

theorem attends_detach (h : Host) (sink : SinkName) :
    Attends signal g h [] (h.detach sink) :=
  .of_quiet (h.reaches_detach sink) rfl (by cases signal <;> rfl)

theorem attends_attach (h : Host) (sink : SinkName) (k : Generation) :
    Attends signal g h [] (h.attach sink k) :=
  .of_quiet (h.reaches_attach sink k) rfl (by cases signal <;> rfl)

theorem attends_pass (h : Host) (d : Duration) : Attends signal g h [] (h.pass d) :=
  .of_quiet ((Reaches.refl h).pass d) rfl (by cases signal <;> rfl)

theorem attends_fire (h : Host) (k : Generation) (entry : Entry) :
    Attends signal g h [] (h.fire k entry).2 :=
  attends_of_unwritten (h.reaches_fire k entry) rfl (h.unwritten_fire k entry)

/-! ### Changes of one component -/

theorem closable?_setEmitter (h : Host) (k : Generation) (e : Emitter) :
    (h.setEmitter k e).closable? signal g =
      if signal = .logs ∧ k = g then some e.closable else h.closable? signal g := by
  cases signal with
  | logs =>
    simp only [closable?, setEmitter, Std.ExtTreeMap.getElem?_insert,
      Std.LawfulEqOrd.compare_eq_iff_eq, true_and]
    split <;> rfl
  | metrics => rfl

theorem closable?_setBridge (h : Host) (k : Generation) (b : Bridge) :
    (h.setBridge k b).closable? signal g =
      if signal = .metrics ∧ k = g then some b.closable else h.closable? signal g := by
  cases signal with
  | logs => rfl
  | metrics =>
    simp only [closable?, setBridge, Std.ExtTreeMap.getElem?_insert,
      Std.LawfulEqOrd.compare_eq_iff_eq, true_and]
    split <;> rfl

theorem attends_updateLabels (h : Host) (k : Generation) (labels : List (String × String)) :
    Attends signal g h [] (h.updateLabels k labels) := by
  refine .of_quiet (h.reaches_updateLabels k labels) rfl ?_
  unfold updateLabels
  cases found : h.emitters[k]? with
  | none => rfl
  | some e =>
    cases signal with
    | logs =>
      have updated : (e.update labels).closable = e.closable := rfl
      exact map_getElem?_insert found updated g
    | metrics => rfl

theorem attends_record (h : Host) (k : Generation) (instrument : Instrument)
    (attributes : Attributes) (reading : Reading) (live : Bool) :
    Attends signal g h [] (h.record k instrument attributes reading live) := by
  refine .of_quiet (h.reaches_record k instrument attributes reading live) ?_ ?_
  · cases h.bridges[k]? <;> rfl
  · unfold record
    cases found : h.bridges[k]? with
    | none => rfl
    | some b =>
      cases signal with
      | logs => rfl
      | metrics =>
        have recorded : (if live then b.record instrument attributes reading else b).closable =
            b.closable := by split <;> rfl
        exact map_getElem?_insert found recorded g

/-- Closing an emitter is a request to that emitter and to no other component. -/
theorem attends_closeEmitter (h : Host) (k : Generation) (bound : Duration) :
    Attends signal g h
      (if signal = .logs ∧ k = g then (h.closeRequest? k bound).toList.map .request else [])
      (h.closeEmitter k bound).2 := by
  cases found : h.emitters[k]? with
  | none =>
    have nothing : (h.closeEmitter k bound).2 = h := by simp only [closeEmitter, found]
    rw [closeRequest?, found, nothing, Option.bind_none, Option.toList_none, List.map_nil, ite_self]
    exact .refl h
  | some e =>
    have request : (h.closeRequest? k bound).toList.map Touch.request =
        [.request (e.closeRequest bound)] := by
      simp [closeRequest?, closeEmitter, found, Emitter.closeRequest]
    rw [request]
    refine .of_touch (c := e.closable) ?_ (fun r hr => ?_) (reaches_closeEmitter found bound)
      (e.filter_concerns_closingEffects k bound) ?_
    · rw [closable?, found, Option.map_some]
    · obtain rfl := Option.some.inj hr
      exact e.result_closeWithin bound
    · rw [closable?_of_unwritten (unwritten_closeEmitter found bound), closable?_pass,
        closable?_setEmitter, e.closable_closeWithin]

/-- Shutting a bridge down is a request to that bridge and to no other component. -/
theorem attends_shutdownBridge (h : Host) (k : Generation) (deadline : Deadline) :
    Attends signal g h
      (if signal = .metrics ∧ k = g then (h.shutdownRequest? k deadline).toList.map .request
      else [])
      (h.shutdownBridge k deadline).2 := by
  cases found : h.bridges[k]? with
  | none =>
    have nothing : (h.shutdownBridge k deadline).2 = h := by simp only [shutdownBridge, found]
    rw [shutdownRequest?, found, nothing, Option.bind_none, Option.toList_none, List.map_nil,
      ite_self]
    exact .refl h
  | some b =>
    have request : (h.shutdownRequest? k deadline).toList.map Touch.request =
        [.request (b.shutdownRequest deadline h.now)] := by
      simp [shutdownRequest?, shutdownBridge, found, Bridge.shutdownRequest]
    rw [request]
    refine .of_touch (c := b.closable) ?_ (fun r hr => ?_) (reaches_shutdownBridge found deadline)
      (b.filter_concerns_shutdownEffects k deadline h.now) ?_
    · rw [closable?, found, Option.map_some]
    · obtain rfl := Option.some.inj hr
      exact b.result_shutdown deadline h.now
    · rw [closable?_of_unwritten (unwritten_shutdownBridge found deadline), closable?_pass,
        closable?_setBridge, b.closable_shutdown]

/-- Where no worker of a component was left behind, none begins. -/
theorem attends_of_none_left {other : Signal} {k : Generation}
    (none_left : ∀ c, h.closable? other k = some c → c.waiting = 0) :
    Attends signal g h (if signal = other ∧ k = g then [.wake] else []) h := by
  cases found : h.closable? other k with
  | none =>
    split
    · rename_i here
      obtain ⟨rfl, rfl⟩ := here
      exact .of_missing found _
    · exact .refl h
  | some c =>
    have idle := none_left c found
    refine .of_touch found (fun r hr => by cases hr) (.refl h) ?_ ?_
    · rw [Closable.note_wake_of_none_left idle, ite_self]
      rfl
    · rw [Closable.next_wake idle]
      split
      · rename_i here
        obtain ⟨rfl, rfl⟩ := here
        exact found
      · rfl

/-- A worker that was left behind belongs to one component and touches no other one. -/
theorem attends_wake (h : Host) (other : Signal) (k : Generation) :
    Attends signal g h (if signal = other ∧ k = g then [.wake] else []) (h.wake other k) := by
  have reached := h.reaches_wake other k
  cases other with
  | logs =>
    rcases wakeEmitter_cases h k with ⟨same, none_left⟩ | ⟨e, found, left, woken⟩
    · rw [wake, same]
      refine attends_of_none_left fun c hc => ?_
      obtain ⟨e, found, rfl⟩ := Option.map_eq_some_iff.mp hc
      exact none_left e found
    · have touched : (h.wake .logs k).unwritten = (h.setEmitter k e.closeLate).unwritten := by
        rw [wake, woken]
        simp
      refine .of_touch (c := e.closable) ?_ (fun r hr => by cases hr) reached ?_ ?_
      · rw [closable?, found, Option.map_some]
      · simp only [wakeEffects, found, Option.elim_some, if_neg left,
          e.filter_concerns_shutdownEffects]
        rw [Closable.note_wake_of_left (c := e.closable) left]
      · rw [closable?_of_unwritten touched, closable?_setEmitter, Emitter.closable_closeLate left]
  | metrics =>
    rcases wakeBridge_cases h k with ⟨same, none_left⟩ | ⟨b, found, left, woken⟩
    · rw [wake, same]
      refine attends_of_none_left fun c hc => ?_
      obtain ⟨b, found, rfl⟩ := Option.map_eq_some_iff.mp hc
      exact none_left b found
    · have touched : (h.wake .metrics k).unwritten = (h.setBridge k b.shutdownLate).unwritten := by
        rw [wake, woken]
        simp
      refine .of_touch (c := b.closable) ?_ (fun r hr => by cases hr) reached ?_ ?_
      · rw [closable?, found, Option.map_some]
      · simp only [wakeEffects, found, Option.elim_some, if_neg left,
          b.filter_concerns_readerEffects]
        rw [Closable.note_wake_of_left (c := b.closable) left]
      · rw [closable?_of_unwritten touched, closable?_setBridge, Bridge.closable_shutdownLate left]

/-- Letting an emitter go concerns no other component. -/
theorem attends_dropEmitter {k : Generation} (other : k ≠ g) (h : Host) :
    Attends signal g h [] (h.dropEmitter k).2 := by
  refine .of_quiet (h.reaches_dropEmitter k) ?_ ?_
  · have elsewhere : ¬ (signal = .logs ∧ k = g) := fun here => other here.2
    cases h.emitters[k]? with
    | none => rfl
    | some e =>
      rw [Option.elim_some, Emitter.dropEffects]
      split
      · rw [e.filter_concerns_shutdownEffects, if_neg elsewhere]
      · rfl
  · rcases dropEmitter_cases h k with same | ⟨e, -, -, dropped⟩
    · rw [same]
    · have erased : (h.emitters.erase k)[g]? = h.emitters[g]? := by
        simp [Std.ExtTreeMap.getElem?_erase, other]
      rw [dropped, closable?_pass,
        closable?_of_unwritten (h := { h with emitters := h.emitters.erase k }) (by simp)]
      cases signal with
      | logs => exact congrArg (Option.map Emitter.closable) erased
      | metrics => rfl

end Host

end Telemetry
