import Telemetry.Proofs.Emitter.Sessions

/-!
# Faults of an emission

An entry reaches the processor of an emitter as a record, unless the emitter has no logger, its
logger drops everything, or telemetry is suppressed. A processor that panics over the record makes
the fire fail, and the fire of an emitter without a logger fails too. These are the only failures.
Each is a value with a text of its own kind, and none leaves a trace in the emitter: a session goes
on as if the fire had not been made.

* `result_fire`: how a fire ends.
* `fire_of_error`: a fire that fails changes nothing.
* `session_of_sublist`: fires that fail can be left out of a session.
* `faults_leave_nothing`: both for every session.
-/

namespace Telemetry.Emitter

/-- The processor panics over the record of an entry that is fired. -/
def PanicsWith (e : Emitter) (ambient : Ambient) (clock : Timestamp) (entry : Entry)
    (payload : PanicPayload) : Prop :=
  let context := entry.context.getD ambient.current
  e.logger = some .live ∧ context.suppressed = false ∧
    ∃ processor, e.provider.processor = some processor ∧
      processor.onEmit (.ofEntry e.listing context clock entry) = some payload

/-! ## One fire -/

theorem emit_eq_error_iff {p : LoggerProvider} {r : Record} {payload : PanicPayload} :
    p.emit r = .error payload ↔
      ∃ processor, p.processor = some processor ∧ processor.onEmit r = some payload := by
  unfold LoggerProvider.emit
  cases found : p.processor with
  | none => simp
  | some processor => cases panicked : processor.onEmit r <;> simp [panicked]

theorem send_eq_error_iff {e : Emitter} {logger : Logger} {context : Context} {clock : Timestamp}
    {entry : Entry} {payload : PanicPayload} :
    e.send logger context clock entry = .error payload ↔
      logger = .live ∧ context.suppressed = false ∧
        ∃ processor, e.provider.processor = some processor ∧
          processor.onEmit (.ofEntry e.listing context clock entry) = some payload := by
  cases logger with
  | silent => simp [send]
  | live =>
    by_cases suppressed : context.suppressed = true
    · simp [send, suppressed]
    · simp [send, suppressed, emit_eq_error_iff]

variable (e : Emitter) (ambient : Ambient) (clock : Timestamp) (entry : Entry)

theorem fire_of_uninitialised (missing : e.logger = none) :
    e.fire ambient clock entry = ⟨.error .uninitialised, [], e, ambient⟩ := by
  simp [fire, missing]

theorem fire_of_panicsWith {payload : PanicPayload}
    (panics : e.PanicsWith ambient clock entry payload) :
    e.fire ambient clock entry = ⟨.error (.panicked payload.message), [], e, ambient⟩ := by
  obtain ⟨live, heard, panicked⟩ := panics
  have sent : e.send .live (ambient.enter entry.context).current clock entry = .error payload := by
    rw [Ambient.current_enter]
    exact send_eq_error_iff.mpr ⟨rfl, heard, panicked⟩
  simp only [fire, live, sent, Ambient.leave_enter]

/-- A fire that meets no panic of the processor returns in order. -/
theorem result_fire_of_quiet (initialised : e.logger ≠ none)
    (quiet : ∀ payload, ¬ e.PanicsWith ambient clock entry payload) :
    (e.fire ambient clock entry).result = .ok () := by
  obtain ⟨logger, found⟩ := Option.ne_none_iff_exists'.mp initialised
  cases sent : e.send logger (ambient.enter entry.context).current clock entry with
  | ok out => simp only [fire, found, sent]
  | error payload =>
    rw [Ambient.current_enter] at sent
    obtain ⟨rfl, heard, panicked⟩ := send_eq_error_iff.mp sent
    exact absurd ⟨found, heard, panicked⟩ (quiet payload)

/-- A fire fails without a logger or with a panic of the processor, and in no other way. -/
theorem result_fire {e : Emitter} {ambient : Ambient} {clock : Timestamp} {entry : Entry}
    {fault : EmitError} (failed : (e.fire ambient clock entry).result = .error fault) :
    e.logger = none ∧ fault = .uninitialised ∨
      ∃ payload, e.PanicsWith ambient clock entry payload ∧ fault = .panicked payload.message := by
  by_cases missing : e.logger = none
  · rw [fire_of_uninitialised e ambient clock entry missing] at failed
    exact Or.inl ⟨missing, (Except.error.inj failed).symm⟩
  · by_cases panics : ∃ payload, e.PanicsWith ambient clock entry payload
    · obtain ⟨payload, panics⟩ := panics
      rw [fire_of_panicsWith e ambient clock entry panics] at failed
      exact Or.inr ⟨payload, panics, (Except.error.inj failed).symm⟩
    · have quiet := not_exists.mp panics
      rw [result_fire_of_quiet e ambient clock entry missing quiet] at failed
      cases failed

/-- A fire that fails changes nothing, and the processor takes no record. -/
theorem fire_of_error {e : Emitter} {ambient : Ambient} {clock : Timestamp} {entry : Entry}
    {fault : EmitError} (failed : (e.fire ambient clock entry).result = .error fault) :
    e.fire ambient clock entry = ⟨.error fault, [], e, ambient⟩ := by
  rcases result_fire failed with ⟨missing, rfl⟩ | ⟨payload, panics, rfl⟩
  · exact fire_of_uninitialised e ambient clock entry missing
  · exact fire_of_panicsWith e ambient clock entry panics

/-! ## Sessions -/

/-- The reply to a call is no error of a fire. -/
def isInOrder (turn : Call × Reply) : Bool := !turn.2.isFault

theorem call_of_isFault {e : Emitter} {c : Call} (failed : (e.call c).1.isFault = true) :
    (e.call c).2 = e := by
  cases c with
  | fire ambient clock entry =>
    cases result : (e.fire ambient clock entry).result with
    | ok _ => simp [call, Reply.isFault, result] at failed
    | error fault =>
      have unchanged := congrArg Firing.emitter (fire_of_error result)
      exact unchanged
  | update pairs => cases failed
  | close bound => cases failed

/-- The rest of a session goes on as if a fire that failed had not been made. -/
theorem session_cons_of_isFault {e : Emitter} {c : Call} (failed : (e.call c).1.isFault = true)
    (rest : List Call) :
    e.session (c :: rest) = (c, (e.call c).1) :: e.session rest ∧
      e.after (c :: rest) = e.after rest := by
  have unchanged := call_of_isFault failed
  constructor
  · rw [session, unchanged]
  · rw [show e.after (c :: rest) = (e.call c).2.after rest from rfl, unchanged]

/-- Whichever of the fires that fail are left out of a session, the other calls get the replies that
they had, and the emitter ends up the same. -/
theorem session_of_sublist {e : Emitter} {calls : List Call} {kept : List (Call × Reply)}
    (sub : kept.Sublist (e.session calls))
    (spared : kept.filter isInOrder = (e.session calls).filter isInOrder) :
    e.session (kept.map Prod.fst) = kept ∧ e.after (kept.map Prod.fst) = e.after calls := by
  induction calls generalizing e kept with
  | nil =>
    obtain rfl := List.sublist_nil.mp sub
    exact ⟨rfl, rfl⟩
  | cons c rest ih =>
    by_cases failed : (e.call c).1.isFault = true
    · obtain ⟨replies, last⟩ := session_cons_of_isFault failed rest
      have not_in_order : ¬ isInOrder (c, (e.call c).1) = true := by simp [isInOrder, failed]
      rw [replies, List.filter_cons_of_neg not_in_order] at spared
      rw [replies] at sub
      rw [last]
      cases sub with
      | cons _ sub => exact ih sub spared
      | @cons_cons tail _ _ sub =>
        rw [List.filter_cons_of_neg not_in_order] at spared
        obtain ⟨same_replies, same_last⟩ := ih sub spared
        obtain ⟨replies, last⟩ := session_cons_of_isFault failed (tail.map Prod.fst)
        rw [List.map_cons, replies, last, same_replies]
        exact ⟨rfl, same_last⟩
    · have in_order : isInOrder (c, (e.call c).1) = true := by simpa [isInOrder] using failed
      rw [session, List.filter_cons_of_pos in_order] at spared
      rw [session] at sub
      cases sub with
      | cons _ sub =>
        -- a call that is in order would be missing from what is kept
        have fewer := (sub.filter isInOrder).length_le
        rw [spared, List.length_cons] at fewer
        exact absurd fewer (Nat.not_succ_le_self _)
      | @cons_cons tail _ _ sub =>
        rw [List.filter_cons_of_pos in_order] at spared
        obtain ⟨same_replies, same_last⟩ := ih sub (List.cons.inj spared).2
        rw [List.map_cons, session, same_replies]
        exact ⟨rfl, same_last⟩

/-- Whatever an emitter has been through, a fire returns: that there is no logger, or the text of
the panic of its processor, or that it is done. An error has the text of its kind and comes with no
change. So any of the fires that fail may as well not have been made: every other call of the
session is replied to in the same way, and the emitter ends up the same. -/
theorem faults_leave_nothing (e : Emitter) (calls : List Call) :
    (∀ ambient clock entry,
      let now := e.after calls
      let firing := now.fire ambient clock entry
      (e.logger = none → firing.result = .error .uninitialised) ∧
      (e.logger ≠ none →
        (∀ text, now.PanicsWith ambient clock entry (.text text) →
          firing.result = .error (.panicked text)) ∧
        (now.PanicsWith ambient clock entry .other →
          firing.result = .error (.panicked "unknown panic payload")) ∧
        ((∀ payload, ¬ now.PanicsWith ambient clock entry payload) → firing.result = .ok ())) ∧
      ∀ fault, firing.result = .error fault →
        "otel log hook panic".toList <+: fault.message.toList ∧
        firing.emitter = now ∧ firing.handed = [] ∧ firing.ambient = ambient) ∧
    ∀ kept : List (Call × Reply), kept.Sublist (e.session calls) →
      kept.filter isInOrder = (e.session calls).filter isInOrder →
        e.session (kept.map Prod.fst) = kept ∧ e.after (kept.map Prod.fst) = e.after calls := by
  refine ⟨fun ambient clock entry => ?_, fun kept => session_of_sublist⟩
  intro now firing
  have logger : now.logger = e.logger := e.logger_after calls
  refine ⟨fun missing => ?_, fun initialised => ⟨?_, ?_, ?_⟩, fun fault failed => ?_⟩
  · rw [← logger] at missing
    exact congrArg Firing.result (fire_of_uninitialised now ambient clock entry missing)
  · intro text panics
    exact congrArg Firing.result (fire_of_panicsWith now ambient clock entry panics)
  · intro panics
    exact congrArg Firing.result (fire_of_panicsWith now ambient clock entry panics)
  · rw [← logger] at initialised
    exact result_fire_of_quiet now ambient clock entry initialised
  · have unchanged : firing = ⟨.error fault, [], now, ambient⟩ := fire_of_error failed
    rw [unchanged]
    exact ⟨fault.startsWith_marker, rfl, rfl, rfl⟩

/-- Of two fires over which the processor panics, with an update between them, the first one can be
left out; the second fails as it did. -/
theorem faults_leave_nothing_of_explosion :
    let processor : LogProcessor :=
      { onEmit := fun r => if r.body = "late" then some (.text "exporter exploded") else none }
    let e : Emitter := .ofProvider ⟨some processor, false⟩
    let say (message : String) : Call := .fire {} 0 { time := 0, level := .info, message }
    let calls := [say "first", say "late", .update [("host", "a")], say "late", say "last"]
    (∃ fault, ((e.after calls).fire {} 0 { time := 0, level := .info, message := "late" }).result =
      .error fault ∧ fault = .panicked "exporter exploded") ∧
    e.session [say "first", .update [("host", "a")], say "late", say "last"] =
      (e.session calls).eraseIdx 1 := by
  intro processor e say calls
  obtain ⟨fires, sessions⟩ := faults_leave_nothing e calls
  have live : (e.after calls).logger = some .live := e.logger_after calls
  constructor
  · obtain ⟨-, initialised, -⟩ := fires {} 0 { time := 0, level := .info, message := "late" }
    have panics : (e.after calls).PanicsWith {} 0 { time := 0, level := .info, message := "late" }
        (.text "exporter exploded") :=
      ⟨live, rfl, processor, e.processor_after calls, rfl⟩
    exact ⟨_, (initialised (by decide)).1 _ panics, rfl⟩
  · exact (sessions ((e.session calls).eraseIdx 1) (List.eraseIdx_sublist _ _) rfl).1

end Telemetry.Emitter
