import Mathlib.Data.List.Forall2
import Mathlib.Data.List.Induction
import Telemetry.Proofs.Emitter.Containment

/-!
# The records of a session

An initialised emitter makes one record of every entry that is fired, unless telemetry is suppressed
or the processor panics, and hands it to its processor. The record says what the entry says. Its
attributes are the fields, the labels that hold at that call, the place of the call and the error,
one after the other and each as often as it is there, whatever keys they have.

* `tells_ofEntry`: what the record of an entry says.
* `fire_of_heard`: what a fire hands over.
* `records_of_session`: the records of a session.
-/

namespace Telemetry

/-! ## What a record says -/

/-- A list of labels has every key that holds a value once, with that value, and no other. -/
structure IsListing (labels : List (String × String)) (held : String → Option String) : Prop where
  nodup : (labels.map Prod.fst).Nodup
  mem_iff : ∀ key value, (key, value) ∈ labels ↔ held key = some value

theorem isListing_toList (m : TextMap) : IsListing m.toList fun key => m[key]? := by
  refine ⟨?_, fun key value => Std.ExtTreeMap.mem_toList_iff_getElem?_eq_some⟩
  rw [Std.ExtTreeMap.map_fst_toList_eq_keys]
  exact Std.ExtTreeMap.nodup_keys

theorem Emitter.isListing_listing (e : Emitter) : IsListing e.listing fun key => e.labels[key]? where
  nodup := ((e.listing_perm.map Prod.fst).nodup_iff).mpr (isListing_toList e.labels).nodup
  mem_iff key value := by rw [e.listing_perm.mem_iff, (isListing_toList e.labels).mem_iff]

theorem IsListing.count_key {labels : List (String × String)} {held : String → Option String}
    (listing : IsListing labels held) (key : String) :
    (labels.map Prod.fst).count key = if (held key).isSome then 1 else 0 := by
  have mem_iff : key ∈ labels.map Prod.fst ↔ (held key).isSome = true := by
    rw [List.mem_map, Option.isSome_iff_exists]
    constructor
    · rintro ⟨⟨_, value⟩, mem, rfl⟩
      exact ⟨value, (listing.mem_iff _ value).mp mem⟩
    · rintro ⟨value, holds⟩
      exact ⟨(key, value), (listing.mem_iff key value).mpr holds, rfl⟩
  rw [List.Nodup.count listing.nodup]
  simp only [mem_iff]

namespace Record

/-- A record says what an entry says, and the labels that hold some values. -/
structure Tells (r : Record) (entry : Entry) (held : String → Option String) : Prop where
  body : r.body = entry.message
  time : r.time = entry.time
  severity : r.severity.number = entry.level.severity.number
  severityText : r.severityText = entry.level.text
  attributes : ∃ labels, IsListing labels held ∧
    r.attributes =
      entry.fields.map (fun field => (field.1, .str field.2)) ++
      labels.map (fun label => (label.1, .str label.2)) ++
      (match entry.caller with
        | none => []
        | some c => [("code.filepath", .str c.file), ("code.function", .str c.function),
            ("code.lineno", .int c.line)]) ++
      (match entry.error with
        | none => []
        | some text => [("exception.message", .str text)]) ∧
    r.attributes.length =
      entry.fields.length + labels.length + (if entry.caller.isSome then 3 else 0) +
        (if entry.error.isSome then 1 else 0)
  keys : ∀ key, (r.attributes.map Prod.fst).count key =
    (entry.fields.map Prod.fst).count key + (if (held key).isSome then 1 else 0) +
      (if entry.caller.isSome && ["code.filepath", "code.function", "code.lineno"].contains key then
        1 else 0) +
      (if entry.error.isSome && key == "exception.message" then 1 else 0)

theorem count_key_callerAttributes (c : Caller) (key : String) :
    ((callerAttributes c).map Prod.fst).count key =
      if ["code.filepath", "code.function", "code.lineno"].contains key then 1 else 0 := by
  have nodup : ["code.filepath", "code.function", "code.lineno"].Nodup := by decide
  rw [show (callerAttributes c).map Prod.fst = ["code.filepath", "code.function", "code.lineno"] from
    rfl, List.Nodup.count nodup]
  simp only [List.contains_iff_mem]

/-- No attribute is dropped or merged: every key is there as often as its parts have it. -/
theorem count_key_attributesOf {labels : List (String × String)} {held : String → Option String}
    (listing : IsListing labels held) (entry : Entry) (key : String) :
    ((attributesOf labels entry).map Prod.fst).count key =
      (entry.fields.map Prod.fst).count key + (if (held key).isSome then 1 else 0) +
        (if entry.caller.isSome &&
          ["code.filepath", "code.function", "code.lineno"].contains key then 1 else 0) +
        (if entry.error.isSome && key == "exception.message" then 1 else 0) := by
  have keys (pairs : List (String × String)) :
      (pairs.map fun pair => (pair.1, Value.str pair.2)).map Prod.fst = pairs.map Prod.fst := by
    rw [List.map_map]
    rfl
  have caller : ((entry.caller.elim [] callerAttributes).map Prod.fst).count key =
      if entry.caller.isSome &&
        ["code.filepath", "code.function", "code.lineno"].contains key then 1 else 0 := by
    cases entry.caller with
    | none => rfl
    | some c => exact count_key_callerAttributes c key
  have error : ((entry.error.elim [] fun text =>
      [("exception.message", Value.str text)]).map Prod.fst).count key =
      if entry.error.isSome && key == "exception.message" then 1 else 0 := by
    cases entry.error with
    | none => rfl
    | some text =>
      by_cases same : key = "exception.message"
      · simp [same]
      · simp [same, Ne.symm same]
  rw [attributesOf, List.map_append, List.map_append, List.map_append, List.count_append,
    List.count_append, List.count_append, keys, keys, caller, error, listing.count_key]

/-- The record of an entry says what the entry says, and the labels that are listed. -/
theorem tells_ofEntry {labels : List (String × String)} {held : String → Option String}
    (listing : IsListing labels held) (context : Context) (observed : Timestamp) (entry : Entry) :
    (ofEntry labels context observed entry).Tells entry held where
  body := rfl
  time := rfl
  severity := rfl
  severityText := rfl
  attributes := by
    refine ⟨labels, listing, ?_, length_attributesOf labels entry⟩
    rw [ofEntry, attributesOf]
    cases entry.caller <;> cases entry.error <;> rfl
  keys := count_key_attributesOf listing entry

end Record

/-! ## One fire -/

namespace Emitter

/-- Where telemetry is suppressed a fire does nothing. -/
theorem fire_of_suppressed {e : Emitter} {ambient : Ambient} {entry : Entry}
    (live : e.logger = some .live)
    (suppressed : (entry.context.getD ambient.current).suppressed = true) (clock : Timestamp) :
    e.fire ambient clock entry = ⟨.ok (), [], e, ambient⟩ := by
  have sent : e.send .live (ambient.enter entry.context).current clock entry = .ok [] := by
    rw [Ambient.current_enter]
    simp only [send, suppressed, if_true]
  simp only [fire, live, sent, Ambient.leave_enter]

/-- A fire that is neither suppressed nor fails hands the processor, if there is one, one record. -/
theorem fire_of_heard {e : Emitter} {ambient : Ambient} {clock : Timestamp} {entry : Entry}
    (live : e.logger = some .live)
    (heard : (entry.context.getD ambient.current).suppressed = false)
    (done : (e.fire ambient clock entry).result = .ok ()) :
    (e.fire ambient clock entry).handed =
      if e.provider.processor.isSome then
        [.ofEntry e.listing (entry.context.getD ambient.current) clock entry]
      else [] := by
  have sent : e.send .live (ambient.enter entry.context).current clock entry =
      e.provider.emit (.ofEntry e.listing (entry.context.getD ambient.current) clock entry) := by
    rw [Ambient.current_enter]
    simp only [send, heard, Bool.false_eq_true, if_false]
  simp only [fire, live, sent, LoggerProvider.emit] at done ⊢
  cases found : e.provider.processor with
  | none => rfl
  | some processor =>
    cases panicked : processor.onEmit
        (.ofEntry e.listing (entry.context.getD ambient.current) clock entry) with
    | none => simp only [panicked]; rfl
    | some payload => simp only [found, panicked] at done; cases done

/-! ## Sessions -/

/-- A fire in a session, with the calls made before it. -/
structure Turn where
  past : List Call
  ambient : Ambient
  clock : Timestamp
  entry : Entry

/-- The fires among some calls that are made after others. -/
def turnsFrom (past : List Call) : List Call → List Turn
  | [] => []
  | .fire ambient clock entry :: rest =>
    ⟨past, ambient, clock, entry⟩ :: turnsFrom (past ++ [.fire ambient clock entry]) rest
  | c :: rest => turnsFrom (past ++ [c]) rest

/-- The fires among some calls. -/
def turns (calls : List Call) : List Turn := turnsFrom [] calls

/-- Whether a fire is neither suppressed nor fails. -/
def Turn.isHeard (e : Emitter) (t : Turn) : Bool :=
  !(t.entry.context.getD t.ambient.current).suppressed &&
    ((e.after t.past).fire t.ambient t.clock t.entry).result.isOk

/-- The label of a key as of a fire: the last pair set before it, or what was there at first. -/
def Turn.heldLabel (e : Emitter) (t : Turn) (key : String) : Option String :=
  (TextMap.lastValue? key (updates t.past)).or e.labels[key]?

/-- The records that the processor is handed in a session. -/
def handedBy (e : Emitter) (calls : List Call) : List Record :=
  (e.session calls).flatMap fun turn => turn.2.handed

theorem turnsFrom_append (past xs ys : List Call) :
    turnsFrom past (xs ++ ys) = turnsFrom past xs ++ turnsFrom (past ++ xs) ys := by
  induction xs generalizing past with
  | nil => simp [turnsFrom]
  | cons c rest ih => cases c <;> simp [turnsFrom, ih]

theorem turns_append_singleton (calls : List Call) (c : Call) :
    turns (calls ++ [c]) = turns calls ++ turnsFrom calls [c] := by
  rw [turns, turnsFrom_append, List.nil_append]
  rfl

theorem handedBy_append_singleton (e : Emitter) (calls : List Call) (c : Call) :
    e.handedBy (calls ++ [c]) = e.handedBy calls ++ ((e.after calls).call c).1.handed := by
  rw [handedBy, session_append, List.flatMap_append]
  simp [handedBy, session]

/-- Some records are those of the fires that are heard, and the processor, if there is one, was
handed these. -/
structure Accounts (e : Emitter) (calls : List Call) (records : List Record) : Prop where
  tells : List.Forall₂ (fun t r => r.Tells t.entry (t.heldLabel e))
    ((turns calls).filter (Turn.isHeard e)) records
  handed : e.handedBy calls = if e.provider.processor.isSome then records else []

namespace Accounts

variable {e : Emitter} {calls : List Call} {records : List Record}

/-- A call that hands nothing over and is no heard fire adds nothing to the account. -/
theorem skip {c : Call} (account : Accounts e calls records)
    (unheard : (turnsFrom calls [c]).filter (Turn.isHeard e) = [])
    (silent : ((e.after calls).call c).1.handed = []) : Accounts e (calls ++ [c]) records where
  tells := by
    rw [turns_append_singleton, List.filter_append, unheard, List.append_nil]
    exact account.tells
  handed := by rw [handedBy_append_singleton, silent, List.append_nil, account.handed]

/-- A heard fire adds its record to the account. -/
theorem add {ambient : Ambient} {clock : Timestamp} {entry : Entry}
    (account : Accounts e calls records) (live : e.logger = some .live)
    (heard : Turn.isHeard e ⟨calls, ambient, clock, entry⟩ = true) :
    Accounts e (calls ++ [.fire ambient clock entry]) (records ++
      [.ofEntry (e.after calls).listing (entry.context.getD ambient.current) clock entry]) := by
  obtain ⟨unsuppressed, isOk⟩ : (entry.context.getD ambient.current).suppressed = false ∧
      ((e.after calls).fire ambient clock entry).result.isOk = true := by
    simpa [Turn.isHeard] using heard
  have done : ((e.after calls).fire ambient clock entry).result = .ok () := by
    cases result : ((e.after calls).fire ambient clock entry).result with
    | ok _ => rfl
    | error fault =>
      rw [result] at isOk
      cases isOk
  have still_live : (e.after calls).logger = some .live := (e.logger_after calls).trans live
  have handed := fire_of_heard still_live unsuppressed done
  rw [e.processor_after calls] at handed
  constructor
  · have one : (turnsFrom calls [.fire ambient clock entry]).filter (Turn.isHeard e) =
        [⟨calls, ambient, clock, entry⟩] := List.filter_cons_of_pos heard
    rw [turns_append_singleton, List.filter_append, one]
    refine List.rel_append account.tells (.cons ?_ .nil)
    have told := Record.tells_ofEntry (e.after calls).isListing_listing
      (entry.context.getD ambient.current) clock entry
    have labels : (fun key => (e.after calls).labels[key]?) =
        Turn.heldLabel e ⟨calls, ambient, clock, entry⟩ :=
      funext fun key => e.getElem?_labels_after calls key
    rwa [labels] at told
  · have one : ((e.after calls).call (.fire ambient clock entry)).1.handed = _ := handed
    rw [handedBy_append_singleton, account.handed, one]
    split <;> rfl

end Accounts

/-- Every session can be accounted for. -/
theorem exists_accounts {e : Emitter} (live : e.logger = some .live) (calls : List Call) :
    ∃ records, Accounts e calls records := by
  induction calls using List.reverseRecOn with
  | nil => exact ⟨[], .nil, (ite_self _).symm⟩
  | append_singleton calls c ih =>
    obtain ⟨records, account⟩ := ih
    cases c with
    | update pairs => exact ⟨records, account.skip rfl rfl⟩
    | close bound => exact ⟨records, account.skip rfl rfl⟩
    | fire ambient clock entry =>
      by_cases heard : Turn.isHeard e ⟨calls, ambient, clock, entry⟩ = true
      · exact ⟨_, account.add live heard⟩
      · have unheard : (turnsFrom calls [.fire ambient clock entry]).filter (Turn.isHeard e) = [] :=
          List.filter_cons_of_neg heard
        -- a fire that is not heard hands nothing over
        have silent : ((e.after calls).fire ambient clock entry).handed = [] := by
          by_cases suppressed : (entry.context.getD ambient.current).suppressed = true
          · rw [fire_of_suppressed ((e.logger_after calls).trans live) suppressed clock]
          · cases result : ((e.after calls).fire ambient clock entry).result with
            | ok _ => simp [Turn.isHeard, suppressed, result, Except.isOk, Except.toBool] at heard
            | error fault => rw [fire_of_error result]
        exact ⟨records, account.skip unheard silent⟩

/-- On an initialised emitter, any number of updates, fires and closes in any order make one record
of every fire that is neither suppressed nor fails, in the order of the calls. A record says what
its entry says, with the labels as of its call. The processor is handed these records and no
other. -/
theorem records_of_session (e : Emitter) (live : e.logger = some .live) (calls : List Call) :
    ∃ records : List Record,
      List.Forall₂ (fun t r => r.Tells t.entry fun key =>
          (TextMap.lastValue? key (updates t.past)).or e.labels[key]?)
        ((turns calls).filter (Turn.isHeard e)) records ∧
      ∀ processor, e.provider.processor = some processor → e.handedBy calls = records := by
  obtain ⟨records, tells, handed⟩ := exists_accounts live calls
  refine ⟨records, tells, fun processor found => ?_⟩
  rw [handed, found]
  rfl

/-- Two entries with a field `host` under a label `host`. Between them one fire is suppressed and
one makes the processor panic. -/
theorem records_of_session_of_collision :
    let processor : LogProcessor :=
      { onEmit := fun r => if r.body = "lost" then some .other else none }
    let e : Emitter := .ofProvider ⟨some processor, false⟩
    let say (ambient : Ambient) (message : String) (error : Option String) : Call :=
      .fire ambient 0 { time := 0, level := .info, message, fields := [("host", "field")], error }
    let calls := [.update [("host", "a"), ("host", "b")], say {} "first" none,
      say ⟨[{ suppressed := true }]⟩ "unheard" none, say {} "lost" none, .update [("zone", "z")],
      say {} "last" (some "broken pipe")]
    ∃ first last, e.handedBy calls = [first, last] ∧
      first.body = "first" ∧ (first.attributes.map Prod.fst).count "host" = 2 ∧
      (first.attributes.map Prod.fst).count "zone" = 0 ∧
      last.body = "last" ∧ (last.attributes.map Prod.fst).count "host" = 2 ∧
      (last.attributes.map Prod.fst).count "zone" = 1 ∧
      (last.attributes.map Prod.fst).count "exception.message" = 1 := by
  intro processor e say calls
  obtain ⟨records, tells, handed⟩ := records_of_session e rfl calls
  have handed := handed processor rfl
  -- of the four fires the first and the last are heard
  cases tells with
  | cons first rest =>
    cases rest with
    | cons last rest =>
      cases rest
      refine ⟨_, _, handed, first.body, ?_, ?_, last.body, ?_, ?_, ?_⟩
      · rw [first.keys]
        rfl
      · rw [first.keys]
        rfl
      · rw [last.keys]
        rfl
      · rw [last.keys]
        rfl
      · rw [last.keys]
        rfl

end Emitter

end Telemetry
