import Telemetry.Config.HeaderList

/-!
# Header lists read piece by piece

A list is read as its pieces between the commas. A blank piece says nothing. Any other piece has to
name a key before its first `=`; then it says the pair of the trimmed texts before and behind that
`=`. So a list of two lists says what the first one says and then what the second one says, and of
several bad pieces the leftmost one is complained of.

* `readPiece_of_isBlank`, `readPiece_of_divides`, `readPiece_of_not_isFit`: what a piece says.
* `parse_eq`: a list gives the headers that its pieces say.
* `readAll_eq_error_iff`: which complaint a list gets.
* `parse_append_of_ok`: of two lists the second one wins.
-/

namespace Telemetry.HeaderList

/-- The pieces between the commas. -/
def pieces (list : String) : List String := (list.toList.splitOn ',').map String.ofList

/-- Nothing but blanks. -/
def IsBlank (text : String) : Prop := ∀ c ∈ text.toList, Text.isBlank c = true

instance (text : String) : Decidable (IsBlank text) :=
  decidable_of_iff (text.toList.all Text.isBlank = true) List.all_eq_true

/-- What stands before and behind the first `=` of a piece. -/
structure Divides (piece key value : String) : Prop where
  whole : piece = key ++ "=" ++ value
  first : '=' ∉ key.toList

/-- Anything but blanks stands before the first `=`. -/
def HasKey (piece : String) : Prop :=
  ∃ key value, Divides piece key value ∧ ¬ IsBlank key

/-- A piece that is not refused. -/
def IsFit (piece : String) : Prop := IsBlank piece ∨ HasKey piece

/-- What is complained of in a piece that is refused. -/
def complaint (piece : String) : SetupError :=
  .invalidHeader (Text.trim piece)
    (if '=' ∈ piece.toList then "empty header name" else "expected key=value")

/-- The pairs that pieces say, or the complaint about the leftmost bad one. -/
def readAll : List String → Except SetupError (List (String × String))
  | [] => .ok []
  | piece :: rest =>
    match readPiece piece.toList with
    | .error e => .error e
    | .ok said => (readAll rest).map (said.toList ++ ·)

variable {piece key value list : String}

/-! ## What a piece says -/

theorem Divides.toList (divides : Divides piece key value) :
    piece.toList = key.toList ++ '=' :: value.toList := by
  rw [divides.whole, String.toList_append, String.toList_append, List.append_assoc]
  rfl

theorem Divides.mem (divides : Divides piece key value) : '=' ∈ piece.toList := by
  rw [divides.toList]
  simp

theorem exists_divides (marked : '=' ∈ piece.toList) : ∃ key value, Divides piece key value := by
  obtain ⟨before, behind, cut, first⟩ := List.eq_append_cons_of_mem marked
  refine ⟨.ofList before, .ofList behind, String.toList_injective ?_, by simpa using first⟩
  simp [cut]

/-- A piece has only one first `=`. -/
theorem Divides.unique {key' value' : String} (divides : Divides piece key value)
    (divides' : Divides piece key' value') : key = key' ∧ value = value' := by
  have one := splitOnce_append_cons divides.first value.toList
  rw [← divides.toList, divides'.toList, splitOnce_append_cons divides'.first] at one
  obtain ⟨keys, values⟩ := Prod.mk.inj (Option.some.inj one)
  exact ⟨String.toList_injective keys.symm, String.toList_injective values.symm⟩

theorem Divides.not_isBlank (divides : Divides piece key value) : ¬ IsBlank piece := by
  intro blank
  exact absurd (blank '=' divides.mem) (by decide)

theorem Divides.hasKey_iff (divides : Divides piece key value) :
    HasKey piece ↔ ¬ IsBlank key := by
  refine ⟨fun ⟨key', value', divides', named⟩ => ?_, fun named => ⟨key, value, divides, named⟩⟩
  rwa [(divides.unique divides').1]

theorem isEmpty_trimChars_iff {text : String} :
    (Text.trimChars text.toList).isEmpty = true ↔ IsBlank text :=
  List.isEmpty_iff.trans Text.trimChars_eq_nil_iff

theorem readPiece_of_isBlank (blank : IsBlank piece) : readPiece piece.toList = .ok none := by
  rw [readPiece, if_pos (isEmpty_trimChars_iff.mpr blank)]

/-- Trimming a piece does not change what its key and value are when they are trimmed. -/
theorem readPiece_of_divides (divides : Divides piece key value) :
    readPiece piece.toList =
      if (Text.trimChars key.toList).isEmpty then .error (complaint piece)
      else .ok (some (Text.trim key, Text.trim value)) := by
  have trimmed : Text.trimChars piece.toList =
      Text.trimStart key.toList ++ '=' :: Text.trimEnd value.toList := by
    rw [divides.toList, Text.trimChars_append_cons (by decide)]
  have free : '=' ∉ Text.trimStart key.toList := fun mem =>
    divides.first ((List.dropWhile_sublist _).mem mem)
  have cut : splitOnce '=' (Text.trimChars piece.toList) =
      some (Text.trimStart key.toList, Text.trimEnd value.toList) := by
    rw [trimmed, splitOnce_append_cons free]
  rw [readPiece, if_neg (mt isEmpty_trimChars_iff.mp divides.not_isBlank), cut]
  simp only [Text.trimChars_trimStart, Text.trimChars_trimEnd, complaint, if_pos divides.mem]
  rfl

theorem readPiece_of_unmarked (told : ¬ IsBlank piece) (unmarked : '=' ∉ piece.toList) :
    readPiece piece.toList = .error (complaint piece) := by
  have free : '=' ∉ Text.trimChars piece.toList := fun mem =>
    unmarked ((Text.trimChars_sublist _).mem mem)
  have whole : splitOnce '=' (Text.trimChars piece.toList) = none :=
    Option.not_isSome_iff_eq_none.mp (mt (isSome_splitOnce_iff _ _).mp free)
  rw [readPiece, if_neg (mt isEmpty_trimChars_iff.mp told), whole, complaint, if_neg unmarked]
  rfl

theorem readPiece_of_hasKey (divides : Divides piece key value) (named : ¬ IsBlank key) :
    readPiece piece.toList = .ok (some (Text.trim key, Text.trim value)) := by
  rw [readPiece_of_divides divides, if_neg (mt isEmpty_trimChars_iff.mp named)]

theorem readPiece_of_not_isFit (bad : ¬ IsFit piece) :
    readPiece piece.toList = .error (complaint piece) := by
  obtain ⟨told, nameless⟩ := not_or.mp bad
  by_cases marked : '=' ∈ piece.toList
  · obtain ⟨key, value, divides⟩ := exists_divides marked
    have blank : IsBlank key := Decidable.not_not.mp (mt divides.hasKey_iff.mpr nameless)
    rw [readPiece_of_divides divides, if_pos (isEmpty_trimChars_iff.mpr blank)]
  · exact readPiece_of_unmarked told marked

theorem isFit_of_readPiece {said : Option (String × String)}
    (read : readPiece piece.toList = .ok said) : IsFit piece := by
  by_cases fit : IsFit piece
  · exact fit
  · rw [readPiece_of_not_isFit fit] at read
    cases read

/-- What a piece says if it is not refused. -/
theorem exists_readPiece (fit : IsFit piece) : ∃ said, readPiece piece.toList = .ok said := by
  rcases fit with blank | ⟨key, value, divides, named⟩
  · exact ⟨none, readPiece_of_isBlank blank⟩
  · exact ⟨_, readPiece_of_hasKey divides named⟩

/-! ## The pieces of a list -/

theorem not_mem_of_mem_splitOn {sep : Char} {s : List Char} :
    ∀ part ∈ s.splitOn sep, sep ∉ part := by
  induction s with
  | nil => simp
  | cons c rest ih =>
    rw [List.splitOn_cons_eq_if_modifyHead]
    split
    case isTrue => simpa using ih
    case isFalse other =>
      cases parts : rest.splitOn sep with
      | nil => exact absurd parts (List.splitOn_ne_nil _ _)
      | cons part later =>
        rw [parts] at ih
        have differs : sep ≠ c := fun same => other (by simp [same])
        simpa [differs] using ih

theorem intercalate_pieces (list : String) : ",".intercalate (pieces list) = list := by
  apply String.toList_injective
  have back : (pieces list).map String.toList = list.toList.splitOn ',' := by
    simp [pieces, Function.comp_def]
  rw [String.toList_intercalate, back]
  exact List.intercalate_splitOn ','

theorem not_mem_of_mem_pieces : ∀ piece ∈ pieces list, ',' ∉ piece.toList := by
  intro piece mem
  obtain ⟨part, part_mem, rfl⟩ := List.mem_map.mp mem
  rw [String.toList_ofList]
  exact not_mem_of_mem_splitOn part part_mem

theorem pieces_of_not_mem (whole : ',' ∉ piece.toList) : pieces piece = [piece] := by
  simp [pieces, List.splitOn_eq_singleton whole]

theorem pieces_append (a b : String) : pieces (a ++ "," ++ b) = pieces a ++ pieces b := by
  have cut : (a ++ "," ++ b).toList = a.toList ++ ',' :: b.toList := by simp
  rw [pieces, cut, List.splitOn_append_cons_self, List.map_append]
  rfl

/-! ## What a list says -/

theorem foldlM_addPiece (headers : Headers) (ps : List String) :
    (ps.map String.toList).foldlM addPiece headers =
      (readAll ps).map (TextMap.insertAll headers) := by
  induction ps generalizing headers with
  | nil => rfl
  | cons p rest ih =>
    rw [List.map_cons, List.foldlM_cons, addPiece, readAll]
    cases readPiece p.toList with
    | error e => rfl
    | ok said =>
      cases said with
      | none => exact (ih headers).trans (by cases readAll rest <;> rfl)
      | some pair => exact (ih _).trans (by cases readAll rest <;> rfl)

theorem parse_eq (list : String) :
    parse list = (readAll (pieces list)).map TextMap.ofPairs := by
  have back : (pieces list).map String.toList = list.toList.splitOn ',' := by
    simp [pieces, Function.comp_def]
  rw [parse, parseOnto, ← back, foldlM_addPiece]
  rfl

theorem readAll_append (ps qs : List String) :
    readAll (ps ++ qs) = (readAll ps).bind fun said => (readAll qs).map (said ++ ·) := by
  induction ps with
  | nil =>
    cases h : readAll qs <;> simp [readAll, Except.bind, Except.map, h]
  | cons p rest ih =>
    rw [List.cons_append, readAll, readAll, ih]
    cases readPiece p.toList with
    | error e => rfl
    | ok said => cases readAll rest <;> cases readAll qs <;> simp [Except.bind, Except.map]

theorem exists_readAll_iff {ps : List String} :
    (∃ said, readAll ps = .ok said) ↔ ∀ p ∈ ps, IsFit p := by
  induction ps with
  | nil => simp [readAll]
  | cons p rest ih =>
    rw [List.forall_mem_cons, ← ih]
    by_cases fit : IsFit p
    · obtain ⟨said, read⟩ := exists_readPiece fit
      cases h : readAll rest <;> simp [readAll, read, h, fit, Except.map]
    · simp [readAll, readPiece_of_not_isFit fit, fit]

/-- The leftmost bad piece is complained of. -/
theorem readAll_eq_error_iff {ps : List String} {e : SetupError} :
    readAll ps = .error e ↔ ∃ before bad behind, ps = before ++ bad :: behind ∧
      (∀ p ∈ before, IsFit p) ∧ ¬ IsFit bad ∧ e = complaint bad := by
  constructor
  · intro failed
    induction ps with
    | nil => cases failed
    | cons p rest ih =>
      by_cases fit : IsFit p
      · obtain ⟨said, read⟩ := exists_readPiece fit
        rw [readAll, read] at failed
        cases later : readAll rest with
        | ok pairs => simp [later, Except.map] at failed
        | error e' =>
          obtain rfl : e' = e := by simpa [later, Except.map] using failed
          obtain ⟨before, bad, behind, cut, fits, refused⟩ := ih later
          exact ⟨p :: before, bad, behind, by rw [cut]; rfl,
            List.forall_mem_cons.mpr ⟨fit, fits⟩, refused⟩
      · rw [readAll, readPiece_of_not_isFit fit] at failed
        exact ⟨[], p, rest, rfl, by simp, fit, (Except.error.inj failed).symm⟩
  · rintro ⟨before, bad, behind, rfl, fits, refused, rfl⟩
    obtain ⟨said, read⟩ := exists_readAll_iff.mpr fits
    rw [readAll_append, read, readAll, readPiece_of_not_isFit refused]
    rfl

theorem parse_eq_ok_iff {headers : Headers} :
    parse list = .ok headers ↔
      ∃ said, readAll (pieces list) = .ok said ∧ TextMap.ofPairs said = headers := by
  rw [parse_eq]
  cases readAll (pieces list) <;> simp [Except.map]

theorem parse_eq_error_iff {e : SetupError} :
    parse list = .error e ↔ readAll (pieces list) = .error e := by
  rw [parse_eq]
  cases readAll (pieces list) <;> simp [Except.map]

/-- A list without commas says what it says as a piece. -/
theorem parse_of_not_mem (whole : ',' ∉ piece.toList) :
    parse piece =
      (readPiece piece.toList).map fun said => TextMap.ofPairs said.toList := by
  rw [parse_eq, pieces_of_not_mem whole, readAll]
  cases readPiece piece.toList <;> simp [readAll, Except.map]

theorem parse_append_of_error {a : String} {e : SetupError} (first : parse a = .error e)
    (b : String) : parse (a ++ "," ++ b) = .error e := by
  rw [parse_eq_error_iff] at first ⊢
  rw [pieces_append, readAll_append, first]
  rfl

theorem parse_append_of_ok_error {a b : String} {headers : Headers} {e : SetupError}
    (first : parse a = .ok headers) (second : parse b = .error e) :
    parse (a ++ "," ++ b) = .error e := by
  obtain ⟨said, read, -⟩ := parse_eq_ok_iff.mp first
  rw [parse_eq_error_iff] at second ⊢
  rw [pieces_append, readAll_append, read, second]
  rfl

/-- Of two lists the second one wins. -/
theorem parse_append_of_ok {a b : String} {headers later : Headers}
    (first : parse a = .ok headers) (second : parse b = .ok later) :
    ∃ both, parse (a ++ "," ++ b) = .ok both ∧
      ∀ key : String, both[key]? = later[key]?.or headers[key]? := by
  obtain ⟨ps, read, rfl⟩ := parse_eq_ok_iff.mp first
  obtain ⟨qs, read', rfl⟩ := parse_eq_ok_iff.mp second
  refine ⟨.ofPairs (ps ++ qs), parse_eq_ok_iff.mpr ⟨_, ?_, rfl⟩, fun key => ?_⟩
  · rw [pieces_append, readAll_append, read, read']
    rfl
  · simp [TextMap.ofPairs, TextMap.getElem?_insertAll, TextMap.lastValue?_append]

/-- A list of two lists gives the complaint about the first one, else the complaint about the second
one, else the headers of both, where the second one wins. A list that is one piece gives nothing if
it is blank, a complaint that names it if it has no key before its first `=`, and else its key and
value, all of them trimmed. So a list is accepted if every piece that is not blank has a key, and
else its leftmost bad piece is complained of. -/
theorem parse_by_pieces :
    (∀ a b : String,
      (∀ e, parse a = .error e → parse (a ++ "," ++ b) = .error e) ∧
      (∀ headers e, parse a = .ok headers → parse b = .error e →
        parse (a ++ "," ++ b) = .error e) ∧
      ∀ headers later, parse a = .ok headers → parse b = .ok later →
        ∃ both, parse (a ++ "," ++ b) = .ok both ∧
          ∀ key : String, both[key]? = later[key]?.or headers[key]?) ∧
    (∀ piece : String, ',' ∉ piece.toList →
      (IsBlank piece → parse piece = .ok ∅) ∧
      (¬ IsBlank piece → '=' ∉ piece.toList →
        parse piece = .error (.invalidHeader (Text.trim piece) "expected key=value")) ∧
      ∀ key value, Divides piece key value →
        (IsBlank key →
          parse piece = .error (.invalidHeader (Text.trim piece) "empty header name")) ∧
        (¬ IsBlank key →
          parse piece = .ok ((∅ : Headers).insert (Text.trim key) (Text.trim value)))) ∧
    ∀ list : String,
      ",".intercalate (pieces list) = list ∧
      (∀ piece ∈ pieces list, ',' ∉ piece.toList) ∧
      ((∃ headers, parse list = .ok headers) ↔
        ∀ piece ∈ pieces list, ¬ IsBlank piece → HasKey piece) ∧
      ∀ e, parse list = .error e ↔
        ∃ before bad behind, pieces list = before ++ bad :: behind ∧
          (∀ piece ∈ before, IsFit piece) ∧ ¬ IsFit bad ∧ e = complaint bad := by
  refine ⟨fun a b => ⟨fun e first => parse_append_of_error first b,
    fun _ _ => parse_append_of_ok_error, fun _ _ => parse_append_of_ok⟩, fun piece whole => ?_,
    fun list => ⟨intercalate_pieces list, not_mem_of_mem_pieces, ?_,
      fun e => parse_eq_error_iff.trans readAll_eq_error_iff⟩⟩
  · rw [parse_of_not_mem whole]
    refine ⟨fun blank => ?_, fun told unmarked => ?_, fun key value divides => ⟨?_, ?_⟩⟩
    · rw [readPiece_of_isBlank blank]
      rfl
    · rw [readPiece_of_unmarked told unmarked, complaint, if_neg unmarked]
      rfl
    · intro blank
      rw [readPiece_of_divides divides, if_pos (isEmpty_trimChars_iff.mpr blank), complaint,
        if_pos divides.mem]
      rfl
    · intro named
      rw [readPiece_of_hasKey divides named]
      rfl
  · have accepted : (∃ headers, parse list = .ok headers) ↔
        ∃ said, readAll (pieces list) = .ok said := by
      rw [parse_eq]
      cases readAll (pieces list) <;> simp [Except.map]
    rw [accepted, exists_readAll_iff]
    exact forall₂_congr fun piece _ => Classical.or_iff_not_imp_left

/-- A key and a value stand between blanks and the value has an `=`; the piece behind the comma has
nothing before its first `=`, and it is the one that is complained of. -/
theorem parse_by_pieces_of_token :
    let token := " api-key\u00a0= abc== "
    let nameless := "\t=v"
    parse token = .ok ((∅ : Headers).insert "api-key" "abc==") ∧
      parse (token ++ "," ++ nameless) = .error (.invalidHeader "=v" "empty header name") := by
  intro token nameless
  obtain ⟨joined, single, -⟩ := parse_by_pieces
  have divides : Divides token " api-key\u00a0" " abc== " := ⟨by decide +kernel, by decide +kernel⟩
  have read := ((single token (by decide +kernel)).2.2 _ _ divides).2 (by decide +kernel)
  have divides' : Divides nameless "\t" "v" := ⟨by decide +kernel, by decide +kernel⟩
  have refused := ((single nameless (by decide +kernel)).2.2 _ _ divides').1 (by decide +kernel)
  have names : Text.trim " api-key\u00a0" = "api-key" ∧ Text.trim " abc== " = "abc==" ∧
      Text.trim nameless = "=v" := by decide +kernel
  rw [names.1, names.2.1] at read
  rw [names.2.2] at refused
  exact ⟨read, (joined token nameless).2.1 _ _ read refused⟩

end Telemetry.HeaderList
