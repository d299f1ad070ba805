import Telemetry.Proofs.HeaderList.Pieces

/-!
# Header lists written and read back

Headers are written as pieces, one for each header, with blanks around the key and the value and
with blank pieces in any place. If the keys and the values can stand in a list and no two keys are
the same, then the headers are read back, in whatever order they are written. All that a list gives
can stand in a list, so it can be written again.

* `readAll_of_writes`: what is written is read back.
* `isKey_and_isValue_of_parse`: what a list gives can stand in a list.
* `writes_entries`: any pairs can be written.
-/

namespace Telemetry.HeaderList

/-- A key that can stand in a list. -/
structure IsKey (key : String) : Prop where
  present : key ≠ ""
  trimmed : Text.IsTrimmed key.toList
  no_comma : ',' ∉ key.toList
  no_mark : '=' ∉ key.toList

instance (key : String) : Decidable (IsKey key) :=
  decidable_of_iff (key ≠ "" ∧ Text.IsTrimmed key.toList ∧ ',' ∉ key.toList ∧ '=' ∉ key.toList)
    ⟨fun ⟨present, trimmed, no_comma, no_mark⟩ => ⟨present, trimmed, no_comma, no_mark⟩,
      fun ⟨present, trimmed, no_comma, no_mark⟩ => ⟨present, trimmed, no_comma, no_mark⟩⟩

/-- A value that can stand in a list. -/
structure IsValue (value : String) : Prop where
  trimmed : Text.IsTrimmed value.toList
  no_comma : ',' ∉ value.toList

instance (value : String) : Decidable (IsValue value) :=
  decidable_of_iff (Text.IsTrimmed value.toList ∧ ',' ∉ value.toList)
    ⟨fun ⟨trimmed, no_comma⟩ => ⟨trimmed, no_comma⟩,
      fun ⟨trimmed, no_comma⟩ => ⟨trimmed, no_comma⟩⟩

/-- Pieces that write pairs in order, with blanks around keys and values and with blank pieces
anywhere. -/
inductive Writes : List String → List (String × String) → Prop
  | nil : Writes [] []
  | blank {pad : String} {ps : List String} {pairs : List (String × String)}
      (blank : IsBlank pad) (later : Writes ps pairs) : Writes (pad :: ps) pairs
  | pair {a b c d key value : String} {ps : List String} {pairs : List (String × String)}
      (around_key : IsBlank a ∧ IsBlank b) (around_value : IsBlank c ∧ IsBlank d)
      (later : Writes ps pairs) :
      Writes ((a ++ key ++ b ++ "=" ++ (c ++ value ++ d)) :: ps) ((key, value) :: pairs)

/-- The plain list of some pairs. -/
def write (pairs : List (String × String)) : String :=
  ",".intercalate (pairs.map fun pair => pair.1 ++ "=" ++ pair.2)

variable {text key value pad list : String} {ps : List String} {pairs : List (String × String)}

/-! ## What is written is read back -/

theorem trim_of_isTrimmed (trimmed : Text.IsTrimmed text.toList) : Text.trim text = text := by
  rw [Text.trim, Text.trimChars_of_isTrimmed trimmed, String.ofList_toList]

theorem isTrimmed_trim (text : String) : Text.IsTrimmed (Text.trim text).toList := by
  rw [Text.toList_trim]
  exact Text.isTrimmed_trimChars _

theorem trim_pad {a b : String} (around : IsBlank a ∧ IsBlank b) (text : String) :
    Text.trim (a ++ text ++ b) = Text.trim text := by
  rw [Text.trim, String.toList_append, String.toList_append,
    Text.trimChars_pad around.1 around.2, ← Text.trim]

theorem not_isBlank_of_isKey (key_fit : IsKey key) : ¬ IsBlank key := by
  intro blank
  refine key_fit.present (String.toList_injective ?_)
  rw [← trim_of_isTrimmed key_fit.trimmed, Text.toList_trim]
  exact Text.trimChars_eq_nil_iff.mpr blank

theorem IsBlank.not_mem (blank : IsBlank pad) {c : Char} (dark : Text.isBlank c = false) :
    c ∉ pad.toList := by
  intro mem
  rw [blank c mem] at dark
  cases dark

theorem readPiece_of_pair {a b c d : String} (around_key : IsBlank a ∧ IsBlank b)
    (around_value : IsBlank c ∧ IsBlank d) (key_fit : IsKey key) (value_fit : IsValue value) :
    readPiece (a ++ key ++ b ++ "=" ++ (c ++ value ++ d)).toList = .ok (some (key, value)) := by
  have divides : Divides (a ++ key ++ b ++ "=" ++ (c ++ value ++ d)) (a ++ key ++ b)
      (c ++ value ++ d) := by
    refine ⟨rfl, ?_⟩
    simp only [String.toList_append, List.mem_append, not_or]
    exact ⟨⟨around_key.1.not_mem (by decide), key_fit.no_mark⟩, around_key.2.not_mem (by decide)⟩
  have named : ¬ IsBlank (a ++ key ++ b) := by
    intro blank
    exact not_isBlank_of_isKey key_fit fun x mem => blank x (by simp [mem])
  rw [readPiece_of_hasKey divides named, trim_pad around_key, trim_pad around_value,
    trim_of_isTrimmed key_fit.trimmed, trim_of_isTrimmed value_fit.trimmed]

theorem readAll_of_writes (writes : Writes ps pairs)
    (fit : ∀ pair ∈ pairs, IsKey pair.1 ∧ IsValue pair.2) : readAll ps = .ok pairs := by
  induction writes with
  | nil => rfl
  | blank blank _ ih =>
    rw [readAll, readPiece_of_isBlank blank, ih fit]
    rfl
  | pair around_key around_value _ ih =>
    obtain ⟨⟨key_fit, value_fit⟩, later_fit⟩ := List.forall_mem_cons.mp fit
    rw [readAll, readPiece_of_pair around_key around_value key_fit value_fit, ih later_fit]
    rfl

theorem no_comma_of_writes (writes : Writes ps pairs)
    (fit : ∀ pair ∈ pairs, IsKey pair.1 ∧ IsValue pair.2) : ∀ p ∈ ps, ',' ∉ p.toList := by
  induction writes with
  | nil => simp
  | blank blank _ ih => exact List.forall_mem_cons.mpr ⟨blank.not_mem (by decide), ih fit⟩
  | pair around_key around_value _ ih =>
    obtain ⟨⟨key_fit, value_fit⟩, later_fit⟩ := List.forall_mem_cons.mp fit
    refine List.forall_mem_cons.mpr ⟨?_, ih later_fit⟩
    simp only [String.toList_append, List.mem_append, not_or]
    exact ⟨⟨⟨⟨around_key.1.not_mem (by decide), key_fit.no_comma⟩,
      around_key.2.not_mem (by decide)⟩, by decide⟩,
      ⟨around_value.1.not_mem (by decide), value_fit.no_comma⟩, around_value.2.not_mem (by decide)⟩

/-- The pieces that are joined by commas are read, also if there are none. -/
theorem readAll_pieces_intercalate (free : ∀ p ∈ ps, ',' ∉ p.toList) :
    readAll (pieces (",".intercalate ps)) = readAll ps := by
  cases ps with
  | nil =>
    have nothing : pieces "" = [""] := pieces_of_not_mem (by simp)
    have blank : readPiece "".toList = .ok none := readPiece_of_isBlank (by decide)
    rw [String.toList_empty] at blank
    simp [nothing, readAll, blank, Except.map]
  | cons p rest =>
    have parts : ∀ part ∈ (p :: rest).map String.toList, ',' ∉ part := by simpa using free
    have cut : (",".intercalate (p :: rest)).toList.splitOn ',' =
        (p :: rest).map String.toList := by
      rw [String.toList_intercalate]
      exact List.splitOn_intercalate ',' parts (by simp)
    rw [pieces, cut, List.map_map]
    simp [Function.comp_def]

theorem parse_of_writes (writes : Writes ps pairs)
    (fit : ∀ pair ∈ pairs, IsKey pair.1 ∧ IsValue pair.2) :
    parse (",".intercalate ps) = .ok (TextMap.ofPairs pairs) := by
  rw [parse_eq, readAll_pieces_intercalate (no_comma_of_writes writes fit),
    readAll_of_writes writes fit]
  rfl

/-- Any pairs can be written: plainly. -/
theorem writes_entries (pairs : List (String × String)) :
    Writes (pairs.map fun pair => pair.1 ++ "=" ++ pair.2) pairs := by
  induction pairs with
  | nil => exact .nil
  | cons pair rest ih =>
    have no_pad : IsBlank "" ∧ IsBlank "" := by decide
    have written : Writes (_ :: _) ((pair.1, pair.2) :: rest) := .pair no_pad no_pad ih
    simpa using written

/-! ## What a list gives can be written -/

theorem mem_readAll {said : List (String × String)} {pair : String × String}
    (read : readAll ps = .ok said) (mem : pair ∈ said) :
    ∃ p ∈ ps, readPiece p.toList = .ok (some pair) := by
  induction ps generalizing said with
  | nil =>
    obtain rfl := Except.ok.inj read
    simp at mem
  | cons p rest ih =>
    rw [readAll] at read
    cases here : readPiece p.toList with
    | error e => simp [here] at read
    | ok said? =>
      cases there : readAll rest with
      | error e => simp [here, there, Except.map] at read
      | ok later =>
        obtain rfl : said?.toList ++ later = said := by simpa [here, there, Except.map] using read
        rcases List.mem_append.mp mem with first | second
        · exact ⟨p, List.mem_cons_self, by rw [here, Option.mem_toList.mp first]⟩
        · obtain ⟨q, q_mem, q_read⟩ := ih there second
          exact ⟨q, List.mem_cons_of_mem p q_mem, q_read⟩

/-- A pair that a piece says can stand in a list again. -/
theorem isKey_and_isValue_of_readPiece {piece : String} (whole : ',' ∉ piece.toList)
    (read : readPiece piece.toList = .ok (some (key, value))) : IsKey key ∧ IsValue value := by
  rcases isFit_of_readPiece read with blank | ⟨before, behind, divides, named⟩
  · rw [readPiece_of_isBlank blank] at read
    cases read
  · rw [readPiece_of_hasKey divides named] at read
    obtain ⟨rfl, rfl⟩ := Prod.mk.inj (Option.some.inj (Except.ok.inj read))
    rw [divides.toList, List.mem_append, List.mem_cons, not_or, not_or] at whole
    have kept {text : String} {c : Char} (free : c ∉ text.toList) :
        c ∉ (Text.trim text).toList := by
      rw [Text.toList_trim]
      exact mt (Text.trimChars_sublist _).mem free
    refine ⟨⟨fun nothing => named ?_, isTrimmed_trim before, kept whole.1, kept divides.first⟩,
      isTrimmed_trim behind, kept whole.2.2⟩
    exact Text.trimChars_eq_nil_iff.mp (by rw [← Text.toList_trim, nothing]; rfl)

theorem isKey_and_isValue_of_parse {headers : Headers} (read : parse list = .ok headers)
    (held : headers[key]? = some value) : IsKey key ∧ IsValue value := by
  obtain ⟨said, all_read, rfl⟩ := parse_eq_ok_iff.mp read
  have mem := (TextMap.getElem?_ofPairs_eq_some_iff.mp held).mem
  obtain ⟨p, p_mem, p_read⟩ := mem_readAll all_read mem
  exact isKey_and_isValue_of_readPiece (not_mem_of_mem_pieces p p_mem) p_read

/-- Headers that can stand in a list and have different keys are read back from any list that writes
them, in any order and with any padding. What a list gives can stand in a list, so the headers that
are read are read back when they are written again. -/
theorem parse_written :
    (∀ pairs : List (String × String), (pairs.map Prod.fst).Nodup →
      (∀ pair ∈ pairs, IsKey pair.1 ∧ IsValue pair.2) →
      ∀ order ps, order.Perm pairs → Writes ps order →
        ∃ headers, parse (",".intercalate ps) = .ok headers ∧
          ∀ key value : String, headers[key]? = some value ↔ (key, value) ∈ pairs) ∧
    ∀ list headers, parse list = .ok headers →
      (∀ key value : String, headers[key]? = some value → IsKey key ∧ IsValue value) ∧
      (∀ order ps, order.Perm headers.toList → Writes ps order →
        parse (",".intercalate ps) = .ok headers) ∧
      parse (write headers.toList) = .ok headers := by
  refine ⟨fun pairs nodup fit order ps perm writes => ?_, fun list headers read => ?_⟩
  · have order_fit : ∀ pair ∈ order, IsKey pair.1 ∧ IsValue pair.2 := fun pair mem =>
      fit pair (perm.mem_iff.mp mem)
    refine ⟨_, parse_of_writes writes order_fit, fun key value => ?_⟩
    rw [TextMap.getElem?_ofPairs_eq_some_iff,
      TextMap.gives_iff_mem ((perm.map Prod.fst).nodup_iff.mpr nodup), perm.mem_iff]
  · have fit : ∀ pair ∈ headers.toList, IsKey pair.1 ∧ IsValue pair.2 := fun pair mem =>
      isKey_and_isValue_of_parse read (Std.ExtTreeMap.mem_toList_iff_getElem?_eq_some.mp mem)
    have back : ∀ order ps, order.Perm headers.toList → Writes ps order →
        parse (",".intercalate ps) = .ok headers := fun order ps perm writes => by
      rw [parse_of_writes writes fun pair mem => fit pair (perm.mem_iff.mp mem),
        TextMap.ofPairs_of_perm perm]
    exact ⟨fun _ _ => isKey_and_isValue_of_parse read, back,
      back _ _ (List.Perm.refl _) (writes_entries _)⟩

/-- Two headers stand in reverse order between blank pieces, one of them with blanks around its key
and for its value, the other one with marks in its value. -/
theorem parse_written_of_padding :
    let pairs := [("api-key", "abc=="), ("x-custom", "")]
    ∃ headers, parse "\t, x-custom =\u00a0,api-key=abc==," = .ok headers ∧
      (∀ key value : String, headers[key]? = some value ↔ (key, value) ∈ pairs) ∧
      parse (write headers.toList) = .ok headers := by
  intro pairs
  obtain ⟨read_back, given⟩ := parse_written
  have fit : ∀ pair ∈ pairs, IsKey pair.1 ∧ IsValue pair.2 := by decide +kernel
  have blanks : IsBlank " " ∧ IsBlank "\u00a0" ∧ IsBlank "\t" ∧ IsBlank "" := by decide +kernel
  obtain ⟨space, wide, tab, nothing⟩ := blanks
  have writes : Writes ["\t", " " ++ "x-custom" ++ " " ++ "=" ++ ("" ++ "" ++ "\u00a0"),
      "" ++ "api-key" ++ "" ++ "=" ++ ("" ++ "abc==" ++ ""), ""]
      [("x-custom", ""), ("api-key", "abc==")] :=
    .blank tab (.pair ⟨space, space⟩ ⟨nothing, wide⟩
      (.pair ⟨nothing, nothing⟩ ⟨nothing, nothing⟩ (.blank nothing .nil)))
  obtain ⟨headers, read, held⟩ :=
    read_back pairs (by decide) fit _ _ (List.Perm.swap _ _ _) writes
  have text : ",".intercalate ["\t", " " ++ "x-custom" ++ " " ++ "=" ++ ("" ++ "" ++ "\u00a0"),
      "" ++ "api-key" ++ "" ++ "=" ++ ("" ++ "abc==" ++ ""), ""] =
      "\t, x-custom =\u00a0,api-key=abc==," := by decide +kernel
  rw [text] at read
  exact ⟨headers, read, held, (given _ headers read).2.2⟩

end Telemetry.HeaderList
