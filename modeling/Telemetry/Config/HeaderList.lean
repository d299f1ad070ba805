import Telemetry.Config.Basic

/-!
# Header lists

A header list is written `key=value,key2=value2`. Blanks around pieces, keys and values do not
count, blank pieces are skipped, and of several pieces with one key the last one counts. A piece
ends its key at its first `=`; it is refused if it has none or nothing but blanks before it.

Main statements:

* `isSome_splitOnce_iff`, `splitOnce_append_cons`: a text can be divided where the dividing
  character stands in it, and is divided at its first place.
* `parseOnto_append_comma`: a list of two lists is read as the first one and then the second one on
  top of it.
-/

namespace Telemetry.HeaderList

/-- What stands before and after the first character of a kind. -/
def splitOnce (sep : Char) (s : List Char) : Option (List Char × List Char) :=
  match s.dropWhile (· != sep) with
  | [] => none
  | _ :: rest => some (s.takeWhile (· != sep), rest)

/-- Reads one piece of a list, which is `none` if it is blank. -/
def readPiece (piece : List Char) : Except SetupError (Option (String × String)) :=
  let pair := Text.trimChars piece
  let refuse (reason : String) := .error (.invalidHeader (String.ofList pair) reason)
  if pair.isEmpty then .ok none
  else
    match splitOnce '=' pair with
    | none => refuse "expected key=value"
    | some (key, value) =>
      if (Text.trimChars key).isEmpty then refuse "empty header name"
      else
        .ok (some (String.ofList (Text.trimChars key), String.ofList (Text.trimChars value)))

/-- Adds what a piece says to the headers read so far. -/
def addPiece (headers : Headers) (piece : List Char) : Except SetupError Headers :=
  match readPiece piece with
  | .error e => .error e
  | .ok none => .ok headers
  | .ok (some (key, value)) => .ok (headers.insert key value)

/-- Reads a list on top of given headers. -/
def parseOnto (headers : Headers) (list : List Char) : Except SetupError Headers :=
  (list.splitOn ',').foldlM addPiece headers

/-- The headers that a list names, or the fault of its leftmost bad piece. -/
def parse (list : String) : Except SetupError Headers :=
  parseOnto ∅ list.toList

theorem isSome_splitOnce_iff (sep : Char) (s : List Char) : (splitOnce sep s).isSome ↔ sep ∈ s := by
  induction s with
  | nil => simp [splitOnce]
  | cons c rest ih =>
    by_cases h : c = sep
    · simp [splitOnce, h]
    · have passed : (c != sep) = true := by simpa using h
      simp only [splitOnce, List.dropWhile_cons, passed, if_true, List.mem_cons, Ne.symm h,
        false_or] at ih ⊢
      rw [← ih]
      cases rest.dropWhile (· != sep) <;> simp

theorem splitOnce_append_cons {sep : Char} {s : List Char} (free : sep ∉ s) (t : List Char) :
    splitOnce sep (s ++ sep :: t) = some (s, t) := by
  have passed : ∀ c ∈ s, (c != sep) = true := fun c hc =>
    bne_iff_ne.mpr fun same => free (same ▸ hc)
  simp [splitOnce, List.dropWhile_append_of_pos passed, List.takeWhile_append_of_pos passed]

theorem parseOnto_append_comma (headers : Headers) (a b : List Char) :
    parseOnto headers (a ++ ',' :: b) =
      (parseOnto headers a).bind fun h => parseOnto h b := by
  simp only [parseOnto, List.splitOn]
  rw [List.splitOnP_append_cons _ _ (by simp), List.foldlM_append]
  rfl

end Telemetry.HeaderList
