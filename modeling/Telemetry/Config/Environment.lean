import Std.Data.ExtTreeMap
import Telemetry.Text.Digits
import Telemetry.Text.LowerCase
import Telemetry.Text.Quoted

/-!
# Settings in the environment

The variables of one group set the keys of one configuration. A variable belongs to a group when its
name in lower case starts with the group's name and an underscore; the rest of the name is the key.

A key may be a path: a name, followed by steps `.name` and `[number]`, where blanks and tabs may
surround the number and the number fits a signed word of 64 bits. A path with steps makes the key at
its start a map or a sequence, which none of the settings accepts. What is no path is a key as it
stands.

Values are text. They are read as text, as a truth value (`1 true on yes`, `0 false off no`) or as a
count (the words of a truth value but for `1` and `0` first, then decimal digits after an optional
plus sign).

Main statement: `readCount_lt`, a count that is read is below the bound.
-/

namespace Telemetry

/-- The variables of a process, in order. -/
abbrev Environment := List (String × String)

/-- What a configuration has at one key. -/
inductive Setting
  | text (s : String)
  | map
  | sequence
  deriving DecidableEq, Repr

/-- The keys that are set. -/
abbrev Settings := Std.ExtTreeMap String Setting

/-- What a reader wants to find at a key. -/
inductive Expectation
  | boolean
  | integer
  | string
  deriving DecidableEq, Repr

/-- The name of an expectation in an error. -/
def Expectation.phrase : Expectation → String
  | boolean => "a boolean"
  | integer => "an integer"
  | string => "a string"

/-- A key holds something else than its reader wants. -/
structure TypeMismatch where
  key : String
  found : Setting
  expected : Expectation
  deriving DecidableEq, Repr

/-- The text of a mismatch. Only a text has a place where it comes from. -/
def TypeMismatch.message (e : TypeMismatch) : String :=
  let (found, place) := match e.found with
    | .text s => ("string " ++ Text.quote s, " in the environment")
    | .map => ("map", "")
    | .sequence => ("sequence", "")
  "invalid type: " ++ found ++ ", expected " ++ e.expected.phrase ++ " for key `" ++ e.key ++ "`" ++
    place

/-! ## Paths -/

/-- Where a reader of a path stands. In the digits of a step it knows their sign and their
number. -/
inductive PathCursor
  | nameStart
  | inName
  | indexStart
  | indexSign
  | indexDigits (negative : Bool) (n : Nat)
  | indexEnd
  | afterIndex
  | refused
  deriving DecidableEq, Repr

namespace PathCursor

/-- The characters of a name in a path. -/
def isNameChar (c : Char) : Bool :=
  c.isAlphanum || c == ' ' || c == '_' || c == '-'

/-- The blanks that may surround the number of a step. -/
def isPadding (c : Char) : Bool :=
  c == ' ' || c == '\t'

/-- The largest number that a step may have, without its sign. -/
def indexLimit (negative : Bool) : Nat :=
  if negative then Nat.pow 2 63 else Nat.pow 2 63 - 1

/-- The cursor behind one more digit. A number beyond the limit is refused. -/
def pushDigit (negative : Bool) (n : Nat) (c : Char) : PathCursor :=
  let m := Nat.ofDigitChars 10 [c] n
  if m ≤ indexLimit negative then indexDigits negative m else refused

/-- The cursor behind the next character. -/
def next (cursor : PathCursor) (c : Char) : PathCursor :=
  let step : PathCursor := if c = '.' then nameStart else if c = '[' then indexStart else refused
  match cursor with
  | nameStart => if isNameChar c then inName else refused
  | inName => if isNameChar c then inName else step
  | indexStart =>
    if isPadding c then indexStart else if c = '-' then indexSign
    else if c.isDigit then pushDigit false 0 c else refused
  | indexSign => if c.isDigit then pushDigit true 0 c else refused
  | indexDigits negative n =>
    if c.isDigit then pushDigit negative n c else if isPadding c then indexEnd
    else if c = ']' then afterIndex else refused
  | indexEnd => if isPadding c then indexEnd else if c = ']' then afterIndex else refused
  | afterIndex => step
  | refused => refused

/-- Whether a path may end here. -/
def isEnd : PathCursor → Bool
  | inName | afterIndex => true
  | _ => false

end PathCursor

def isPath (key : List Char) : Bool :=
  (key.foldl PathCursor.next .nameStart).isEnd

/-- The key at the start of a path and what the path makes of the value there. A key that is no path
stands for itself. -/
def placeOf (key : List Char) (value : String) : String × Setting :=
  let whole := (String.ofList key, Setting.text value)
  let (name, steps) := key.span PathCursor.isNameChar
  match isPath key, steps with
  | true, '.' :: _ => (String.ofList name, .map)
  | true, '[' :: _ => (String.ofList name, .sequence)
  | _, _ => whole

/-- The key that a variable name has in a group, if it belongs to the group. -/
def keyIn? (group name : String) : Option (List Char) :=
  let head := (Text.toLower group ++ "_").toList
  let lowered := (Text.toLower name).toList
  if head.isPrefixOf lowered then some (lowered.drop head.length) else none

namespace Settings

/-- The settings of a group of variables. A later variable overrides an earlier one. -/
def ofEnvironment (group : String) (env : Environment) : Settings :=
  env.foldl (fun settings var =>
    match keyIn? group var.1 with
    | none => settings
    | some key =>
      let (name, setting) := placeOf key var.2
      settings.insert name setting) ∅

/-! ## Readers -/

def trueWords : List String := ["1", "true", "on", "yes"]

def falseWords : List String := ["0", "false", "off", "no"]

def readText? (s : Settings) (key : String) : Except TypeMismatch (Option String) :=
  match s[key]? with
  | none => .ok none
  | some (.text value) => .ok (some value)
  | some found => .error ⟨key, found, .string⟩

/-- The text at a key, or a default. -/
def readText (s : Settings) (key : String) (default : String) : Except TypeMismatch String :=
  (s.readText? key).map (·.getD default)

/-- The truth value at a key, or a default. A mismatch shows the value in lower case. -/
def readBool (s : Settings) (key : String) (default : Bool) : Except TypeMismatch Bool :=
  match s[key]? with
  | none => .ok default
  | some (.text value) =>
    let word := Text.toLower value
    if word ∈ trueWords then .ok true
    else if word ∈ falseWords then .ok false
    else .error ⟨key, .text word, .boolean⟩
  | some found => .error ⟨key, found, .boolean⟩

/-- The counts that can be set are below this bound. -/
def countBound : Nat := Nat.pow 2 64

/-- The number that a text stands for, if it is below the bound. -/
def count? (value : String) : Option Nat :=
  (Text.number? value.toList).filter (· < countBound)

/-- The count at a key, or a default. A mismatch shows the value as it is. -/
def readCount (s : Settings) (key : String) (default : Nat) : Except TypeMismatch Nat :=
  match s[key]? with
  | none => .ok default
  | some (.text value) =>
    let word := Text.toLower value
    if word ∈ trueWords.drop 1 then .ok 1
    else if word ∈ falseWords.drop 1 then .ok 0
    else (count? value).elim (.error ⟨key, .text value, .integer⟩) .ok
  | some found => .error ⟨key, found, .integer⟩

theorem count?_lt {value : String} {n : Nat} (h : count? value = some n) : n < countBound :=
  of_decide_eq_true (Option.filter_eq_some_iff.1 h).2

theorem readCount_lt {s : Settings} {key : String} {default n : Nat} (hd : default < countBound)
    (h : s.readCount key default = .ok n) : n < countBound := by
  simp only [readCount] at h
  split at h
  · cases h; exact hd
  · rename_i value _
    split at h
    · cases h; decide
    · split at h
      · cases h; decide
      · cases hc : count? value with
        | none => simp [hc] at h
        | some m =>
          simp only [hc, Option.elim_some, Except.ok.injEq] at h
          exact h ▸ count?_lt hc
  · cases h

end Settings

end Telemetry
