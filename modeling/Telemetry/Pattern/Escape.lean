import Telemetry.Pattern.Basic

/-!
# Escapes in patterns

A backslash opens an escape. What follows it is a sign that stands for itself, a letter for a
control character, a code in hexadecimal digits, a letter for a shorthand or for a place, or it is
refused: digits, the letters of properties, and characters beyond ASCII are.
-/

namespace Telemetry.Pattern

/-- Whether an escaped character stands for itself. -/
def isEscapable (c : Char) : Bool :=
  c.toNat < 0x80 && !c.isAlphanum && c != '<' && c != '>'

/-- The control character that a letter stands for. -/
def controlOf? (c : Char) : Option Char :=
  [('a', '\x07'), ('f', '\x0c'), ('t', '\t'), ('n', '\n'), ('r', '\r'), ('v', '\x0b')].lookup c

/-- The value of a hexadecimal digit. -/
def hexValue? (c : Char) : Option Nat :=
  if c.isDigit then some (c.toNat - '0'.toNat)
  else if 'a' ≤ c ∧ c ≤ 'f' then some (c.toNat - 'a'.toNat + 10)
  else if 'A' ≤ c ∧ c ≤ 'F' then some (c.toNat - 'A'.toNat + 10)
  else none

/-- How many digits follow the letter of a code. -/
def codeWidth? (c : Char) : Option Nat :=
  [('x', 2), ('u', 4), ('U', 8)].lookup c

/-- The number that some hexadecimal digits add to another one, and what follows them. -/
def readHex (f : Flags) : Nat → Nat → List Char → Option (Nat × List Char)
  | 0, value, s => some (value, s)
  | n + 1, value, s =>
    match f.skip s with
    | [] => none
    | c :: rest => (hexValue? c).bind fun digit => readHex f n (16 * value + digit) rest

/-- The character that a code stands for, and what follows the code. -/
def readCode (f : Flags) (width : Nat) (s : List Char) : Option (Char × List Char) :=
  match readHex f width 0 s with
  | some (value, rest) => if value.isValidChar then some (Char.ofNat value, rest) else none
  | none => none

/-- The primitive that a letter stands for, unless the letter begins a code. -/
def ofLetter? (c : Char) : Option Primitive :=
  if c ∈ ['d', 's', 'w'] then some (.shorthand false)
  else if c ∈ ['D', 'S', 'W'] then some (.shorthand true)
  else if c ∈ ['A', 'z'] then some .anchor
  else if c ∈ ['b', 'B', '<', '>'] then some .boundary
  else (controlOf? c).map (.literal · false)

/-- Reads an escape, without its backslash. -/
def readEscape (f : Flags) : List Char → Option (Primitive × List Char)
  | [] => none
  | c :: rest =>
    if isEscapable c then some (.literal c false, rest)
    else
      match codeWidth? c with
      | some width =>
        (readCode f width rest).map fun (code, rest) => (.literal code (c == 'x'), rest)
      | none => (ofLetter? c).map fun primitive => (primitive, rest)

end Telemetry.Pattern
