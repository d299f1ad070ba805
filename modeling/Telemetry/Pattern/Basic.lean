import Telemetry.Text.Blank

/-!
# Patterns

A pattern is a regular expression over text. Its flags say whether it goes by characters or by
bytes, whether case makes a difference, and whether blanks and comments in it are void. The tables
of Unicode are not at hand here: a pattern that goes by characters has no classes of letters, digits
or blanks and cannot ignore case. A pattern that goes by bytes must not match part of a character.
-/

namespace Telemetry.Pattern

/-- What is wrong with a pattern. -/
inductive Fault
  | malformed
  | wordBoundary
  deriving DecidableEq, Repr

def Fault.message : Fault → String
  | malformed => "error building NFA"
  | wordBoundary =>
    "unsupported regex feature for DFAs: cannot build DFAs for regexes with Unicode word " ++
      "boundaries; switch to ASCII word boundaries, or heuristically enable Unicode word " ++
      "boundaries or use a different regex engine"

/-- The flags that decide how a pattern is read. -/
structure Flags where
  unicode : Bool := true
  ignoreCase : Bool := false
  verbose : Bool := false
  deriving DecidableEq, Repr

/-- A part of a pattern without parts of its own. A literal may be given as a byte, a shorthand
stands for the digits, the blanks or the word characters, and a boundary lies at the edge of a
word. -/
inductive Primitive
  | literal (c : Char) (asByte : Bool)
  | shorthand (negated : Bool)
  | boundary
  | anchor
  | anyChar
  deriving DecidableEq, Repr

namespace Flags

/-- Removes the blanks and comments at the start of a text. -/
def dropVoid (inComment : Bool) : List Char → List Char
  | [] => []
  | c :: rest =>
    if inComment then dropVoid (c != '\n') rest
    else if Text.isBlank c then dropVoid false rest
    else if c = '#' then dropVoid true rest
    else c :: rest

/-- Removes what is void at the start of a text. -/
def skip (f : Flags) (s : List Char) : List Char :=
  if f.verbose then dropVoid false s else s

/-- The first character of a text that is not void, where what opens a comment is passed over and
the comment itself is not. -/
def peek (f : Flags) (s : List Char) : Option Char :=
  if !f.verbose then s.head?
  else
    match s.dropWhile Text.isBlank with
    | '#' :: comment => (comment.dropWhile Text.isBlank).head?
    | rest => rest.head?

/-- Whether a literal may stand in a pattern. A byte beyond ASCII is only part of a character. -/
def allowsLiteral (f : Flags) (c : Char) (asByte : Bool) : Bool :=
  if f.unicode then !f.ignoreCase else !asByte || c.toNat < 0x80

/-- Whether a class whose members are given by a rule may stand in a pattern. By bytes its negation
would match part of a character. -/
def allowsClass (f : Flags) (negated : Bool) : Bool :=
  !f.unicode && !negated

/-- Whether a primitive may stand in a pattern. -/
def allows (f : Flags) : Primitive → Bool
  | .literal c asByte => f.allowsLiteral c asByte
  | .shorthand negated => f.allowsClass negated
  | .boundary => true
  | .anchor => true
  | .anyChar => f.unicode

/-- Whether a primitive may stand in brackets. By bytes a literal is a single one of them. -/
def allowsInBrackets (f : Flags) : Primitive → Bool
  | .literal c asByte => f.allowsLiteral c asByte && (f.unicode || c.toNat < 0x80)
  | .shorthand negated => f.allowsClass negated
  | _ => false

/-- Whether a named class of ASCII characters may stand in brackets. -/
def allowsAsciiClass (f : Flags) (negated : Bool) : Bool :=
  if f.unicode then !f.ignoreCase else !negated

/-- The flags after one of them is turned on or off. -/
def put (f : Flags) (flag : Char) (on : Bool) : Flags :=
  if flag = 'u' then { f with unicode := on }
  else if flag = 'i' then { f with ignoreCase := on }
  else if flag = 'x' then { f with verbose := on }
  else f

end Flags

end Telemetry.Pattern
