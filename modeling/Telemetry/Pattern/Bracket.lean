import Telemetry.Pattern.Escape

/-!
# Classes in brackets

A class in brackets holds single characters, ranges of characters, shorthands, named classes of
ASCII characters, and other classes in brackets; two classes may be joined by an operator, which is
a doubled sign. Dashes at the start stand for themselves, and so does a closing bracket there. A
name that no class has makes its bracket an ordinary one.

The height of a class says how deeply its parts are nested.
-/

namespace Telemetry.Pattern

/-- The height of parts that stand in a row. A part on its own makes no row. -/
def rowHeight : List Nat → Nat
  | [] => 0
  | [h] => h
  | h :: rest => 1 + rest.foldr max h

/-- What may come next in brackets. -/
inductive Stage
  | opened
  | negated
  | dashed
  | inside
  deriving DecidableEq, Repr

/-- Brackets that are read: the heights of the members so far, the last one first, and the height of
what stands left of the last operator. -/
structure Bracket where
  stage : Stage := .opened
  members : List Nat := []
  left : Option Nat := none
  deriving DecidableEq, Repr

/-- Where a reader of brackets stands: inside some, or behind the outermost ones. -/
inductive Brackets
  | within (inner : Bracket) (outer : List Bracket)
  | closed (height : Nat)
  deriving DecidableEq, Repr

/-- The names of the classes of ASCII characters. -/
def asciiClassNames : List (List Char) :=
  ["alnum", "alpha", "ascii", "blank", "cntrl", "digit", "graph", "lower", "print", "punct",
    "space", "upper", "word", "xdigit"].map String.toList

/-- What follows the name of a class and the signs behind it, if there is a class of that name. -/
def skipClassName? (s : List Char) : Option (List Char) :=
  match s.dropWhile (· != ':') with
  | ':' :: ']' :: rest => if s.takeWhile (· != ':') ∈ asciiClassNames then some rest else none
  | _ => none

/-- Whether a named class is negated, and what follows it. Its opening bracket is not read here. -/
def asciiClass? : List Char → Option (Bool × List Char)
  | ':' :: '^' :: s => (skipClassName? s).map (true, ·)
  | ':' :: s => (skipClassName? s).map (false, ·)
  | _ => none

/-- Reads a member of a class, or an end of a range. -/
def readMember (f : Flags) (c : Char) (rest : List Char) : Option (Primitive × List Char) :=
  if c = '\\' then readEscape f rest else some (.literal c false, rest)

/-- Whether two members are the ends of a range. -/
def isRange (f : Flags) : Primitive → Primitive → Bool
  | .literal a x, .literal b y =>
    f.allowsInBrackets (.literal a x) && f.allowsInBrackets (.literal b y) && a.toNat ≤ b.toNat
  | _, _ => false

/-- What follows a member or a range, if it may stand in brackets. -/
def skipMember (f : Flags) (c : Char) (rest : List Char) : Option (List Char) :=
  (readMember f c rest).bind fun (first, rest) =>
    let alone := if f.allowsInBrackets first then some rest else none
    match f.skip rest with
    | '-' :: behind =>
      if f.peek behind ∈ [some ']', some '-'] then alone
      else
        match f.skip behind with
        | [] => none
        | d :: more => (readMember f d more).bind fun (last, rest) =>
          if isRange f first last then some rest else none
    | _ => alone

/-- Whether a sign and what follows it are an operator. -/
def isOperator (c : Char) (rest : List Char) : Bool :=
  c ∈ ['&', '-', '~'] && rest.head? == some c

namespace Bracket

/-- The height of the members and of what stands left of them. -/
def setHeight (b : Bracket) : Nat :=
  let right := rowHeight b.members
  b.left.elim right fun left => 1 + max left right

/-- The height of the brackets. -/
def height (b : Bracket) : Nat := 1 + b.setHeight

def add (b : Bracket) (h : Nat) : Bracket :=
  { b with stage := .inside, members := h :: b.members }

/-- Makes all that was read so far the left side of an operator. -/
def operate (b : Bracket) : Bracket :=
  { stage := .inside, members := [], left := some b.setHeight }

/-- Whether a character stands for itself although it means something further inside. -/
def takesLiterally (b : Bracket) (c : Char) : Bool :=
  match b.stage with
  | .opened | .negated => c == '-' || c == ']'
  | .dashed => c == '-'
  | .inside => false

def close (b : Bracket) : List Bracket → Brackets
  | [] => .closed b.height
  | next :: outer => .within (next.add b.height) outer

/-- Reads the next part in brackets, which starts with `c`, and answers what follows it. -/
def step (f : Flags) (b : Bracket) (outer : List Bracket) (c : Char) (rest : List Char) :
    Option (Brackets × List Char) :=
  let within (b : Bracket) (fine : Bool) (rest : List Char) :=
    if fine then some (Brackets.within b outer, rest) else none
  if b.stage = .opened ∧ c = '^' then within { b with stage := .negated } f.unicode rest
  else if b.takesLiterally c then
    let stage := if c = '-' then Stage.dashed else .inside
    within { b.add 0 with stage := stage } (f.allowsInBrackets (.literal c false)) rest
  else if c = '[' then
    match asciiClass? rest with
    | some (negated, rest) => within (b.add 0) (f.allowsAsciiClass negated) rest
    | none => some (.within {} (b :: outer), rest)
  else if c = ']' then some (b.close outer, rest)
  else if isOperator c rest then within b.operate true (rest.drop 1)
  else (skipMember f c rest).bind (within (b.add 0) true)

end Bracket

end Telemetry.Pattern
