import Telemetry.Pattern.Bracket
import Telemetry.Pattern.Opening

/-!
# Reading patterns

A pattern is read from its start to its end, group by group. It is malformed when a part of it is,
when a group or a bracket is left open, when there is nothing to repeat, or when it is nested too
deeply. A pattern that is well formed is refused if it looks for the edge of a word by characters.

A pattern stands between braces, so that no brace of its own is ever closed: a count of repetitions,
and a code or a property in braces, is malformed.
-/

namespace Telemetry.Pattern

/-- A part of a pattern: how deeply it is nested, and whether it can be repeated. -/
structure Part where
  height : Nat
  repeatable : Bool := true
  deriving DecidableEq, Repr

/-- What has been read of a group: the flags that hold, the heights of the finished alternatives,
and the parts of the current one, the last part first. -/
structure Group where
  flags : Flags := {}
  branches : List Nat := []
  parts : List Part := []
  deriving DecidableEq, Repr

namespace Group

def branchHeight (g : Group) : Nat := rowHeight (g.parts.map Part.height)

/-- The height of what a group holds. -/
def height (g : Group) : Nat := rowHeight (g.branchHeight :: g.branches)

def add (g : Group) (part : Part) : Group := { g with parts := part :: g.parts }

def endBranch (g : Group) : Group :=
  { g with branches := g.branchHeight :: g.branches, parts := [] }

end Group

/-- Where a reader of a pattern stands: the group that it is in and the groups around it, the
brackets that it is in, the names that were given, and whether it has met a boundary by
characters. -/
structure Reader where
  group : Group := {}
  outer : List Group := []
  brackets : List Bracket := []
  names : List (List Char) := []
  meetsBoundary : Bool := false
  deriving DecidableEq, Repr

namespace Reader

/-- The flags that hold. -/
def flags (r : Reader) : Flags := r.group.flags

def add (r : Reader) (part : Part) : Reader := { r with group := r.group.add part }

/-- Adds a primitive to the group, if it may stand there. -/
def addPrimitive (r : Reader) (p : Primitive) : Option Reader :=
  if r.flags.allows p then
    some { r.add ⟨0, true⟩ with
      meetsBoundary := r.meetsBoundary || p == .boundary && r.flags.unicode }
  else none

/-- Repeats the last part of the group. -/
def repeatLast (r : Reader) : Option Reader :=
  match r.group.parts with
  | ⟨h, true⟩ :: rest => some { r with group := { r.group with parts := ⟨h + 1, true⟩ :: rest } }
  | _ => none

/-- Opens a group, or lets flags hold from here on. -/
def openGroup (r : Reader) : Opening → Reader
  | .directive flags => { r with group := { r.group.add ⟨0, false⟩ with flags := flags } }
  | .group flags name =>
    { r with
      group := { flags := flags }
      outer := r.group :: r.outer
      names := name.toList ++ r.names }

def closeGroup (r : Reader) : Option Reader :=
  match r.outer with
  | [] => none
  | g :: outer => some { r with group := g.add ⟨1 + r.group.height, true⟩, outer := outer }

/-- The reader behind a step in brackets. -/
def enter (r : Reader) : Brackets → Reader
  | .within inner outer => { r with brackets := inner :: outer }
  | .closed height => { r.add ⟨height, true⟩ with brackets := [] }

/-- Drops the question mark that asks for as few repetitions as possible. -/
def dropLazy : List Char → List Char
  | '?' :: rest => rest
  | all => all

/-- Reads the next part outside brackets, which starts with `c`, and answers what follows it. -/
def stepOutside (r : Reader) (c : Char) (rest : List Char) : Option (Reader × List Char) :=
  let primitive (p : Primitive) (rest : List Char) := (r.addPrimitive p).map fun r => (r, rest)
  match c with
  | '(' => (readOpening r.flags r.names rest).map fun (opening, rest) => (r.openGroup opening, rest)
  | ')' => r.closeGroup.map fun r => (r, rest)
  | '|' => some ({ r with group := r.group.endBranch }, rest)
  | '[' => some ({ r with brackets := [{}] }, rest)
  | '?' | '*' | '+' => r.repeatLast.map fun r => (r, dropLazy rest)
  | '\x7b' => none
  | '\\' => (readEscape r.flags rest).bind fun (p, rest) => primitive p rest
  | '.' => primitive .anyChar rest
  | '^' | '$' => primitive .anchor rest
  | c => primitive (.literal c false) rest

/-- Reads the next part, which starts with `c`, and answers what follows it. -/
def step (r : Reader) (c : Char) (rest : List Char) : Option (Reader × List Char) :=
  match r.brackets with
  | [] => r.stepOutside c rest
  | b :: outer => (b.step r.flags outer c rest).map fun (brackets, rest) => (r.enter brackets, rest)

/-- Reads a text, of which some characters at the start were read already. -/
def run : Nat → Reader → List Char → Option Reader
  | _, r, [] => some r
  | n + 1, r, _ :: rest => run n r rest
  | 0, r, c :: rest =>
    match r.flags.skip (c :: rest) with
    | [] => some r
    | d :: behind => (r.step d behind).bind fun (r, left) => run (rest.length - left.length) r rest

/-- A pattern may be nested this deeply. -/
def nestLimit : Nat := 250

/-- Whether everything that was opened is closed, and nothing is nested too deeply. -/
def isComplete (r : Reader) : Bool :=
  r.outer.isEmpty && r.brackets.isEmpty && r.group.height ≤ nestLimit

end Reader

def fault? (s : List Char) : Option Fault :=
  match Reader.run 0 {} s with
  | none => some .malformed
  | some r =>
    if !r.isComplete then some .malformed
    else if r.meetsBoundary then some .wordBoundary
    else none

end Telemetry.Pattern
