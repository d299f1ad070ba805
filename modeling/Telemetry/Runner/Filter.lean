import Telemetry.Log.Event
import Telemetry.Pattern.Reader
import Telemetry.Text.Numeral
import Telemetry.Text.Slice

/-!
# Level filters

A filter is a list of directives between commas: a level, or a target, or a target and a level
joined by `=`, where a span and a field in brackets may follow the target. A directive without a
target is for all events, one with a target for those whose target starts with it, one with fields
for those that have these fields. One that names a span, or a value of a field, is for events in
such a span only. A value is a number or a pattern.

Blanks around a directive are passed over when it is read, and yet they count: its parts are cut out
of the text with the blanks, at the places where they stand in the text without them.

Of the directives that are for an event, the most specific one decides whether its level is shown:
the one with the longest target, then the one with most fields. Without any directive, errors are
shown.

Main statements:

* `admits_of_nil`: without directives errors are shown and nothing else.
* `read_level`: the name of a level is a directive for all events.
-/

namespace Telemetry.Runner

/-- What is wrong with a directive. -/
inductive DirectiveFault
  | malformed
  | level
  | field (fault : Pattern.Fault)
  deriving DecidableEq, Repr

def DirectiveFault.message : DirectiveFault → String
  | malformed => "invalid filter directive"
  | level => "error parsing level filter: expected one of \"off\", \"error\", \"warn\", " ++
      "\"info\", \"debug\", \"trace\", or a number 0-5"
  | field fault => "invalid field filter: " ++ fault.message

/-- A directive of a filter. Its verbosity is zero for nothing and five for everything. -/
structure Directive where
  target : Option (List Char) := none
  fields : List (List Char) := []
  inSpan : Bool := false
  verbosity : Nat := 5
  deriving DecidableEq, Repr

namespace Directive

/-! ## Reading -/

/-- The names of the levels, from nothing to everything. -/
def levelNames : List (List Char) :=
  ["off", "error", "warn", "info", "debug", "trace"].map String.toList

/-- The verbosity that a text names, by a number or by a word without regard to case. -/
def verbosity? (s : List Char) : Option Nat :=
  match Text.number? s with
  | some n => if n < levelNames.length then some n else none
  | none =>
    let lowered := s.map Char.toLower
    if levelNames.contains lowered then some (levelNames.idxOf lowered) else none

/-- The directive of a text without `=` and brackets: a level, or a target that is shown in full. -/
def ofWord (s : List Char) : Directive :=
  match verbosity? s with
  | some v => { verbosity := v }
  | none => { target := some s }

/-- Sets the level of a directive. A text that is empty means everything. -/
def withLevel (d : Directive) (s : List Char) : Except DirectiveFault Directive :=
  if s.isEmpty then .ok { d with verbosity := 5 }
  else
    match verbosity? s with
    | some v => .ok { d with verbosity := v }
    | none => .error .level

/-- What is wrong with the value that a field of a span has to have. -/
def valueFault? (value : List Char) : Option Pattern.Fault :=
  if Text.isNumeral value then none else Pattern.fault? value

/-- Adds a field, which may name a value that a span has to have. What follows a second equals sign
does not count. -/
def withField (d : Directive) (field : List Char) : Except DirectiveFault Directive :=
  let name := field.takeWhile (· != '=')
  match field.dropWhile (· != '=') with
  | [] =>
    if name.isEmpty then .error .malformed else .ok { d with fields := d.fields ++ [name] }
  | _ :: behind =>
    match valueFault? (behind.takeWhile (· != '=')) with
    | some fault => .error (.field fault)
    | none => .ok { d with fields := d.fields ++ [name], inSpan := true }

/-- Whether a directive may start with a character. -/
def mayStart (c : Char) : Bool :=
  Text.isAlphanumeric c || c ∈ ['-', ':', '_']

end Directive

/-- What a reader of a directive is in, with the place where that starts. -/
inductive DirectiveCursor
  | start
  | word (start : Nat)
  | span (start : Nat)
  | field (start : Nat)
  | behindField
  | behindSpan
  | level (start : Nat)
  deriving DecidableEq, Repr

/-- A reader of a directive: what it has read, where it stands, and what it is in. -/
structure DirectiveReader where
  directive : Directive := {}
  place : Nat := 0
  cursor : DirectiveCursor := .start
  deriving DecidableEq, Repr

namespace DirectiveReader

/-- The reader behind a character, in something else or with more read. -/
def move (r : DirectiveReader) (c : Char) (cursor : DirectiveCursor)
    (directive : Directive) : DirectiveReader :=
  ⟨directive, r.place + c.utf8Size, cursor⟩

/-- Reads the next character. Parts are cut out of a text. -/
def next (text : List Char) (r : DirectiveReader) (c : Char) :
    Except DirectiveFault DirectiveReader :=
  let behind := r.place + c.utf8Size
  let part (start : Nat) : List Char := Text.slice text start r.place
  let stay : DirectiveReader := r.move c r.cursor r.directive
  match r.cursor with
  | .start =>
    if c = '[' then .ok (r.move c (.span behind) r.directive)
    else if Directive.mayStart c then .ok (r.move c (.word r.place) r.directive)
    else .error .malformed
  | .word start =>
    let targeted : Directive := { r.directive with target := some (part start) }
    if c = '=' then .ok (r.move c (.level behind) targeted)
    else if c = '[' then .ok (r.move c (.span behind) targeted)
    else .ok stay
  | .span start =>
    if c = ']' then .ok (r.move c .behindSpan { r.directive with inSpan := true })
    else if c = '\x7b' then
      .ok (r.move c (.field behind) { r.directive with inSpan := !(part start).isEmpty })
    else .ok stay
  | .field start =>
    if c = '\x7d' then (r.directive.withField (part start)).map (r.move c .behindField)
    else .ok stay
  | .behindField => if c = ']' then .ok (r.move c .behindSpan r.directive) else .error .malformed
  | .behindSpan => if c = '=' then .ok (r.move c (.level behind) r.directive) else .error .malformed
  | .level _ => .ok stay

/-- The directive at the end of a text. -/
def finish (text : List Char) (r : DirectiveReader) : Except DirectiveFault Directive :=
  match r.cursor with
  | .word start => .ok (Directive.ofWord (Text.dropBytes start text))
  | .level start => r.directive.withLevel (Text.dropBytes start text)
  | .behindSpan => .ok r.directive
  | _ => .error .malformed

end DirectiveReader

namespace Directive

def read (text : List Char) : Except DirectiveFault Directive :=
  ((Text.trimChars text).foldlM (DirectiveReader.next text) {}).bind (DirectiveReader.finish text)

theorem read_level :
    ∀ s ∈ levelNames, (read s).toOption = some { verbosity := levelNames.idxOf s } := by
  decide +kernel

/-! ## Order and match -/

/-- Whether a directive is more specific than another one. -/
def isBefore (d e : Directive) : Bool :=
  let size (t : Option (List Char)) : Nat := t.elim 0 (·.length + 1)
  let key (t : Directive) : List Char := t.target.getD []
  if size d.target ≠ size e.target then size e.target < size d.target
  else if d.fields.length ≠ e.fields.length then e.fields.length < d.fields.length
  else if key d ≠ key e then key e < key d
  else e.fields < d.fields

/-- Puts a directive among others that are in order. It replaces one for the same events. -/
def insert (d : Directive) : List Directive → List Directive
  | [] => [d]
  | e :: rest =>
    if d.target = e.target ∧ d.fields = e.fields then d :: rest
    else if d.isBefore e then d :: e :: rest
    else e :: insert d rest

/-- Whether a directive is for an event. -/
def covers (d : Directive) (e : Event) : Bool :=
  (d.target.all fun target => target.isPrefixOf e.target.toList) &&
    d.fields.all fun name => e.fields.any fun field => field.1.toList = name

end Directive

/-- A filter: its directives for events, the most specific one first. -/
structure Filter where
  directives : List Directive
  deriving DecidableEq, Repr

namespace Filter

/-- The filter of some directives. Those for spans only count as directives, but are for no event
outside a span. -/
def ofDirectives (ds : List Directive) : Filter :=
  if ds.isEmpty then ⟨[{ verbosity := 1 }]⟩
  else ⟨(ds.filter (!·.inSpan)).foldl (fun sorted d => d.insert sorted) []⟩

/-- The texts of the directives of a filter. -/
def pieces (s : String) : List (List Char) :=
  (s.toList.splitOn ',').filter (!·.isEmpty)

/-- The filter of a text, if every directive is well formed. -/
def parse? (s : String) : Option Filter :=
  ((pieces s).mapM fun piece => (Directive.read piece).toOption).map ofDirectives

/-- The complaint about a directive that is malformed. -/
def complaint (piece : List Char) : Option String :=
  match Directive.read piece with
  | .ok _ => none
  | .error fault => some ("ignoring `" ++ String.ofList piece ++ "`: " ++ fault.message)

/-- The filter of a text without its malformed directives, and the complaints about these. -/
def parseLossy (s : String) : Filter × List String :=
  (ofDirectives ((pieces s).filterMap fun piece => (Directive.read piece).toOption),
    (pieces s).filterMap complaint)

/-- The filter of a text that may be missing or malformed, or else that of another one. -/
def choose (preferred : Option String) (fallback : String) : Filter × List String :=
  match preferred.bind parse? with
  | some filter => (filter, [])
  | none => parseLossy fallback

/-- Whether an event is shown. -/
def admits (f : Filter) (e : Event) : Bool :=
  match f.directives.find? (·.covers e) with
  | none => false
  | some d => e.level.verbosity ≤ d.verbosity

/-- Without directives, errors are shown and nothing else. -/
theorem admits_of_nil (e : Event) :
    (ofDirectives []).admits e = true ↔ e.level = .error := by
  cases h : e.level <;>
    simp [ofDirectives, admits, Directive.covers, EventLevel.verbosity, h]

end Filter

end Telemetry.Runner
