import Telemetry.Text.Blank

/-!
# Checking URIs

A transport takes an address only if it is a URI: either an authority alone, or a path alone, or a
scheme with an authority and perhaps a path, a query and a fragment. `check` says what is wrong with
a text that is none.

Main statement: `pathAndQuery_of_pathChars`, a text of path characters is a path.
-/

namespace Telemetry.Uri

/-- What is wrong with an address. -/
inductive Fault
  | tooLong
  | empty
  | invalidCharacter
  | invalidFormat
  | invalidAuthority
  | schemeTooLong
  deriving DecidableEq, Repr

def Fault.message : Fault → String
  | tooLong => "uri too long"
  | empty => "empty string"
  | invalidCharacter => "invalid uri character"
  | invalidFormat => "invalid format"
  | invalidAuthority => "invalid authority"
  | schemeTooLong => "scheme too long"

def maxLength : Nat := 65534

def maxSchemeLength : Nat := 64

/-- The most colons that an authority may have before it is refused outright. -/
def maxColons : Nat := 8

/-! ## Scheme -/

def isSchemeChar (c : Char) : Bool :=
  c.isAlphanum || c ∈ ['+', '-', '.', '~']

/-- The schemes that are known, with the mark behind them. -/
def knownSchemes : List (List Char) := ["http://".toList, "https://".toList]

/-- What stands behind the scheme of an address that has one. An address of at most three characters
has none, unless it starts with a known one. -/
def afterScheme? (s : List Char) : Except Fault (Option (List Char)) :=
  match knownSchemes.find? fun known => known.isPrefixOf (s.map Char.toLower) with
  | some known => .ok (some (s.drop known.length))
  | none =>
    if s.length ≤ 3 then .ok none
    else
      match s.span isSchemeChar with
      | (scheme, ':' :: '/' :: '/' :: rest) =>
        if maxSchemeLength < scheme.length then .error .schemeTooLong else .ok (some rest)
      | _ => .ok none

/-! ## Authority -/

def isAuthorityChar (c : Char) : Bool :=
  c.isAlphanum || c ∈ "!$&'()*+,-.:;=@[]_~".toList

/-- What has been seen of an authority. An address in brackets and user information in front make
the colons and percent signs before them count no more. -/
structure AuthorityScan where
  colons : Nat := 0
  opened : Bool := false
  closed : Bool := false
  percent : Bool := false
  atSign : Bool := false
  length : Nat := 0
  deriving DecidableEq, Repr

namespace AuthorityScan

/-- Takes the next character of an authority. -/
def next (scan : AuthorityScan) (c : Char) : Except Fault AuthorityScan :=
  let scan := { scan with length := scan.length + 1 }
  if c = '%' then .ok { scan with percent := true, atSign := false }
  else if !isAuthorityChar c then .error .invalidCharacter
  else if c = ':' then
    if maxColons ≤ scan.colons then .error .invalidAuthority
    else .ok { scan with colons := scan.colons + 1, atSign := false }
  else if c = '[' then
    if scan.percent || scan.opened then .error .invalidAuthority
    else .ok { scan with opened := true, atSign := false }
  else if c = ']' then
    if !scan.opened || scan.closed then .error .invalidAuthority
    else .ok { scan with closed := true, colons := 0, percent := false, atSign := false }
  else if c = '@' then .ok { scan with colons := 0, percent := false, atSign := true }
  else .ok { scan with atSign := false }

/-- Whether the authority may end: brackets match, at most one colon counts, it does not end with an
at sign, and no percent sign counts. -/
def isComplete (scan : AuthorityScan) : Bool :=
  scan.opened == scan.closed && scan.colons ≤ 1 && !scan.atSign && !scan.percent

end AuthorityScan

def endsAuthority (c : Char) : Bool := c ∈ ['/', '?', '#']

/-- Checks the authority at the start of a text, and splits it off. -/
def authority (s : List Char) : Except Fault (List Char × List Char) := do
  let (head, rest) := s.span (!endsAuthority ·)
  let scan ← head.foldlM AuthorityScan.next {}
  if scan.isComplete then return (head, rest) else throw .invalidAuthority

/-! ## Path and query -/

def isQueryChar (c : Char) : Bool :=
  let n := c.toNat
  n == 0x21 || (0x24 ≤ n && n ≤ 0x3B) || n == 0x3D || (0x3F ≤ n && n ≤ 0x7E) || 0x80 ≤ n

def isPathChar (c : Char) : Bool :=
  (isQueryChar c && c != '?' && c != '`') || c == '"'

/-- Checks a path with what follows it. A fragment may hold anything. -/
def pathAndQuery (s : List Char) : Except Fault Unit :=
  match s.dropWhile isPathChar with
  | [] => .ok ()
  | '#' :: _ => .ok ()
  | '?' :: query =>
    match query.dropWhile isQueryChar with
    | [] => .ok ()
    | '#' :: _ => .ok ()
    | _ => .error .invalidCharacter
  | _ => .error .invalidCharacter

/-! ## The whole -/

/-- Checks an address that does not start with a slash. -/
def afterStart (s : List Char) : Except Fault Unit := do
  match ← afterScheme? s with
  | none =>
    let (_, rest) ← authority s
    if rest.isEmpty then return () else throw .invalidFormat
  | some rest =>
    if rest.isEmpty then throw .empty
    let (host, rest) ← authority rest
    if host.isEmpty then throw .invalidFormat
    pathAndQuery rest

/-- Checks an address of a length that is allowed. -/
def checkChars : List Char → Except Fault Unit
  | [] => .error .empty
  | ['/'] => .ok ()
  | ['*'] => .ok ()
  | [c] => do
    let (_, rest) ← authority [c]
    if rest.isEmpty then return () else throw .invalidCharacter
  | '/' :: rest => pathAndQuery ('/' :: rest)
  | chars => afterStart chars

/-- What is wrong with an address, or nothing. -/
def check (s : String) : Option Fault :=
  if maxLength < s.utf8ByteSize then some .tooLong
  else
    match checkChars s.toList with
    | .ok () => none
    | .error fault => some fault

theorem pathAndQuery_of_pathChars {s : List Char} (h : ∀ c ∈ s, isPathChar c) :
    pathAndQuery s = .ok () := by
  simp only [pathAndQuery, Text.dropWhile_of_all h]

end Telemetry.Uri
