import Telemetry.Pattern.Basic
import Telemetry.Text.Alphanumeric

/-!
# Openings of groups

A parenthesis opens a group. A question mark behind it is followed by a name between angle brackets,
or by flags. Flags that end in a colon belong to the group; flags that end in a closing parenthesis
are no group but hold until the end of the group around them. Each flag stands there once, a dash
turns off those behind it, and no name is given twice.
-/

namespace Telemetry.Pattern

/-- What an opening parenthesis and what follows it begin. -/
inductive Opening
  | group (flags : Flags) (name : Option (List Char))
  | directive (flags : Flags)
  deriving DecidableEq, Repr

/-- Whether a group may have a name. -/
def isGroupName : List Char → Bool
  | [] => false
  | c :: rest =>
    (c == '_' || Text.isAlphabetic c) &&
      rest.all fun c => c ∈ ['_', '.', '[', ']'] || Text.isAlphanumeric c

/-- Reads the name of a group, which none of the names so far is equal to. -/
def readName (f : Flags) (names : List (List Char)) (s : List Char) :
    Option (Opening × List Char) :=
  let name := s.takeWhile (· != '>')
  match s.dropWhile (· != '>') with
  | [] => none
  | _ :: rest =>
    if isGroupName name && !names.contains name then some (.group f (some name), rest) else none

def flagLetters : List Char := ['i', 'm', 's', 'U', 'u', 'R', 'x']

def endsFlags (c : Char) : Bool :=
  c == ':' || c == ')'

/-- Whether letters of flags are known and different, with at most one dash, which is not the
last. -/
def areFlags (letters : List Char) : Bool :=
  letters.all (fun c => c == '-' || c ∈ flagLetters) && decide letters.Nodup &&
    letters.getLast? != some '-'

/-- Flags with some letters put: on before a dash, and off behind it. -/
def Flags.putAll (f : Flags) (letters : List Char) : Flags :=
  let on := (letters.takeWhile (· != '-')).foldl (fun f c => f.put c true) f
  (letters.dropWhile (· != '-')).foldl (fun f c => f.put c false) on

/-- Reads the flags of a group, or flags that hold from here on. The latter are not empty. -/
def readFlags (f : Flags) (s : List Char) : Option (Opening × List Char) :=
  let letters := s.takeWhile (!endsFlags ·)
  if !areFlags letters then none
  else
    match s.dropWhile (!endsFlags ·) with
    | ':' :: rest => some (.group (f.putAll letters) none, rest)
    | ')' :: rest => if letters.isEmpty then none else some (.directive (f.putAll letters), rest)
    | _ => none

/-- Reads what follows an opening parenthesis. -/
def readOpening (f : Flags) (names : List (List Char)) (s : List Char) :
    Option (Opening × List Char) :=
  match f.skip s with
  | '?' :: 'P' :: '<' :: rest => readName f names rest
  | '?' :: '<' :: rest => readName f names rest
  | '?' :: rest => readFlags f rest
  | rest => some (.group f none, rest)

end Telemetry.Pattern
