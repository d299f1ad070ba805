import Telemetry.Decimal.Shortest

/-!
# Layouts of decimal numbers

A layout says how the digits of a number are arranged: in which range the point is written in its
place, what a whole number looks like, and how the values without digits are spelled. The library
has two layouts, `plain` for fields that a caller adds to an entry and `general` for the fields of
an event.
-/

namespace Telemetry.Decimal

/-- How a decimal is written. The point stands at its place when the count of digits before it lies
between `positionalFrom` and `positionalTo`; other numbers have an exponent. Without these bounds
no number has one. -/
structure Layout where
  positionalFrom : Option Int
  positionalTo : Option Int
  wholePoint : Bool

/-- Never an exponent, and no point in a whole number. -/
def plain : Layout := ⟨none, none, false⟩

/-- An exponent from `10 ^ 16` on and below `10 ^ -4`, and `.0` after a whole number. -/
def general : Layout := ⟨some (-3), some 16, true⟩

namespace Layout

/-- Whether a number with the point after `place` digits is written without an exponent. -/
def isPositional (l : Layout) (place : Int) : Bool :=
  (l.positionalFrom.all fun low => low ≤ place) && l.positionalTo.all fun high => place ≤ high

/-- The digits with the point after the first `place` of them. -/
def positional (l : Layout) (digits : List Char) (place : Int) : List Char :=
  if place ≤ 0 then
    ['0', '.'] ++ List.replicate (-place).toNat '0' ++ digits
  else
    let count := place.toNat
    if digits.length ≤ count then
      digits ++ List.replicate (count - digits.length) '0' ++
        (if l.wholePoint then ['.', '0'] else [])
    else digits.take count ++ ['.'] ++ digits.drop count

/-- The digits with the point after the first one, and an exponent. -/
def scientific (digits : List Char) (place : Int) : List Char :=
  let fraction := digits.drop 1
  digits.take 1 ++ (if fraction.isEmpty then [] else '.' :: fraction) ++ ['e'] ++
    (toString (place - 1)).toList

def write (l : Layout) (x : Double) : String :=
  let sign (negative : Bool) : String := if negative then "-" else ""
  match x with
  | .nan => "NaN"
  | .infinite negative => sign negative ++ "inf"
  | .zero negative => sign negative ++ String.ofList (l.positional ['0'] 1)
  | .finite negative size =>
    let (digits, place) := size.shortest.normal
    sign negative ++ String.ofList
      (if l.isPositional place then l.positional digits place else scientific digits place)

end Layout

end Telemetry.Decimal
