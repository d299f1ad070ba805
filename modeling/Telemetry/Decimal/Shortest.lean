/-!
# Shortest decimals of binary floating point numbers

A finite double is `mantissa * 2 ^ exponent`. Every real number in an interval around it rounds to
it, and the shortest decimal of the double is the number with the fewest digits in that interval, of
several such numbers the one nearest to the double, and of two equally near the larger one.

The number is looked for on one decimal grid after the other, beginning with the grid on which it
has a single digit. If any point of a grid lies in the interval, so does one of the two neighbours
of the double on that grid, so only these two are tried.
-/

namespace Telemetry.Decimal

/-- A positive number `mantissa * 2 ^ exponent`. A double whose mantissa is the least one of its
exponent lies half as far from its lower neighbour as from its upper one. -/
structure Binary where
  mantissa : Nat
  exponent : Int
  atBoundary : Bool
  deriving DecidableEq, Repr

/-- The decimal `coefficient * 10 ^ exponent`. -/
structure Scaled where
  coefficient : Nat
  exponent : Int
  deriving DecidableEq, Repr

/-- A quotient of two natural numbers, which stand for `value * base ^ exponent`. -/
def ratio (value base : Nat) (exponent : Int) : Nat × Nat :=
  if 0 ≤ exponent then (value * base.pow exponent.toNat, 1) else (value, base.pow (-exponent).toNat)

namespace Binary

/-- The ends of the interval that rounds to the number, and the number itself, as three numerators
and their common denominator. -/
def interval (b : Binary) : Nat × Nat × Nat × Nat :=
  let (scale, den) := ratio 1 2 (b.exponent - 2)
  let below := if b.atBoundary then 1 else 2
  ((4 * b.mantissa - below) * scale, 4 * b.mantissa * scale, (4 * b.mantissa + 2) * scale, den)

/-- The place of the first digit: the least `e` with `num / den < 10 ^ e`. A positive double is not
below `10 ^ -400`. -/
def magnitude (num den : Nat) : Int :=
  if den ≤ num then ((Nat.toDigits 10 (num / den)).length : Int)
  else
    match (List.range 400).find? fun k => den ≤ num * Nat.pow 10 (k + 1) with
    | some k => -(k : Int)
    | none => -400

/-- The neighbour of the number on the grid of step `10 ^ place` that rounds to it, if one does. -/
def onGrid? (b : Binary) (place : Int) : Option Scaled :=
  let (low, num, high, den) := b.interval
  let (step, part) := ratio 1 10 place
  let unit := step * den
  let rounds (c : Nat) : Bool :=
    if b.mantissa % 2 = 0 then low * part ≤ c * unit && c * unit ≤ high * part
    else low * part < c * unit && c * unit < high * part
  let floor := num * part / unit
  let rest := num * part % unit
  match rounds floor, rounds (floor + 1) with
  | true, true => some ⟨if 2 * rest < unit then floor else floor + 1, place⟩
  | true, false => some ⟨floor, place⟩
  | false, true => some ⟨floor + 1, place⟩
  | false, false => none

/-- The shortest decimal that rounds to the number. Seventeen digits always suffice. -/
def shortest (b : Binary) : Scaled :=
  let (_, num, _, den) := b.interval
  let top := magnitude num den
  ((List.range 17).findSome? fun n => b.onGrid? (top - (n + 1 : Nat))).getD ⟨0, 0⟩

end Binary

/-- A double, by its kind. -/
inductive Double
  | nan
  | infinite (negative : Bool)
  | zero (negative : Bool)
  | finite (negative : Bool) (size : Binary)
  deriving DecidableEq, Repr

/-- The double with the given bits: a sign, eleven bits of exponent and 52 bits of mantissa. -/
def Double.ofBits (bits : UInt64) : Double :=
  let n := bits.toNat
  let negative : Bool := Nat.pow 2 63 ≤ n
  let exponent : Nat := n / Nat.pow 2 52 % Nat.pow 2 11
  let fraction : Nat := n % Nat.pow 2 52
  if exponent = 2047 then
    if fraction = 0 then .infinite negative else .nan
  else if exponent = 0 then
    if fraction = 0 then .zero negative else .finite negative ⟨fraction, -1074, false⟩
  else
    .finite negative ⟨Nat.pow 2 52 + fraction, (exponent : Int) - 1075, fraction = 0 && exponent ≠ 1⟩

/-- The digits without trailing zeros and the place of the decimal point counted from their
start. -/
def Scaled.normal (d : Scaled) : List Char × Int :=
  let digits := Nat.toDigits 10 d.coefficient
  ((digits.reverse.dropWhile (· == '0')).reverse, digits.length + d.exponent)

end Telemetry.Decimal
