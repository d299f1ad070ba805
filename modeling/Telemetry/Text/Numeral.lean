import Telemetry.Text.Blank
import Telemetry.Text.Digits
import Telemetry.Text.LowerCase

/-!
# Numerals

A numeral is a number with an optional sign, an optional fraction and an optional exponent, or a
word for infinity or for what is no number. There is at least one digit before the exponent, and the
point may stand before or after all of them.

Main statement: `isNumeral_of_digits`, digits alone are a numeral.
-/

namespace Telemetry.Text

/-- The words that stand for infinity and for what is no number, in lower case. -/
def numeralWords : List (List Char) :=
  ["inf", "infinity", "nan"].map String.toList

/-- A text without the sign at its start. -/
def dropSign : List Char → List Char
  | '+' :: rest => rest
  | '-' :: rest => rest
  | all => all

/-- At least one digit and nothing else. -/
def isDigits (s : List Char) : Bool :=
  !s.isEmpty && s.all Char.isDigit

/-- Digits with at most one point among them. -/
def isMantissa (s : List Char) : Bool :=
  isDigits (s.takeWhile (· != '.') ++ (s.dropWhile (· != '.')).drop 1)

/-- An exponent with its letter, or nothing. -/
def isExponent (s : List Char) : Bool :=
  s.isEmpty || isDigits (dropSign (s.drop 1))

def opensExponent (c : Char) : Bool :=
  c == 'e' || c == 'E'

def isNumeral (s : List Char) : Bool :=
  let unsigned := dropSign s
  numeralWords.contains (unsigned.map lowerAsciiChar) ||
    isMantissa (unsigned.takeWhile (!opensExponent ·)) &&
      isExponent (unsigned.dropWhile (!opensExponent ·))

theorem dropSign_of_digits {s : List Char} (h : ∀ c ∈ s, c.isDigit) : dropSign s = s := by
  unfold dropSign
  split
  · exact absurd (h '+' List.mem_cons_self) (by decide)
  · exact absurd (h '-' List.mem_cons_self) (by decide)
  · rfl

theorem isNumeral_of_digits {s : List Char} (nonempty : s ≠ []) (h : ∀ c ∈ s, c.isDigit) :
    isNumeral s = true := by
  have noPoint : ∀ c ∈ s, (c != '.') = true := by
    intro c hc
    refine bne_iff_ne.2 ?_
    rintro rfl
    exact absurd (h '.' hc) (by decide)
  have noExponent : ∀ c ∈ s, (!opensExponent c) = true := by
    intro c hc
    false_or_by_contra
    rename_i opens
    simp only [opensExponent, Bool.not_eq_true', Bool.not_eq_false, Bool.or_eq_true,
      beq_iff_eq] at opens
    rcases opens with rfl | rfl
    · exact absurd (h 'e' hc) (by decide)
    · exact absurd (h 'E' hc) (by decide)
  have all : s.all Char.isDigit = true := List.all_eq_true.2 h
  have mantissa : isMantissa s = true := by
    simp [isMantissa, isDigits, takeWhile_of_all noPoint, dropWhile_of_all noPoint, nonempty, all]
  simp [isNumeral, dropSign_of_digits h, takeWhile_of_all noExponent, dropWhile_of_all noExponent,
    mantissa, isExponent]

end Telemetry.Text
