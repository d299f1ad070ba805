/-!
# Numbers in text

A number is written in decimal digits, at least one, after an optional plus sign. Zeros in front of
it are allowed; a minus sign, blanks and separators are not.

Main statements:

* `number?_toDigits`: the digits of a number are read as that number.
* `number?_plus`: a plus sign in front of them changes nothing.
-/

namespace Telemetry.Text

/-- A text without the plus sign at its start. -/
def dropPlus : List Char → List Char
  | '+' :: rest => rest
  | all => all

/-- The number that decimal digits after an optional plus sign stand for. -/
def number? (s : List Char) : Option Nat :=
  let digits := dropPlus s
  if digits.isEmpty || !digits.all Char.isDigit then none
  else some (Nat.ofDigitChars 10 digits 0)

theorem dropPlus_of_digits {s : List Char} (h : ∀ c ∈ s, c.isDigit) : dropPlus s = s := by
  match s with
  | [] => rfl
  | c :: rest =>
    have hc : c ≠ '+' := by
      rintro rfl
      exact absurd (h '+' List.mem_cons_self) (by decide)
    unfold dropPlus
    split
    · rename_i hs
      exact absurd (List.cons.inj hs).1 hc
    · rfl

theorem number?_of_digits {s : List Char} (nonempty : s ≠ []) (h : ∀ c ∈ s, c.isDigit) :
    number? s = some (Nat.ofDigitChars 10 s 0) := by
  have all : s.all Char.isDigit = true := List.all_eq_true.2 h
  simp [number?, dropPlus_of_digits h, nonempty, all]

theorem number?_plus {s : List Char} (h : ∀ c ∈ s, c.isDigit) : number? ('+' :: s) = number? s := by
  have dropped : dropPlus ('+' :: s) = dropPlus s := (dropPlus_of_digits h).symm
  simp only [number?, dropped]

theorem number?_toDigits (n : Nat) : number? (Nat.toDigits 10 n) = some n := by
  have digits : ∀ c ∈ Nat.toDigits 10 n, c.isDigit := fun _ hc =>
    Nat.isDigit_of_mem_toDigits (by decide) (by decide) hc
  rw [number?_of_digits Nat.toDigits_ne_nil digits, Nat.ofDigitChars_ten_toDigits]

end Telemetry.Text
