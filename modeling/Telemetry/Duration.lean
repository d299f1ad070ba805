/-!
# Durations

A duration counts nanoseconds and is never negative. Its text uses the largest unit in which it has
a whole part, and a fraction without trailing zeros: `1.5ms`, `20s`, `0ns`.

Main statements: `sub_eq_zero_iff` and `le_min_iff`.
-/

namespace Telemetry

/-- A length of time in nanoseconds. -/
structure Duration where
  nanos : Nat
  deriving DecidableEq, Repr

namespace Duration

def zero : Duration := ⟨0⟩

-- the constant comes first: a product is unfolded along its second factor
def ofSecs (n : Nat) : Duration := ⟨1000000000 * n⟩

def ofMillis (n : Nat) : Duration := ⟨n * 1000000⟩

def wholeSecs (d : Duration) : Nat := d.nanos / 1000000000

def add (d e : Duration) : Duration := ⟨d.nanos + e.nanos⟩

/-- What is left of the first duration after the second, zero if nothing is. -/
def sub (d e : Duration) : Duration := ⟨d.nanos - e.nanos⟩

def min (d e : Duration) : Duration := if d.nanos ≤ e.nanos then d else e

instance : LE Duration := ⟨fun d e => d.nanos ≤ e.nanos⟩

instance (d e : Duration) : Decidable (d ≤ e) := inferInstanceAs (Decidable (d.nanos ≤ e.nanos))

theorem le_def {d e : Duration} : d ≤ e ↔ d.nanos ≤ e.nanos := Iff.rfl

@[simp] theorem nanos_zero : zero.nanos = 0 := rfl

@[simp] theorem nanos_add (d e : Duration) : (d.add e).nanos = d.nanos + e.nanos := rfl

@[simp] theorem nanos_sub (d e : Duration) : (d.sub e).nanos = d.nanos - e.nanos := rfl

theorem eq_zero_iff {d : Duration} : d = zero ↔ d.nanos = 0 := by
  cases d; simp [zero]

theorem sub_eq_zero_iff {d e : Duration} : d.sub e = zero ↔ d ≤ e := by
  rw [eq_zero_iff, nanos_sub, le_def]; omega

theorem le_min_iff {c d e : Duration} : c ≤ d.min e ↔ c ≤ d ∧ c ≤ e := by
  simp only [min, le_def]; split <;> omega

/-- A whole part and a fraction that counts parts of `10 ^ places`, without trailing zeros. -/
def decimal (whole fraction places : Nat) : String :=
  if fraction = 0 then toString whole
  else
    let digits := (Nat.toDigits 10 fraction).leftpad places '0'
    toString whole ++ "." ++ String.ofList (digits.reverse.dropWhile (· == '0')).reverse

/-- The duration in the largest unit that has a whole part. -/
def text (d : Duration) : String :=
  let n := d.nanos
  if 1000000000 ≤ n then decimal (n / 1000000000) (n % 1000000000) 9 ++ "s"
  else if 1000000 ≤ n then decimal (n / 1000000) (n % 1000000) 6 ++ "ms"
  else if 1000 ≤ n then decimal (n / 1000) (n % 1000) 3 ++ "µs"
  else toString n ++ "ns"

end Duration

end Telemetry
