/-!
# Slices

A place in a text is counted in bytes of its UTF-8 form. A slice is what stands between two places.
A character that a place falls into belongs to the part before it.

Main statements:

* `dropBytes_append`: what stands behind the bytes of a text is the rest.
* `takeBytes_append`: what stands within them is the text.
* `contains_iff`: a text contains its infixes.
-/

namespace Telemetry.Text

/-- The number of bytes of a text. -/
def byteLength : List Char → Nat
  | [] => 0
  | c :: rest => c.utf8Size + byteLength rest

/-- What stands behind a place. -/
def dropBytes : Nat → List Char → List Char
  | 0, s => s
  | _, [] => []
  | n, c :: rest => dropBytes (n - c.utf8Size) rest

/-- What stands before a place. -/
def takeBytes : Nat → List Char → List Char
  | 0, _ => []
  | _, [] => []
  | n, c :: rest => c :: takeBytes (n - c.utf8Size) rest

/-- What stands between two places. -/
def slice (s : List Char) (start stop : Nat) : List Char :=
  takeBytes (stop - start) (dropBytes start s)

/-- Whether a text is a slice of another one. -/
def contains (part : List Char) : List Char → Bool
  | [] => part.isEmpty
  | c :: rest => part.isPrefixOf (c :: rest) || contains part rest

@[simp] theorem dropBytes_zero (s : List Char) : dropBytes 0 s = s := by
  simp [dropBytes]

@[simp] theorem takeBytes_zero (s : List Char) : takeBytes 0 s = [] := by
  simp [takeBytes]

@[simp] theorem byteLength_cons (c : Char) (s : List Char) :
    byteLength (c :: s) = c.utf8Size + byteLength s :=
  rfl

theorem dropBytes_append (s t : List Char) : dropBytes (byteLength s) (s ++ t) = t := by
  induction s with
  | nil => simp [byteLength]
  | cons c rest ih =>
    have positive := c.utf8Size_pos
    have enough : c.utf8Size + byteLength rest ≠ 0 := by omega
    obtain ⟨n, hn⟩ := Nat.exists_eq_succ_of_ne_zero enough
    rw [byteLength_cons, hn, List.cons_append, dropBytes, ← hn, Nat.add_sub_cancel_left, ih]
    exact Nat.succ_ne_zero n

theorem takeBytes_append (s t : List Char) : takeBytes (byteLength s) (s ++ t) = s := by
  induction s with
  | nil => simp [byteLength]
  | cons c rest ih =>
    have positive := c.utf8Size_pos
    have enough : c.utf8Size + byteLength rest ≠ 0 := by omega
    obtain ⟨n, hn⟩ := Nat.exists_eq_succ_of_ne_zero enough
    rw [byteLength_cons, hn, List.cons_append, takeBytes, ← hn, Nat.add_sub_cancel_left, ih]
    exact Nat.succ_ne_zero n

theorem contains_iff {part s : List Char} : contains part s = true ↔ part <:+: s := by
  induction s with
  | nil => simp [contains]
  | cons c rest ih => simp [contains, ih, List.infix_cons_iff]

end Telemetry.Text
