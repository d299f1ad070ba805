/-!
# Blank characters and trimming

A character is blank when it has the Unicode property White_Space. `trim` takes the blank characters
off both ends of a text and leaves those inside it.

Main statements:

* `isBlank_of_isWhitespace`: every character that core calls white space is blank.
* `trimStart_append_of_blank`, `trimEnd_append_of_blank`, `trimChars_pad`: padding disappears.
* `trimChars_append_cons`: a character that is not blank divides trimming in two.
* `trimChars_eq_nil_iff`: nothing is left of a text just if all of it is blank.
* `trimChars_of_isTrimmed`, `isTrimmed_trimChars`: what is left has no blanks at its ends, and such
  a text is left as it is.
-/

namespace Telemetry.Text

/-- The characters with the Unicode property White_Space. -/
def isBlank (c : Char) : Bool :=
  let n := c.toNat
  (0x09 ≤ n && n ≤ 0x0D) || n == 0x20 || n == 0x85 || n == 0xA0 || n == 0x1680 ||
    (0x2000 ≤ n && n ≤ 0x200A) || n == 0x2028 || n == 0x2029 || n == 0x202F || n == 0x205F ||
    n == 0x3000

/-- Removes the characters of a class from the end of a list. -/
def dropEndWhile (p : Char → Bool) (s : List Char) : List Char :=
  (s.reverse.dropWhile p).reverse

/-- Removes the blank characters at the start. -/
def trimStart (s : List Char) : List Char :=
  s.dropWhile isBlank

/-- Removes the blank characters at the end. -/
def trimEnd (s : List Char) : List Char :=
  dropEndWhile isBlank s

/-- Removes the blank characters at both ends. -/
def trimChars (s : List Char) : List Char :=
  trimEnd (trimStart s)

/-- Removes the blank characters at both ends of a string. -/
def trim (s : String) : String :=
  String.ofList (trimChars s.toList)

theorem isBlank_of_isWhitespace {c : Char} (h : c.isWhitespace) : isBlank c := by
  simp only [Char.isWhitespace, Bool.or_eq_true, decide_eq_true_eq] at h
  rcases h with ((h | h) | h) | h <;> subst h <;> decide

theorem dropWhile_of_all {p : Char → Bool} {pad : List Char} (h : ∀ c ∈ pad, p c) :
    pad.dropWhile p = [] := by
  induction pad with
  | nil => rfl
  | cons c rest ih =>
    rw [List.dropWhile_cons_of_pos (h c List.mem_cons_self)]
    exact ih fun d hd => h d (List.mem_cons_of_mem c hd)

theorem dropWhile_eq_nil_iff {p : Char → Bool} {s : List Char} :
    s.dropWhile p = [] ↔ ∀ c ∈ s, p c := by
  refine ⟨fun empty c hc => ?_, dropWhile_of_all⟩
  have parts := List.takeWhile_append_dropWhile (p := p) (l := s)
  rw [empty, List.append_nil] at parts
  exact List.all_eq_true.mp List.all_takeWhile c (parts.symm ▸ hc)

theorem takeWhile_of_all {p : Char → Bool} {s : List Char} (h : ∀ c ∈ s, p c) :
    s.takeWhile p = s := by
  have parts := List.takeWhile_append_dropWhile (p := p) (l := s)
  rwa [dropWhile_of_all h, List.append_nil] at parts

theorem trimStart_append_of_blank {pad : List Char} (h : ∀ c ∈ pad, isBlank c) (s : List Char) :
    trimStart (pad ++ s) = trimStart s := by
  simp [trimStart, List.dropWhile_append, dropWhile_of_all h]

theorem dropEndWhile_append {p : Char → Bool} {pad : List Char} (h : ∀ c ∈ pad, p c)
    (s : List Char) : dropEndWhile p (s ++ pad) = dropEndWhile p s := by
  have h' : ∀ c ∈ pad.reverse, p c := fun c hc => h c (List.mem_reverse.1 hc)
  simp [dropEndWhile, List.dropWhile_append, dropWhile_of_all h']

theorem dropEndWhile_eq_nil_iff {p : Char → Bool} {s : List Char} :
    dropEndWhile p s = [] ↔ ∀ c ∈ s, p c := by
  rw [dropEndWhile, List.reverse_eq_nil_iff, dropWhile_eq_nil_iff]
  simp only [List.mem_reverse]

/-- What is taken off the end of a text is taken off its last part, if something is left of that. -/
theorem dropEndWhile_append_of_ne_nil {p : Char → Bool} {t : List Char}
    (left : dropEndWhile p t ≠ []) (s : List Char) :
    dropEndWhile p (s ++ t) = s ++ dropEndWhile p t := by
  have some_left : t.reverse.dropWhile p ≠ [] := mt List.reverse_eq_nil_iff.mpr left
  simp [dropEndWhile, List.dropWhile_append, some_left]

theorem dropEndWhile_append_cons {p : Char → Bool} {c : Char} (stays : p c = false)
    (s t : List Char) : dropEndWhile p (s ++ c :: t) = s ++ c :: dropEndWhile p t := by
  cases rest : t.reverse.dropWhile p <;>
    simp [dropEndWhile, List.dropWhile_append, rest, stays]

theorem dropEndWhile_of_last {p : Char → Bool} {s : List Char}
    (stays : ∀ c ∈ s.getLast?, p c = false) : dropEndWhile p s = s := by
  cases ending : s.getLast? with
  | none =>
    rw [List.getLast?_eq_none_iff.mp ending]
    rfl
  | some c =>
    obtain ⟨before, rfl⟩ := List.getLast?_eq_some_iff.mp ending
    exact dropEndWhile_append_cons (stays c ending) before []

theorem exists_append_of_dropEndWhile (p : Char → Bool) (s : List Char) :
    ∃ pad, (∀ c ∈ pad, p c = true) ∧ s = dropEndWhile p s ++ pad := by
  refine ⟨(s.reverse.takeWhile p).reverse, fun c hc => ?_, ?_⟩
  · exact List.all_eq_true.mp List.all_takeWhile c (List.mem_reverse.mp hc)
  · rw [dropEndWhile, ← List.reverse_append, List.takeWhile_append_dropWhile, List.reverse_reverse]

theorem dropEndWhile_prefix (p : Char → Bool) (s : List Char) : dropEndWhile p s <+: s := by
  have suffix := List.dropWhile_suffix p (l := s.reverse)
  simpa [dropEndWhile] using List.reverse_prefix.mpr suffix

theorem trimEnd_append_of_blank {pad : List Char} (h : ∀ c ∈ pad, isBlank c) (s : List Char) :
    trimEnd (s ++ pad) = trimEnd s :=
  dropEndWhile_append h s

theorem trimChars_eq_nil_iff {s : List Char} : trimChars s = [] ↔ ∀ c ∈ s, isBlank c := by
  rw [trimChars, trimEnd, dropEndWhile_eq_nil_iff]
  constructor
  · intro kept c hc
    rw [← List.takeWhile_append_dropWhile (p := isBlank) (l := s)] at hc
    rcases List.mem_append.mp hc with first | last
    · exact List.all_eq_true.mp List.all_takeWhile c first
    · exact kept c last
  · intro blank
    simp [trimStart, dropWhile_of_all blank]

theorem trimChars_sublist (s : List Char) : (trimChars s).Sublist s := by
  have ending : trimChars s <+: trimStart s := dropEndWhile_prefix isBlank _
  exact ending.sublist.trans (List.dropWhile_sublist isBlank)

theorem trimStart_append_cons {c : Char} (dark : isBlank c = false) (s t : List Char) :
    trimStart (s ++ c :: t) = trimStart s ++ c :: t := by
  cases rest : s.dropWhile isBlank <;> simp [trimStart, List.dropWhile_append, rest, dark]

/-- A character that is not blank divides trimming in two. -/
theorem trimChars_append_cons {c : Char} (dark : isBlank c = false) (s t : List Char) :
    trimChars (s ++ c :: t) = trimStart s ++ c :: trimEnd t := by
  rw [trimChars, trimStart_append_cons dark, trimEnd, dropEndWhile_append_cons dark, trimEnd]

theorem trimChars_pad {a b : List Char} (before : ∀ c ∈ a, isBlank c)
    (behind : ∀ c ∈ b, isBlank c) (s : List Char) : trimChars (a ++ s ++ b) = trimChars s := by
  rw [List.append_assoc, trimChars, trimStart_append_of_blank before, trimChars]
  by_cases blank : ∀ c ∈ s, isBlank c
  · have both : ∀ c ∈ s ++ b, isBlank c := fun c hc =>
      (List.mem_append.mp hc).elim (blank c) (behind c)
    rw [trimStart, dropWhile_of_all both, trimStart, dropWhile_of_all blank]
  · have left : s.dropWhile isBlank ≠ [] := mt dropWhile_eq_nil_iff.mp blank
    have cut : trimStart (s ++ b) = trimStart s ++ b := by
      simp [trimStart, List.dropWhile_append, left]
    rw [cut, trimEnd_append_of_blank behind]

theorem trimChars_trimStart (s : List Char) : trimChars (trimStart s) = trimChars s := by
  have parts := List.takeWhile_append_dropWhile (p := isBlank) (l := s)
  have off : ∀ c ∈ s.takeWhile isBlank, isBlank c := List.all_eq_true.mp List.all_takeWhile
  have padded := trimChars_pad off (b := []) (by simp) (s.dropWhile isBlank)
  rwa [parts, List.append_nil, eq_comm] at padded

theorem trimChars_trimEnd (s : List Char) : trimChars (trimEnd s) = trimChars s := by
  obtain ⟨pad, off, parts⟩ := exists_append_of_dropEndWhile isBlank s
  have padded := trimChars_pad (a := []) (by simp) off (trimEnd s)
  rwa [List.nil_append, trimEnd, ← parts, eq_comm] at padded

/-! ## Trimmed texts -/

/-- A text without blank characters at its ends. -/
structure IsTrimmed (s : List Char) : Prop where
  first : ∀ c ∈ s.head?, isBlank c = false
  last : ∀ c ∈ s.getLast?, isBlank c = false

theorem trimStart_of_first {s : List Char} (first : ∀ c ∈ s.head?, isBlank c = false) :
    trimStart s = s := by
  cases s with
  | nil => rfl
  | cons c rest => simp [trimStart, first c rfl]

theorem trimChars_of_isTrimmed {s : List Char} (trimmed : IsTrimmed s) : trimChars s = s := by
  rw [trimChars, trimStart_of_first trimmed.first, trimEnd, dropEndWhile_of_last trimmed.last]

/-- A text that trimming leaves as it is has no blanks at its ends, which would be taken off. -/
theorem isTrimmed_of_trimChars {s : List Char} (same : trimChars s = s) : IsTrimmed s := by
  have no_pad (a t b : List Char) (cut : s = a ++ t ++ b) (before : ∀ c ∈ a, isBlank c)
      (behind : ∀ c ∈ b, isBlank c) : a = [] ∧ b = [] := by
    have shorter := (trimChars_sublist t).length_le
    rw [← trimChars_pad before behind, ← cut, same, cut] at shorter
    simp only [List.length_append] at shorter
    exact ⟨List.length_eq_zero_iff.mp (by omega), List.length_eq_zero_iff.mp (by omega)⟩
  refine ⟨fun c first => Bool.eq_false_iff.mpr fun blank => ?_,
    fun c last => Bool.eq_false_iff.mpr fun blank => ?_⟩
  · obtain ⟨rest, cut⟩ := List.head?_eq_some_iff.mp first
    have none_before := (no_pad [c] rest [] (by simp [cut]) (by simp [blank]) (by simp)).1
    cases none_before
  · obtain ⟨before, cut⟩ := List.getLast?_eq_some_iff.mp last
    have none_behind := (no_pad [] before [c] (by simp [cut]) (by simp) (by simp [blank])).2
    cases none_behind

instance (s : List Char) : Decidable (IsTrimmed s) :=
  decidable_of_iff (trimChars s = s) ⟨isTrimmed_of_trimChars, trimChars_of_isTrimmed⟩

theorem isTrimmed_trimChars (s : List Char) : IsTrimmed (trimChars s) :=
  isTrimmed_of_trimChars ((trimChars_trimEnd (trimStart s)).trans (trimChars_trimStart s))

@[simp] theorem toList_trim (s : String) : (trim s).toList = trimChars s.toList := by
  simp [trim]

end Telemetry.Text
