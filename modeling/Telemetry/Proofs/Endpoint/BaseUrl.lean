import Mathlib.Data.List.Infix
import Telemetry.Endpoint

/-!
# When a base URL names a collector

A trimmed endpoint falls into a scheme and an address at the first place where a scheme mark stands
in it; without a mark all of it is address, and the scheme hangs on `insecure`. The base URL is
usable if it is that scheme and something behind the mark. It is if the address has anything but
slashes. But slashes at the end are taken off before the mark is looked for, so an endpoint without
such an address may lose its mark with them, and validation, which asks only for an endpoint that is
not blank, does not refuse it.

* `baseUrl_of_namesHost`, `baseUrl_of_not_namesHost`: the base URL in either case.
* `schemeName_eq`: which text the scheme is.
* `baseUrl_usable`: when the base URL is usable.
-/

namespace Telemetry

namespace Text

/-- What stands before and behind the first place where a text stands in another one. -/
def splitAtFirst? (mark : List Char) : List Char → Option (List Char × List Char)
  | [] => if mark.isEmpty then some ([], []) else none
  | c :: rest =>
    if mark.isPrefixOf (c :: rest) then some ([], (c :: rest).drop mark.length)
    else (splitAtFirst? mark rest).map fun (before, behind) => (c :: before, behind)

theorem splitAtFirst?_eq_none_iff {mark s : List Char} :
    splitAtFirst? mark s = none ↔ ¬ mark <:+: s := by
  induction s with
  | nil => simp [splitAtFirst?]
  | cons c rest ih =>
    rw [splitAtFirst?, List.infix_cons_iff]
    by_cases here : mark <+: c :: rest
    · simp [here]
    · simp [here, ih]

/-- The parts make up the text, and the mark stands nowhere before its first place. -/
theorem eq_of_splitAtFirst? {mark s before behind : List Char}
    (split : splitAtFirst? mark s = some (before, behind)) :
    s = before ++ mark ++ behind ∧ ∀ a b, s = a ++ mark ++ b → before.length ≤ a.length := by
  induction s generalizing before with
  | nil =>
    rw [splitAtFirst?] at split
    cases mark with
    | nil =>
      obtain ⟨rfl, rfl⟩ := Prod.mk.inj (Option.some.inj split)
      exact ⟨rfl, fun _ _ _ => Nat.zero_le _⟩
    | cons _ _ => cases split
  | cons c rest ih =>
    rw [splitAtFirst?] at split
    by_cases here : mark <+: c :: rest
    · rw [if_pos (List.isPrefixOf_iff_prefix.mpr here)] at split
      obtain ⟨rfl, rfl⟩ := Prod.mk.inj (Option.some.inj split)
      exact ⟨(List.prefix_append_drop here), fun _ _ _ => Nat.zero_le _⟩
    · rw [if_neg (mt List.isPrefixOf_iff_prefix.mp here)] at split
      obtain ⟨⟨start, behind⟩, later, same⟩ := Option.map_eq_some_iff.mp split
      obtain ⟨rfl, rfl⟩ := Prod.mk.inj same
      obtain ⟨whole, first⟩ := ih later
      refine ⟨by rw [whole]; rfl, ?_⟩
      intro a b cut
      cases a with
      | nil => exact absurd ⟨b, cut.symm⟩ here
      | cons d a =>
        obtain ⟨-, tail⟩ := List.cons.inj cut
        exact Nat.succ_le_succ (first a b tail)

/-- A text with two first places of a mark has the same parts there. -/
theorem splitAtFirst?_of_first {mark s before behind : List Char}
    (whole : s = before ++ mark ++ behind)
    (first : ∀ a b, s = a ++ mark ++ b → before.length ≤ a.length) :
    splitAtFirst? mark s = some (before, behind) := by
  cases split : splitAtFirst? mark s with
  | none => exact absurd ⟨before, behind, whole.symm⟩ (splitAtFirst?_eq_none_iff.mp split)
  | some parts =>
    obtain ⟨before', behind'⟩ := parts
    obtain ⟨whole', first'⟩ := eq_of_splitAtFirst? split
    have lengths : before'.length = before.length :=
      Nat.le_antisymm (first' _ _ whole) (first _ _ whole')
    have same : before' ++ (mark ++ behind') = before ++ (mark ++ behind) := by
      rw [← List.append_assoc, ← List.append_assoc, ← whole, ← whole']
    obtain ⟨rfl, rest⟩ := List.append_inj same lengths
    rw [List.append_cancel_left rest]

end Text

namespace Config

variable (c : Config)

/-- The scheme and the address of an endpoint that has a scheme mark. -/
def parts? : Option (List Char × List Char) :=
  Text.splitAtFirst? Endpoint.schemeMark (Text.trimChars c.endpoint.toList)

/-- The scheme: what stands before the mark, or the one that hangs on `insecure`. -/
def schemeName : List Char :=
  (c.parts?.map Prod.fst).getD (Endpoint.scheme c.insecure)

/-- What stands behind the mark, or the whole endpoint. -/
def address : List Char :=
  (c.parts?.map Prod.snd).getD (Text.trimChars c.endpoint.toList)

/-- Whether the address has anything but slashes. -/
def namesHost : Bool := c.address.any (· != '/')

/-- The base URL is the scheme and something behind its mark. -/
def HasUsableBaseUrl : Prop :=
  ∃ rest, rest ≠ [] ∧ c.baseUrl.toList = c.schemeName ++ Endpoint.schemeMark ++ rest

variable {c}

theorem not_namesHost_iff : c.namesHost = false ↔ ∀ x ∈ c.address, (x == '/') = true := by
  simp [namesHost]

/-- An address has anything but slashes if something is left when the slashes at its end are taken
off. -/
theorem namesHost_iff : c.namesHost = true ↔ Text.dropEndWhile (· == '/') c.address ≠ [] := by
  rw [ne_eq, Text.dropEndWhile_eq_nil_iff, ← not_namesHost_iff, Bool.not_eq_false]

theorem toList_baseUrl : c.baseUrl.toList = Endpoint.base c.insecure c.endpoint.toList := by
  simp [baseUrl]

/-- The scheme is exactly what stands before the first mark of the trimmed endpoint; without a mark
it hangs on `insecure`. -/
theorem schemeName_eq :
    (∀ before behind,
      Text.trimChars c.endpoint.toList = before ++ Endpoint.schemeMark ++ behind →
      (∀ a b, Text.trimChars c.endpoint.toList = a ++ Endpoint.schemeMark ++ b →
        before.length ≤ a.length) → c.schemeName = before) ∧
    (¬ Endpoint.schemeMark <:+: Text.trimChars c.endpoint.toList →
      c.schemeName = Endpoint.scheme c.insecure) := by
  constructor
  · intro before behind whole first
    rw [schemeName, parts?, Text.splitAtFirst?_of_first whole first]
    rfl
  · intro unmarked
    rw [schemeName, parts?, Text.splitAtFirst?_eq_none_iff.mpr unmarked]
    rfl

/-- An endpoint whose address has anything but slashes is not blank. -/
theorem validate_of_namesHost (named : c.namesHost = true) : c.validate = .ok () := by
  have present : Text.trimChars c.endpoint.toList ≠ [] := by
    intro nothing
    have unmarked : c.parts? = none := by
      rw [parts?, nothing]
      rfl
    have left := namesHost_iff.mp named
    rw [address, unmarked, nothing] at left
    exact left rfl
  refine validate_eq_ok_iff.mpr (Or.inr ?_)
  rwa [← Bool.not_eq_true, hasBlankEndpoint_iff, ← Text.trimChars_eq_nil_iff]

/-- If the address has anything but slashes, then the base URL is the scheme and the address without
the slashes at its end. -/
theorem baseUrl_of_namesHost (named : c.namesHost = true) :
    c.baseUrl.toList = c.schemeName ++ Endpoint.schemeMark ++
      Text.dropEndWhile (· == '/') c.address := by
  have left := namesHost_iff.mp named
  rw [toList_baseUrl, Endpoint.base, Endpoint.core]
  cases parts : c.parts? with
  | none =>
    have unmarked : ¬ Endpoint.schemeMark <:+: Text.dropEndWhile (· == '/')
        (Text.trimChars c.endpoint.toList) := fun stands =>
      Text.splitAtFirst?_eq_none_iff.mp parts
        (stands.trans (Text.dropEndWhile_prefix _ _).isInfix)
    rw [if_neg (mt Text.contains_iff.mp unmarked), schemeName, address, parts]
    rfl
  | some split =>
    obtain ⟨name, rest⟩ := split
    have address_eq : c.address = rest := by rw [address, parts]; rfl
    have name_eq : c.schemeName = name := by rw [schemeName, parts]; rfl
    obtain ⟨whole, -⟩ := Text.eq_of_splitAtFirst? parts
    rw [address_eq] at left
    have marked : Endpoint.schemeMark <:+: name ++ Endpoint.schemeMark ++
        Text.dropEndWhile (· == '/') rest := ⟨name, _, rfl⟩
    rw [whole, Text.dropEndWhile_append_of_ne_nil left, if_pos (Text.contains_iff.mpr marked),
      name_eq, address_eq]

/-- If the address has nothing but slashes, then they are all taken off, and a mark before them is
lost: the scheme that hangs on `insecure` is put before what is left. -/
theorem baseUrl_of_not_namesHost (unnamed : c.namesHost = false) :
    c.baseUrl.toList = Endpoint.scheme c.insecure ++ Endpoint.schemeMark ++
      c.parts?.elim [] fun (name, _) => name ++ [':'] := by
  have slashes := not_namesHost_iff.mp unnamed
  rw [toList_baseUrl, Endpoint.base, Endpoint.core]
  cases parts : c.parts? with
  | none =>
    have nothing : Text.dropEndWhile (· == '/') (Text.trimChars c.endpoint.toList) = [] := by
      rw [address, parts] at slashes
      exact Text.dropEndWhile_eq_nil_iff.mpr slashes
    rw [nothing, if_neg (by decide)]
    rfl
  | some split =>
    obtain ⟨name, rest⟩ := split
    have address_eq : c.address = rest := by rw [address, parts]; rfl
    obtain ⟨whole, first⟩ := Text.eq_of_splitAtFirst? parts
    rw [address_eq] at slashes
    have kept : Text.dropEndWhile (· == '/') (Text.trimChars c.endpoint.toList) =
        name ++ [':'] := by
      have off : ∀ x ∈ ['/', '/'] ++ rest, (x == '/') = true := by simpa using slashes
      have cut : name ++ Endpoint.schemeMark ++ rest = name ++ [':'] ++ (['/', '/'] ++ rest) := by
        simp [Endpoint.schemeMark]
      rw [whole, cut, Text.dropEndWhile_append off,
        Text.dropEndWhile_append_of_ne_nil (by decide)]
      rfl
    have unmarked : ¬ Endpoint.schemeMark <:+: name ++ [':'] := by
      rintro ⟨a, b, stands⟩
      -- the mark would stand in the endpoint before its first place
      have earlier := first a (b ++ ['/', '/'] ++ rest) (by
        rw [whole, ← List.append_assoc, ← List.append_assoc, stands]
        simp [Endpoint.schemeMark])
      have length := congrArg List.length stands
      simp only [Endpoint.schemeMark, List.length_append, List.length_cons, List.length_nil]
        at length
      omega
    rw [kept, if_neg (mt Text.contains_iff.mp unmarked)]
    rfl

/-- A mark stands behind the scheme that hangs on `insecure` for the first time. -/
theorem length_scheme_le (insecure : Bool) {a b rest : List Char}
    (cut : Endpoint.scheme insecure ++ Endpoint.schemeMark ++ rest =
      a ++ Endpoint.schemeMark ++ b) : (Endpoint.scheme insecure).length ≤ a.length := by
  by_contra! shorter
  have colon : ':' ∈ Endpoint.scheme insecure := by
    have place := congrArg (·[a.length]?) cut
    simp only [List.append_assoc] at place
    rw [List.getElem?_append_left shorter, List.getElem?_append_right (Nat.le_refl _),
      Nat.sub_self] at place
    exact List.mem_of_getElem? place
  cases insecure <;> revert colon <;> decide

/-- The base URL is usable if the address has anything but slashes. Without such an address it still
has the right form if the scheme that gets lost is the one that is put before the rest. -/
theorem hasUsableBaseUrl_iff : c.HasUsableBaseUrl ↔
    c.namesHost = true ∨ ∃ address, c.parts? = some (Endpoint.scheme c.insecure, address) := by
  cases named : c.namesHost with
  | true =>
    have usable : c.HasUsableBaseUrl :=
      ⟨_, namesHost_iff.mp named, baseUrl_of_namesHost named⟩
    simp [usable]
  | false =>
    have url := baseUrl_of_not_namesHost named
    simp only [Bool.false_eq_true, false_or]
    constructor
    · rintro ⟨rest, some_rest, form⟩
      rw [url, schemeName] at form
      cases parts : c.parts? with
      | none =>
        rw [parts] at form
        exact absurd (List.append_cancel_left form).symm some_rest
      | some split =>
        obtain ⟨name, address⟩ := split
        rw [parts] at form
        replace form : Endpoint.scheme c.insecure ++ Endpoint.schemeMark ++ (name ++ [':']) =
            name ++ Endpoint.schemeMark ++ rest := form
        obtain ⟨whole, first⟩ := Text.eq_of_splitAtFirst? parts
        have longer := length_scheme_le c.insecure form
        -- the first mark of the base URL stands in the endpoint too
        obtain ⟨d, same⟩ : Endpoint.scheme c.insecure ++ Endpoint.schemeMark <+:
            name ++ Endpoint.schemeMark :=
          List.prefix_of_prefix_length_le ⟨_, form⟩ (List.prefix_append _ _) (by simpa using longer)
        have shorter := first (Endpoint.scheme c.insecure) (d ++ address) (by
          rw [whole, ← same, List.append_assoc])
        rw [List.append_assoc, List.append_assoc] at form
        exact ⟨address, by rw [(List.append_inj form (Nat.le_antisymm longer shorter)).1]⟩
    · rintro ⟨address, parts⟩
      refine ⟨Endpoint.scheme c.insecure ++ [':'], by simp, ?_⟩
      rw [url, schemeName, parts]
      rfl

/-- The scheme stands before the first mark of the trimmed endpoint, or it hangs on `insecure`. An
endpoint whose address has anything but slashes is accepted, and its base URL is its scheme and the
address without the slashes at its end. For any other endpoint the base URL is usable only if the
scheme before its mark is the one that hangs on `insecure`. -/
theorem baseUrl_usable (c : Config) :
    let endpoint := Text.trimChars c.endpoint.toList
    (∀ before behind, endpoint = before ++ Endpoint.schemeMark ++ behind →
      (∀ a b, endpoint = a ++ Endpoint.schemeMark ++ b → before.length ≤ a.length) →
        c.schemeName = before) ∧
    (¬ Endpoint.schemeMark <:+: endpoint → c.schemeName = Endpoint.scheme c.insecure) ∧
    (c.namesHost = true → c.validate = .ok () ∧ c.HasUsableBaseUrl ∧
      c.baseUrl.toList = c.schemeName ++ Endpoint.schemeMark ++
        Text.dropEndWhile (· == '/') c.address) ∧
    (c.namesHost = false → c.baseUrl.toList = Endpoint.scheme c.insecure ++ Endpoint.schemeMark ++
      c.parts?.elim [] fun (name, _) => name ++ [':']) ∧
    (c.HasUsableBaseUrl ↔
      c.namesHost = true ∨ ∃ address, c.parts? = some (Endpoint.scheme c.insecure, address)) := by
  refine ⟨schemeName_eq.1, schemeName_eq.2, fun named => ?_, baseUrl_of_not_namesHost,
    hasUsableBaseUrl_iff⟩
  exact ⟨validate_of_namesHost named, hasUsableBaseUrl_iff.mpr (Or.inl named),
    baseUrl_of_namesHost named⟩

/-- A URL with blanks around it and a slash at its end keeps its scheme against `insecure`. -/
theorem baseUrl_usable_of_url :
    let c : Config := { enabled := true, endpoint := " https://collector.internal:4318/ " }
    c.namesHost = true ∧ c.validate = .ok () ∧
      c.baseUrl.toList = "https://collector.internal:4318".toList := by
  intro c
  have named : c.namesHost = true := by decide +kernel
  obtain ⟨-, -, usable, -⟩ := baseUrl_usable c
  obtain ⟨valid, -, url⟩ := usable named
  refine ⟨named, valid, url.trans ?_⟩
  decide +kernel

/-- Validation does not make the base URL usable: an endpoint that is a slash is accepted, and its
base URL ends with the mark. -/
theorem not_usable_of_validate :
    ¬ ∀ c : Config, c.enabled = true → c.validate = .ok () → c.HasUsableBaseUrl := by
  intro usable
  let c : Config := { enabled := true, endpoint := "/" }
  have valid : c.validate = .ok () :=
    validate_eq_ok_iff.mpr (Or.inr (by decide +kernel))
  rcases hasUsableBaseUrl_iff.mp (usable c rfl valid) with named | ⟨address, parts⟩
  · exact absurd named (by decide +kernel)
  · have unmarked : c.parts? = none := by decide +kernel
    rw [unmarked] at parts
    cases parts

end Config

end Telemetry
