import Mathlib.Data.List.Infix
import Telemetry.Endpoint

/-!
# Addresses in normal form

What stands around an endpoint does not count: blanks at both ends, and slashes at the end unless
blanks separate them from the rest. A URL of a signal is in normal form: it has a scheme mark, no
blank at its ends and no slash at its end, so that it is its own base URL, and it ends with the path
of the signal, which is not added a second time.

* `core_pad`, `core_append_slashes`: what does not count.
* `base_of_isNormal`: a URL in normal form is its own base URL.
* `isNormal_signalUrl`: the URLs of the signals are in normal form.
* `occurrences_append_path`: a path that is added stands there once more than before.
-/

namespace Telemetry

namespace Text

/-- The number of places where a text that is not empty stands in another one. -/
def occurrences (part : List Char) : List Char → Nat
  | [] => 0
  | c :: rest => (if part <+: c :: rest then 1 else 0) + occurrences part rest

end Text

namespace Endpoint

variable {endpoint url : List Char}

/-! ## What stands around an endpoint -/

theorem core_pad {before behind : List Char} (blank : ∀ c ∈ before, Text.isBlank c)
    (blank' : ∀ c ∈ behind, Text.isBlank c) (endpoint : List Char) :
    core (before ++ endpoint ++ behind) = core endpoint := by
  rw [core, Text.trimChars_pad blank blank', core]

theorem core_append_slash (dark : ∀ c ∈ endpoint.getLast?, Text.isBlank c = false) :
    core (endpoint ++ ['/']) = core endpoint := by
  obtain ⟨start, cut⟩ : Text.trimStart endpoint <:+ endpoint := List.dropWhile_suffix _
  have ending : ∀ c ∈ (Text.trimStart endpoint).getLast?, Text.isBlank c = false := by
    intro c last
    refine dark c ?_
    rw [← cut, List.getLast?_append, Option.mem_def.mp last]
    rfl
  have trimmed : Text.trimChars endpoint = Text.trimStart endpoint := by
    rw [Text.trimChars, Text.trimEnd, Text.dropEndWhile_of_last ending]
  rw [core, Text.trimChars_append_cons (by decide), core, trimmed]
  exact Text.dropEndWhile_append (by simp [Text.trimEnd, Text.dropEndWhile]) _

/-- Slashes at the end are taken off, unless the endpoint before them ends with a blank. -/
theorem core_append_slashes (dark : ∀ c ∈ endpoint.getLast?, Text.isBlank c = false) (n : Nat) :
    core (endpoint ++ List.replicate n '/') = core endpoint := by
  induction n with
  | zero => simp
  | succ n ih =>
    have still_dark : ∀ c ∈ (endpoint ++ List.replicate n '/').getLast?,
        Text.isBlank c = false := by
      cases n with
      | zero => simpa using dark
      | succ n =>
        rw [List.replicate_succ', ← List.append_assoc]
        simp only [List.getLast?_concat, Option.mem_some_iff, forall_eq']
        decide
    rw [List.replicate_succ', ← List.append_assoc, core_append_slash still_dark, ih]

/-! ## Normal form -/

/-- A URL in normal form: a scheme mark, no blanks at the ends and no slash at the end. -/
structure IsNormal (url : List Char) : Prop where
  marked : schemeMark <:+: url
  trimmed : Text.IsTrimmed url
  closed : ∀ c ∈ url.getLast?, (c == '/') = false

theorem base_of_isNormal (normal : IsNormal url) (insecure : Bool) : base insecure url = url := by
  have core_eq : core url = url := by
    rw [core, Text.trimChars_of_isTrimmed normal.trimmed, Text.dropEndWhile_of_last normal.closed]
  rw [base, core_eq, if_pos (Text.contains_iff.mpr normal.marked)]

theorem marked_base (insecure : Bool) (endpoint : List Char) :
    schemeMark <:+: base insecure endpoint := by
  unfold base
  split
  case isTrue marked => exact Text.contains_iff.mp marked
  case isFalse => exact ⟨scheme insecure, core endpoint, rfl⟩

theorem base_ne_nil (insecure : Bool) (endpoint : List Char) : base insecure endpoint ≠ [] := by
  intro nothing
  have marked := marked_base insecure endpoint
  rw [nothing] at marked
  cases List.infix_nil.mp marked

/-- A base URL does not start with a blank. -/
theorem first_base (insecure : Bool) (endpoint : List Char) :
    ∀ c ∈ (base insecure endpoint).head?, Text.isBlank c = false := by
  unfold base
  split
  case isTrue =>
    intro c first
    obtain ⟨off, trimmed⟩ : core endpoint <+: Text.trimChars endpoint :=
      Text.dropEndWhile_prefix _ _
    refine (Text.isTrimmed_trimChars endpoint).first c ?_
    rw [← trimmed, List.head?_append, Option.mem_def.mp first]
    rfl
  case isFalse =>
    cases insecure <;> simp [scheme] <;> decide

theorem getLast?_path (signal : Signal) : signal.path.toList.getLast? = some 's' := by
  cases signal <;> decide

theorem isNormal_withPath (insecure : Bool) (endpoint : List Char) (signal : Signal) :
    IsNormal (withPath (base insecure endpoint) signal.path.toList) := by
  obtain ⟨before, ends⟩ := suffix_withPath (base insecure endpoint) signal.path.toList
  have last : ∀ c ∈ (withPath (base insecure endpoint) signal.path.toList).getLast?, c = 's' := by
    intro c final
    rw [← ends, List.getLast?_append, getLast?_path] at final
    exact (Option.some.inj final).symm
  have starts := prefix_withPath (base insecure endpoint) signal.path.toList
  refine ⟨(marked_base insecure endpoint).trans starts.isInfix, ⟨?_, ?_⟩, ?_⟩
  · obtain ⟨behind, cut⟩ := starts
    intro c first
    rw [← cut, List.head?_append_of_ne_nil _ (base_ne_nil insecure endpoint)] at first
    exact first_base insecure endpoint c first
  · intro c final
    rw [last c final]
    decide
  · intro c final
    rw [last c final]
    decide

/-! ## Places of a path -/

/-- No path of a signal starts as it ends. -/
theorem eq_nil_or_path_of_border {signal : Signal} {part : List Char}
    (start : part <+: signal.path.toList) (ending : part <:+ signal.path.toList) :
    part = [] ∨ part = signal.path.toList := by
  have borders : ∀ part ∈ signal.path.toList.inits, part <:+ signal.path.toList →
      part = [] ∨ part = signal.path.toList := by
    cases signal <;> decide
  exact borders part ((List.mem_inits _ _).mpr start) ending

/-- A path that is added stands in no other place than at the end. -/
theorem path_prefix_append_iff (signal : Signal) {url : List Char} (some_url : url ≠ []) :
    signal.path.toList <+: url ++ signal.path.toList ↔ signal.path.toList <+: url := by
  refine ⟨fun start => ?_, fun start => start.trans (List.prefix_append _ _)⟩
  rcases List.prefix_or_prefix_of_prefix start (List.prefix_append url signal.path.toList) with
    within | ⟨part, whole⟩
  · exact within
  · -- the path would go on behind the URL with what it starts with
    obtain ⟨rest, cut⟩ := start
    have both : url ++ (part ++ rest) = url ++ signal.path.toList := by
      rw [← List.append_assoc, whole, cut]
    have goes_on : part ++ rest = signal.path.toList := List.append_cancel_left both
    rcases eq_nil_or_path_of_border ⟨rest, goes_on⟩ ⟨url, whole⟩ with rfl | all
    · rw [← whole, List.append_nil]
    · rw [all] at whole
      exact absurd (List.append_left_eq_self.mp whole) some_url

theorem occurrences_append_path (signal : Signal) (url : List Char) :
    Text.occurrences signal.path.toList (url ++ signal.path.toList) =
      Text.occurrences signal.path.toList url + 1 := by
  induction url with
  | nil => cases signal <;> decide
  | cons c rest ih =>
    have here := path_prefix_append_iff signal (List.cons_ne_nil c rest)
    rw [List.cons_append] at here
    simp only [List.cons_append, Text.occurrences, here, ih, Nat.add_assoc]

end Endpoint

namespace Config

variable {c d : Config}

/-- The configuration with another endpoint. -/
def withEndpoint (c : Config) (endpoint : String) : Config := { c with endpoint }

/-- The URLs hang on nothing of the endpoint but what counts of it. -/
theorem urls_of_core {endpoint : String}
    (core : Endpoint.core endpoint.toList = Endpoint.core c.endpoint.toList) (signal : Signal) :
    (c.withEndpoint endpoint).baseUrl = c.baseUrl ∧
      (c.withEndpoint endpoint).signalUrl signal = c.signalUrl signal := by
  simp only [baseUrl, signalUrl, withEndpoint, Endpoint.base, core, and_self]

theorem urls_of_padded {before behind : String} (blank : ∀ x ∈ before.toList, Text.isBlank x = true)
    (blank' : ∀ x ∈ behind.toList, Text.isBlank x = true) (signal : Signal) :
    (c.withEndpoint (before ++ c.endpoint ++ behind)).baseUrl = c.baseUrl ∧
      (c.withEndpoint (before ++ c.endpoint ++ behind)).signalUrl signal = c.signalUrl signal := by
  refine urls_of_core ?_ signal
  rw [String.toList_append, String.toList_append, Endpoint.core_pad blank blank']

theorem urls_of_slashed (dark : ∀ x ∈ c.endpoint.toList.getLast?, Text.isBlank x = false) (n : Nat)
    (signal : Signal) :
    (c.withEndpoint (c.endpoint ++ String.ofList (List.replicate n '/'))).baseUrl = c.baseUrl ∧
      (c.withEndpoint (c.endpoint ++ String.ofList (List.replicate n '/'))).signalUrl signal =
        c.signalUrl signal := by
  refine urls_of_core ?_ signal
  rw [String.toList_append, String.toList_ofList, Endpoint.core_append_slashes dark]

/-- The URL of a signal, taken as an endpoint, is its own URL. -/
theorem signalUrl_of_signalUrl {signal : Signal} (endpoint : d.endpoint = c.signalUrl signal) :
    d.signalUrl signal = c.signalUrl signal := by
  have chars : d.endpoint.toList = Endpoint.withPath
      (Endpoint.base c.insecure c.endpoint.toList) signal.path.toList := by
    rw [endpoint, signalUrl, String.toList_ofList]
  have normal := Endpoint.isNormal_withPath c.insecure c.endpoint.toList signal
  rw [signalUrl, chars, Endpoint.base_of_isNormal normal, signalUrl, Endpoint.withPath,
    if_pos (Endpoint.suffix_withPath _ _)]

theorem signalUrl_eq_or (c : Config) (signal : Signal) :
    c.signalUrl signal = c.baseUrl ∨ c.signalUrl signal = c.baseUrl ++ signal.path := by
  unfold signalUrl baseUrl Endpoint.withPath
  split
  case isTrue => exact Or.inl rfl
  case isFalse => exact Or.inr (by rw [String.ofList_append, String.ofList_toList])

theorem occurrences_signalUrl_le (c : Config) (signal : Signal) :
    Text.occurrences signal.path.toList (c.signalUrl signal).toList ≤
      Text.occurrences signal.path.toList c.baseUrl.toList + 1 := by
  rcases c.signalUrl_eq_or signal with same | added
  · rw [same]
    exact Nat.le_succ _
  · rw [added, String.toList_append, Endpoint.occurrences_append_path]

/-- The URL of a signal is the base URL, with the path of the signal added if it does not end with
it, so that the path stands there at most once more; taken as an endpoint it is its own URL, whether
`insecure` is on or not. Blanks around the endpoint change neither the base URL nor the URL of a
signal, and neither do slashes at its end, unless it ends with a blank. -/
theorem urls_normalised (c : Config) (signal : Signal) :
    signal.path.toList <:+ (c.signalUrl signal).toList ∧
    c.baseUrl.toList <+: (c.signalUrl signal).toList ∧
    (c.signalUrl signal = c.baseUrl ∨ c.signalUrl signal = c.baseUrl ++ signal.path) ∧
    Text.occurrences signal.path.toList (c.signalUrl signal).toList ≤
      Text.occurrences signal.path.toList c.baseUrl.toList + 1 ∧
    (∀ insecure, ({ c with insecure }.withEndpoint (c.signalUrl signal)).signalUrl signal =
      c.signalUrl signal) ∧
    (∀ before behind : String, (∀ x ∈ before.toList, Text.isBlank x = true) →
      (∀ x ∈ behind.toList, Text.isBlank x = true) →
      (c.withEndpoint (before ++ c.endpoint ++ behind)).baseUrl = c.baseUrl ∧
        (c.withEndpoint (before ++ c.endpoint ++ behind)).signalUrl signal = c.signalUrl signal) ∧
    ((∀ x ∈ c.endpoint.toList.getLast?, Text.isBlank x = false) → ∀ n,
      (c.withEndpoint (c.endpoint ++ String.ofList (List.replicate n '/'))).baseUrl = c.baseUrl ∧
        (c.withEndpoint (c.endpoint ++ String.ofList (List.replicate n '/'))).signalUrl signal =
          c.signalUrl signal) := by
  refine ⟨c.signalUrl_endsWith signal, c.baseUrl_prefix_signalUrl signal,
    c.signalUrl_eq_or signal, c.occurrences_signalUrl_le signal,
    fun insecure => signalUrl_of_signalUrl rfl, ?_, ?_⟩
  · intro before behind blank blank'
    exact urls_of_padded blank blank' signal
  · intro dark n
    exact urls_of_slashed dark n signal

/-- A URL with the path inside, but not at its end, keeps its base between blanks and with slashes
at its end. -/
theorem urls_normalised_of_url :
    let c : Config := { enabled := true, endpoint := "https://collector/v1/logs/v1" }
    (c.withEndpoint "\t https://collector/v1/logs/v1\u3000").signalUrl .logs =
        "https://collector/v1/logs/v1/v1/logs" ∧
      (c.withEndpoint "https://collector/v1/logs/v1///").baseUrl =
        "https://collector/v1/logs/v1" := by
  intro c
  obtain ⟨-, -, -, -, -, padded, slashed⟩ := urls_normalised c .logs
  have urls : c.signalUrl .logs = "https://collector/v1/logs/v1/v1/logs" ∧
      c.baseUrl = "https://collector/v1/logs/v1" := by decide +kernel
  have texts : "\t " ++ c.endpoint ++ "\u3000" = "\t https://collector/v1/logs/v1\u3000" ∧
      c.endpoint ++ String.ofList (List.replicate 3 '/') = "https://collector/v1/logs/v1///" := by
    decide +kernel
  have blank : "\t ".toList.all Text.isBlank = true ∧ "\u3000".toList.all Text.isBlank = true := by
    decide +kernel
  have last : c.endpoint.toList.getLast? = some '1' := by decide +kernel
  have dark : ∀ x ∈ c.endpoint.toList.getLast?, Text.isBlank x = false := by
    intro x ends
    obtain rfl := Option.some.inj (last.symm.trans ends)
    decide
  have pad := (padded "\t " "\u3000" (List.all_eq_true.mp blank.1)
    (List.all_eq_true.mp blank.2)).2
  have slash := (slashed dark 3).1
  rw [texts.1, urls.1] at pad
  rw [texts.2, urls.2] at slash
  exact ⟨pad, slash⟩

end Config

end Telemetry
