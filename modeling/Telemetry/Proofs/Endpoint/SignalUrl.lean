import Mathlib.Data.List.Infix
import Telemetry.Endpoint

/-!
# The URLs of the two signals

A base URL may end with the path of a signal, which is then not added again. Since the path is
looked for by one signal at a time, such a base URL serves as the base of the other signal as it
is: the URL of that one has both paths in it. Unless the base URL carries the path of a signal, both
signals go to one base.

* `carries_iff`: which endpoints carry the path of a signal.
* `exists_common_base_iff`: when both signals go to one base.
-/

namespace Telemetry

namespace Endpoint

/-- What the end of a scheme with its mark and the start of a path have in common. -/
theorem eq_nil_or_slash_of_overlap (insecure : Bool) (signal : Signal) {part : List Char}
    (ending : part <:+ scheme insecure ++ schemeMark) (start : part <+: signal.path.toList) :
    part = [] ∨ part = ['/'] := by
  have overlaps : ∀ part ∈ signal.path.toList.inits, part <:+ scheme insecure ++ schemeMark →
      part = [] ∨ part = ['/'] := by
    cases insecure <;> cases signal <;> decide
  exact overlaps part ((List.mem_inits _ _).mpr start) ending

/-- A base URL ends with the path of a signal if the endpoint does, or if the endpoint is the path
without its first slash, which the mark of the scheme makes up for. -/
theorem path_suffix_base_iff (insecure : Bool) (endpoint : List Char) (signal : Signal) :
    signal.path.toList <:+ base insecure endpoint ↔
      signal.path.toList <:+ core endpoint ∨ core endpoint = signal.path.toList.tail := by
  unfold base
  split
  case isTrue marked =>
    refine ⟨Or.inl, fun either => either.resolve_right fun tail => ?_⟩
    rw [tail] at marked
    revert marked
    cases signal <;> decide
  case isFalse unmarked =>
    constructor
    · rintro ⟨before, cut⟩
      rcases List.append_eq_append_iff.mp cut with ⟨part, front, path⟩ | ⟨part, -, whole⟩
      · rcases eq_nil_or_slash_of_overlap insecure signal ⟨before, front.symm⟩ ⟨_, path.symm⟩ with
          rfl | rfl
        · exact Or.inl (path ▸ List.suffix_refl _)
        · exact Or.inr (by rw [path]; rfl)
      · exact Or.inl ⟨part, whole.symm⟩
    · rintro (carried | tail)
      · exact carried.trans (List.suffix_append _ _)
      · rw [tail]
        cases insecure <;> cases signal <;> decide

end Endpoint

namespace Config

variable {c : Config}

/-- The base URL ends with the path of a signal. -/
def Carries (c : Config) (signal : Signal) : Prop := signal.path.toList <:+ c.baseUrl.toList

theorem carries_iff {signal : Signal} :
    c.Carries signal ↔ signal.path.toList <:+ Endpoint.core c.endpoint.toList ∨
      Endpoint.core c.endpoint.toList = signal.path.toList.tail := by
  rw [Carries, baseUrl, String.toList_ofList]
  exact Endpoint.path_suffix_base_iff _ _ _

theorem signalUrl_of_carries {signal : Signal} (carries : c.Carries signal) :
    c.signalUrl signal = c.baseUrl := by
  rw [Carries, baseUrl, String.toList_ofList] at carries
  rw [signalUrl, Endpoint.withPath, if_pos carries, baseUrl]

theorem signalUrl_of_not_carries {signal : Signal} (free : ¬ c.Carries signal) :
    c.signalUrl signal = c.baseUrl ++ signal.path := by
  rw [Carries, baseUrl, String.toList_ofList] at free
  rw [signalUrl, Endpoint.withPath, if_neg free, baseUrl, String.ofList_append,
    String.ofList_toList]

/-- No base URL ends with the paths of both signals. -/
theorem Carries.unique {s t : Signal} (first : c.Carries s) (second : c.Carries t) : s = t := by
  have ends := List.suffix_or_suffix_of_suffix first second
  revert ends
  cases s <;> cases t <;> decide

/-- The text before the path that a base URL carries. -/
theorem Carries.exists_baseUrl {signal : Signal} (carries : c.Carries signal) :
    ∃ b : String, c.baseUrl = b ++ signal.path := by
  obtain ⟨before, cut⟩ := carries
  refine ⟨.ofList before, String.toList_injective ?_⟩
  rw [String.toList_append, String.toList_ofList, cut]

/-- Both signals go to one base if the base URL carries the path of neither. -/
theorem exists_common_base_iff :
    (∃ b : String, ∀ signal, c.signalUrl signal = b ++ signal.path) ↔
      ∀ signal, ¬ c.Carries signal := by
  constructor
  · rintro ⟨b, common⟩ signal carries
    obtain ⟨other, differs⟩ : ∃ other, other ≠ signal := by
      cases signal
      · exact ⟨.metrics, by decide⟩
      · exact ⟨.logs, by decide⟩
    have free : ¬ c.Carries other := fun second => differs (second.unique carries)
    have whole : c.baseUrl = b ++ signal.path :=
      (signalUrl_of_carries carries).symm.trans (common _)
    have joined : c.baseUrl ++ other.path = b ++ other.path :=
      (signalUrl_of_not_carries free).symm.trans (common _)
    -- the base would be the base URL, and so longer than itself by a path
    have lengths := congrArg String.length (whole.symm.trans ((String.append_left_inj _).mp joined))
    revert lengths
    cases signal <;> simp [Signal.path]
  · intro free
    exact ⟨c.baseUrl, fun signal => signalUrl_of_not_carries (free signal)⟩

/-- Both signals go to one base, the base URL, if neither the endpoint without blanks and slashes
at its end has the path of a signal at its end nor is such a path without its first slash. Otherwise
the base URL is the URL of the signal whose path it carries, and the URL of the other signal has
both paths in it. -/
theorem signalUrls_of_base (c : Config) :
    (∀ signal, c.Carries signal ↔ signal.path.toList <:+ Endpoint.core c.endpoint.toList ∨
      Endpoint.core c.endpoint.toList = signal.path.toList.tail) ∧
    ((∃ b : String, ∀ signal, c.signalUrl signal = b ++ signal.path) ↔
      ∀ signal, ¬ c.Carries signal) ∧
    ((∀ signal, ¬ c.Carries signal) → ∀ signal, c.signalUrl signal = c.baseUrl ++ signal.path) ∧
    (∀ signal, c.Carries signal →
      ∃ b : String, c.signalUrl signal = b ++ signal.path ∧
        ∀ other, other ≠ signal → c.signalUrl other = b ++ signal.path ++ other.path) := by
  refine ⟨fun _ => carries_iff, exists_common_base_iff,
    fun free signal => signalUrl_of_not_carries (free signal), fun signal carries => ?_⟩
  obtain ⟨b, whole⟩ := carries.exists_baseUrl
  refine ⟨b, (signalUrl_of_carries carries).trans whole, fun other differs => ?_⟩
  rw [signalUrl_of_not_carries fun second => differs (second.unique carries), whole]

/-- An endpoint with a scheme, blanks and a slash at its end has one base. -/
theorem signalUrls_of_base_of_url :
    let c : Config := { enabled := true, endpoint := " https://collector.internal:4318/ " }
    ∀ signal, c.signalUrl signal = "https://collector.internal:4318" ++ signal.path := by
  intro c signal
  obtain ⟨carries, -, free, -⟩ := signalUrls_of_base c
  have base : c.baseUrl = "https://collector.internal:4318" := by decide +kernel
  rw [← base]
  refine free (fun signal => mt (carries signal).mp ?_) signal
  cases signal <;> decide +kernel

/-- An endpoint that carries the path of the metrics sends the logs to both paths. -/
theorem not_common_base_of_path :
    ¬ ∀ c : Config, ∃ b : String, ∀ signal, c.signalUrl signal = b ++ signal.path := by
  intro common
  let c : Config :=
    { enabled := true, endpoint := "http://collector:4318/v1/metrics", protocol := .http }
  have carries : c.Carries .metrics := carries_iff.mpr (Or.inl (by decide +kernel))
  exact exists_common_base_iff.mp (common c) .metrics carries

end Config

end Telemetry
