import Telemetry.Config.Loading
import Telemetry.Proofs.HeaderList.Pieces

/-!
# What loading makes of raw settings

Raw settings are refused for the leftmost bad piece of their header list, whether telemetry is on or
not, or else for a blank endpoint if it is on. Otherwise they become a configuration that carries
them over, with the endpoint trimmed, the protocol named and the headers read. What is reported on
the way hangs on the protocol name alone.

* `trims_iff`: a text without the blanks around it.
* `Protocol.parse_eq_http_iff`, `Protocol.isRecognised_iff`: which names are known.
* `check_eq_error_iff`, `check_eq_ok_iff`: how loading ends.
* `protocolWarnings_of_unrecognised`, `protocolWarnings_eq_nil`: what it reports.
-/

namespace Telemetry

open HeaderList (IsBlank)

/-! ## Trimmed texts -/

namespace Text

/-- A part of a text without blanks at its ends, with nothing but blanks around it. -/
structure Trims (part whole : String) : Prop where
  around : ∃ before behind, IsBlank before ∧ IsBlank behind ∧ whole = before ++ part ++ behind
  trimmed : IsTrimmed part.toList

/-- Trimming takes off what stands around a text. -/
theorem exists_pad_trimChars (s : List Char) :
    ∃ before behind, (∀ c ∈ before, isBlank c = true) ∧ (∀ c ∈ behind, isBlank c = true) ∧
      s = before ++ trimChars s ++ behind := by
  obtain ⟨behind, blank, cut⟩ := exists_append_of_dropEndWhile isBlank (trimStart s)
  refine ⟨s.takeWhile isBlank, behind, List.all_eq_true.mp List.all_takeWhile, blank, ?_⟩
  have parts := List.takeWhile_append_dropWhile (p := isBlank) (l := s)
  rw [List.append_assoc, trimChars, trimEnd, ← cut, trimStart, parts]

theorem trims_iff {part whole : String} : Trims part whole ↔ part = trim whole := by
  constructor
  · rintro ⟨⟨before, behind, blank, blank', rfl⟩, trimmed⟩
    apply String.toList_injective
    rw [toList_trim, String.toList_append, String.toList_append, trimChars_pad blank blank',
      trimChars_of_isTrimmed trimmed]
  · rintro rfl
    obtain ⟨before, behind, blank, blank', cut⟩ := exists_pad_trimChars whole.toList
    refine ⟨⟨.ofList before, .ofList behind, by simpa [IsBlank] using blank,
      by simpa [IsBlank] using blank', String.toList_injective ?_⟩, ?_⟩
    · simpa using cut
    · rw [toList_trim]
      exact isTrimmed_trimChars _

end Text

/-! ## Protocol names -/

namespace Protocol

/-- A text is a name, but for blanks around it and the case of the letters A to Z. -/
def Spells (text name : String) : Prop := Text.eqIgnoreCaseAscii (Text.trim text) name = true

instance (text name : String) : Decidable (Spells text name) := inferInstanceAs (Decidable (_ = _))

theorem spells_iff {text name : String} (small : Text.toLowerAscii name = name) :
    Spells text name ↔ Text.toLowerAscii (Text.trim text) = name := by
  rw [Spells, Text.eqIgnoreCaseAscii, beq_iff_eq, small]

theorem parse_eq_http_iff {text : String} :
    parse text = .http ↔ Spells text "http" ∨ Spells text "http/protobuf" := by
  rw [spells_iff (by decide +kernel), spells_iff (by decide +kernel), parse]
  split <;> simp_all [httpNames]

theorem isRecognised_iff {text : String} :
    isRecognised text = true ↔ ∃ name ∈ ["grpc", "http", "http/protobuf"], Spells text name := by
  have grpc_iff : Text.eqIgnoreCaseAscii (Text.trim text) grpc.name = true ↔ Spells text "grpc" :=
    Iff.rfl
  simp only [isRecognised, Bool.or_eq_true, decide_eq_true_eq, parse_eq_http_iff, grpc_iff]
  simp only [List.mem_cons, List.not_mem_nil, or_false, exists_eq_or_imp, exists_eq_left]
  exact Or.comm

end Protocol

namespace RawConfig

/-! ## How loading ends -/

/-- The complaint about the leftmost bad piece of the header list. -/
def HeaderFault (raw : RawConfig) (e : SetupError) : Prop :=
  ∃ list before bad behind, raw.headers = some list ∧
    HeaderList.pieces list = before ++ bad :: behind ∧
    (∀ piece ∈ before, HeaderList.IsFit piece) ∧ ¬ HeaderList.IsFit bad ∧
    e = HeaderList.complaint bad

/-- A configuration has everything from raw settings. -/
structure Carries (raw : RawConfig) (c : Config) : Prop where
  enabled : c.enabled = raw.enabled
  endpoint : Text.Trims c.endpoint raw.endpoint
  protocol : c.protocol = .http ↔ ∃ text, raw.protocol = some text ∧
    (Protocol.Spells text "http" ∨ Protocol.Spells text "http/protobuf")
  insecure : c.insecure = raw.insecure
  exportLogs : c.exportLogs = raw.exportLogs
  exportMetrics : c.exportMetrics = raw.exportMetrics
  serviceName : c.serviceName = raw.serviceName
  serviceVersion : c.serviceVersion = raw.serviceVersion
  environment : c.environment = raw.environment
  no_headers : raw.headers = none → c.headers = ∅
  headers : ∀ list, raw.headers = some list → HeaderList.parse list = .ok c.headers

/-- A protocol name that is not known. -/
def Unrecognised (raw : RawConfig) (text : String) : Prop :=
  raw.protocol = some text ∧ text ≠ "" ∧
    ∀ name ∈ ["grpc", "http", "http/protobuf"], ¬ Protocol.Spells text name

variable {raw : RawConfig} {c : Config} {headers : Headers} {e : SetupError}

theorem readHeaders_eq_error_iff : raw.readHeaders = .error e ↔ raw.HeaderFault e := by
  cases listed : raw.headers with
  | none => simp [readHeaders, HeaderFault, listed]
  | some list =>
    rw [readHeaders, listed, Option.elim_some, HeaderList.parse_eq_error_iff,
      HeaderList.readAll_eq_error_iff, HeaderFault]
    simp [listed]

theorem hasBlankEndpoint_withHeaders (headers : Headers) :
    (raw.withHeaders headers).hasBlankEndpoint = true ↔ IsBlank raw.endpoint := by
  have endpoint : (raw.withHeaders headers).endpoint.toList = Text.trimChars raw.endpoint.toList :=
    Text.toList_trim raw.endpoint
  rw [Config.hasBlankEndpoint_iff, endpoint, ← Text.trimChars_eq_nil_iff,
    Text.trimChars_of_isTrimmed (Text.isTrimmed_trimChars _), Text.trimChars_eq_nil_iff, IsBlank]

theorem check_of_error (refused : raw.readHeaders = .error e) : raw.check = .error e := by
  simp [check, refused, bind, Except.bind]

/-- When the headers are read only the endpoint can still be missing. -/
theorem check_of_ok (read : raw.readHeaders = .ok headers) :
    raw.check = (raw.withHeaders headers).validate.map fun _ => raw.withHeaders headers := by
  simp only [check, read, bind, Except.bind, pure, Except.pure]
  cases (raw.withHeaders headers).validate <;> rfl

theorem validate_withHeaders_eq_ok_iff (headers : Headers) :
    (raw.withHeaders headers).validate = .ok () ↔
      (raw.enabled = true → ¬ IsBlank raw.endpoint) := by
  rw [Config.validate_eq_ok_iff, ← Bool.not_eq_true, ← Bool.not_eq_true,
    hasBlankEndpoint_withHeaders, ← Decidable.imp_iff_not_or]
  rfl

theorem validate_withHeaders_eq_error_iff (headers : Headers) :
    (raw.withHeaders headers).validate = .error e ↔
      raw.enabled = true ∧ IsBlank raw.endpoint ∧ e = .missingEndpoint := by
  rw [Config.validate_eq_error_iff, hasBlankEndpoint_withHeaders]
  rfl

/-- The header list is looked at first, and the endpoint only if telemetry is on. -/
theorem check_eq_error_iff : raw.check = .error e ↔
    raw.HeaderFault e ∨ (∀ fault, ¬ raw.HeaderFault fault) ∧
      raw.enabled = true ∧ IsBlank raw.endpoint ∧ e = .missingEndpoint := by
  simp only [← readHeaders_eq_error_iff]
  cases read : raw.readHeaders with
  | error fault => simp [check_of_error read]
  | ok headers =>
    rw [← validate_withHeaders_eq_error_iff headers, check_of_ok read]
    cases (raw.withHeaders headers).validate <;> simp [Except.map]

theorem protocolName?_eq_some_iff {text : String} :
    raw.protocolName? = some text ↔ raw.protocol = some text ∧ text ≠ "" := by
  simp [protocolName?, Option.filter_eq_some_iff]

/-- A protocol name that is missing or empty is no name of HTTP. -/
theorem protocol_withHeaders_eq_http_iff (headers : Headers) :
    (raw.withHeaders headers).protocol = .http ↔ ∃ text, raw.protocol = some text ∧
      (Protocol.Spells text "http" ∨ Protocol.Spells text "http/protobuf") := by
  have empty : ¬ (Protocol.Spells "" "http" ∨ Protocol.Spells "" "http/protobuf") := by
    decide +kernel
  rw [withHeaders]
  cases named : raw.protocolName? with
  | none =>
    refine iff_of_false nofun fun ⟨text, given, spells⟩ => ?_
    have told : text ≠ "" := fun same => empty (same ▸ spells)
    rw [protocolName?_eq_some_iff.mpr ⟨given, told⟩] at named
    cases named
  | some name =>
    simp [(protocolName?_eq_some_iff.mp named).1, Protocol.parse_eq_http_iff]

theorem carries_withHeaders (read : raw.readHeaders = .ok headers) :
    raw.Carries (raw.withHeaders headers) := by
  refine ⟨rfl, Text.trims_iff.mpr rfl, protocol_withHeaders_eq_http_iff headers, rfl, rfl, rfl,
    rfl, rfl, rfl, fun unlisted => ?_, fun list listed => ?_⟩
  · rw [readHeaders, unlisted] at read
    exact (Except.ok.inj read).symm
  · rwa [readHeaders, listed] at read

theorem Carries.readHeaders_eq (carries : raw.Carries c) : raw.readHeaders = .ok c.headers := by
  cases listed : raw.headers with
  | none => rw [readHeaders, listed, carries.no_headers listed, Option.elim_none]
  | some list => rw [readHeaders, listed, Option.elim_some, carries.headers list listed]

/-- Raw settings are carried over in one way only. -/
theorem Carries.eq_withHeaders (carries : raw.Carries c) : c = raw.withHeaders c.headers := by
  have endpoint : c.endpoint = Text.trim raw.endpoint := Text.trims_iff.mp carries.endpoint
  -- There are two protocols, so the condition for the one fixes which it is.
  have same_http := carries.protocol.trans
    (protocol_withHeaders_eq_http_iff c.headers).symm
  have protocol : c.protocol = (raw.withHeaders c.headers).protocol := by
    cases hc : c.protocol <;> cases hr : (raw.withHeaders c.headers).protocol <;>
      simp_all
  cases c
  rw [withHeaders, Config.mk.injEq]
  exact ⟨carries.enabled, endpoint, protocol, carries.insecure, carries.exportLogs,
    carries.exportMetrics, carries.serviceName, carries.serviceVersion, carries.environment, rfl⟩

theorem check_eq_ok_iff :
    raw.check = .ok c ↔ raw.Carries c ∧ (raw.enabled = true → ¬ IsBlank raw.endpoint) := by
  constructor
  · intro accepted
    cases read : raw.readHeaders with
    | error e =>
      rw [check_of_error read] at accepted
      cases accepted
    | ok headers =>
      rw [check_of_ok read] at accepted
      cases valid : (raw.withHeaders headers).validate with
      | error e => simp [valid, Except.map] at accepted
      | ok _ =>
        rw [valid] at accepted
        obtain rfl := Except.ok.inj accepted
        exact ⟨carries_withHeaders read, (validate_withHeaders_eq_ok_iff headers).mp valid⟩
  · rintro ⟨carries, endpoint⟩
    have read := carries.readHeaders_eq
    rw [check_of_ok read, (validate_withHeaders_eq_ok_iff c.headers).mpr endpoint,
      ← carries.eq_withHeaders]
    rfl

/-! ## What loading reports -/

variable {text : String}

theorem filter_isRecognised_eq_some_iff :
    raw.protocolName?.filter (!Protocol.isRecognised ·) = some text ↔ raw.Unrecognised text := by
  rw [Option.filter_eq_some_iff, protocolName?_eq_some_iff, Bool.not_eq_true', ← Bool.not_eq_true,
    Protocol.isRecognised_iff, Unrecognised, and_assoc]
  simp only [not_exists, not_and]

theorem protocolWarnings_of_unrecognised (unknown : raw.Unrecognised text) (clock : Timestamp) :
    raw.protocolWarnings clock = [.report clock .warn "otel_bridge::config"
      "unrecognised OTLP protocol; using grpc" [("protocol", .display text)]] := by
  rw [protocolWarnings, filter_isRecognised_eq_some_iff.mpr unknown]
  rfl

theorem protocolWarnings_eq_nil (known : ∀ text, ¬ raw.Unrecognised text) (clock : Timestamp) :
    raw.protocolWarnings clock = [] := by
  have nothing : raw.protocolName?.filter (!Protocol.isRecognised ·) = none :=
    Option.eq_none_iff_forall_ne_some.mpr fun text found =>
      known text (filter_isRecognised_eq_some_iff.mp found)
  rw [protocolWarnings, nothing]

end RawConfig

end Telemetry
