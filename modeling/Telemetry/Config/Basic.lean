import Telemetry.SetupError
import Telemetry.Text.Blank
import Telemetry.Text.LowerCase
import Telemetry.TextMap

/-!
# Telemetry settings

A `Config` says whether telemetry is on, where it goes, by which protocol, which of the two signals
are exported and how the process names itself. It is valid unless telemetry is on without an
endpoint.

Main statements:

* `Protocol.parse_name`: the name of a protocol is read as that protocol.
* `validate_eq_ok_iff`, `validate_eq_error_iff`: which configurations are valid.
-/

namespace Telemetry

/-- The transport of OTLP. -/
inductive Protocol
  | grpc
  | http
  deriving DecidableEq, Repr

namespace Protocol

def name : Protocol → String
  | grpc => "grpc"
  | http => "http"

def httpNames : List String := ["http", "http/protobuf"]

/-- Reads a protocol name without regard to surrounding blanks and the case of ASCII letters.
What is no name of HTTP selects gRPC. -/
def parse (s : String) : Protocol :=
  if Text.toLowerAscii (Text.trim s) ∈ httpNames then http else grpc

/-- Whether a text, trimmed and without regard to case, is the name of a protocol. -/
def isRecognised (s : String) : Bool :=
  parse s = http || Text.eqIgnoreCaseAscii (Text.trim s) grpc.name

theorem parse_name (p : Protocol) : parse p.name = p := by
  cases p <;> decide +kernel

end Protocol

/-- Transport headers. -/
abbrev Headers := TextMap

/-- The settings of telemetry. -/
structure Config where
  enabled : Bool := false
  endpoint : String := ""
  protocol : Protocol := .grpc
  insecure : Bool := true
  exportLogs : Bool := true
  exportMetrics : Bool := true
  serviceName : String := "otel-bridge"
  serviceVersion : String := ""
  environment : String := ""
  headers : Headers := ∅

namespace Config

/-- Whether the endpoint has no character but blanks. -/
def hasBlankEndpoint (c : Config) : Bool :=
  (Text.trim c.endpoint).isEmpty

theorem hasBlankEndpoint_iff {c : Config} :
    c.hasBlankEndpoint = true ↔ ∀ x ∈ c.endpoint.toList, Text.isBlank x = true := by
  rw [hasBlankEndpoint, ← Text.trimChars_eq_nil_iff]
  simp [Text.trim]

/-- Refuses a configuration that is enabled without an endpoint. -/
def validate (c : Config) : Except SetupError Unit :=
  if c.enabled && c.hasBlankEndpoint then .error .missingEndpoint else .ok ()

theorem validate_eq_ok_iff {c : Config} :
    c.validate = .ok () ↔ c.enabled = false ∨ c.hasBlankEndpoint = false := by
  cases h₁ : c.enabled <;> cases h₂ : c.hasBlankEndpoint <;> simp [validate, h₁, h₂]

theorem validate_eq_error_iff {c : Config} {e : SetupError} :
    c.validate = .error e ↔
      c.enabled = true ∧ c.hasBlankEndpoint = true ∧ e = .missingEndpoint := by
  cases h₁ : c.enabled <;> cases h₂ : c.hasBlankEndpoint <;> simp [validate, h₁, h₂, eq_comm]

end Config

end Telemetry
