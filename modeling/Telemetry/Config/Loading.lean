import Telemetry.Config.Environment
import Telemetry.Config.HeaderList
import Telemetry.Log.Event

/-!
# Loading the telemetry settings

The settings are read from the variables of one group. First every value has to be of the right
type, then the header list has to be well formed, then telemetry has to have an endpoint if it is
on. A protocol name that is not known is reported in a warning, whatever happens after that, and
selects gRPC.

Main statement: `validate_of_load`, a configuration that loads is valid.
-/

namespace Telemetry

/-- The settings as they stand in the environment, before protocol and headers are read. -/
structure RawConfig where
  enabled : Bool := false
  endpoint : String := ""
  protocol : Option String := none
  insecure : Bool := true
  exportLogs : Bool := true
  exportMetrics : Bool := true
  serviceName : String := "otel-bridge"
  serviceVersion : String := ""
  environment : String := ""
  headers : Option String := none
  deriving DecidableEq, Repr

/-- What loading reports and how it ends. -/
structure Loading where
  events : List Event
  result : Except SetupError Config

def Config.group : String := "OTEL_BRIDGE"

def Config.target : String := "otel_bridge::config"

namespace RawConfig

def ofSettings (s : Settings) : Except TypeMismatch RawConfig := do
  let d : RawConfig := {}
  return {
    enabled := ← s.readBool "enabled" d.enabled
    endpoint := ← s.readText "endpoint" d.endpoint
    protocol := ← s.readText? "protocol"
    insecure := ← s.readBool "insecure" d.insecure
    exportLogs := ← s.readBool "export_logs" d.exportLogs
    exportMetrics := ← s.readBool "export_metrics" d.exportMetrics
    serviceName := ← s.readText "service_name" d.serviceName
    serviceVersion := ← s.readText "service_version" d.serviceVersion
    environment := ← s.readText "environment" d.environment
    headers := ← s.readText? "headers" }

/-- The protocol name, unless it is missing or empty. -/
def protocolName? (raw : RawConfig) : Option String :=
  raw.protocol.filter (· ≠ "")

/-- The warning about a protocol name that is not known. -/
def protocolWarnings (raw : RawConfig) (clock : Timestamp) : List Event :=
  match raw.protocolName?.filter (!Protocol.isRecognised ·) with
  | none => []
  | some name =>
    [.report clock .warn Config.target "unrecognised OTLP protocol; using grpc"
      [("protocol", .display name)]]

/-- The configuration with the given headers. -/
def withHeaders (raw : RawConfig) (headers : Headers) : Config where
  enabled := raw.enabled
  endpoint := Text.trim raw.endpoint
  protocol := raw.protocolName?.elim .grpc Protocol.parse
  insecure := raw.insecure
  exportLogs := raw.exportLogs
  exportMetrics := raw.exportMetrics
  serviceName := raw.serviceName
  serviceVersion := raw.serviceVersion
  environment := raw.environment
  headers := headers

/-- The headers that are listed, none if there is no list. -/
def readHeaders (raw : RawConfig) : Except SetupError Headers :=
  raw.headers.elim (.ok ∅) HeaderList.parse

/-- The configuration, if the header list is well formed and telemetry that is on has an
endpoint. -/
def check (raw : RawConfig) : Except SetupError Config := do
  let config := raw.withHeaders (← raw.readHeaders)
  config.validate
  return config

theorem validate_of_check {raw : RawConfig} {c : Config} (h : raw.check = .ok c) :
    c.validate = .ok () := by
  unfold check at h
  cases hr : raw.readHeaders with
  | error e => rw [hr] at h; cases h
  | ok headers =>
    rw [hr] at h
    cases hv : (raw.withHeaders headers).validate with
    | error e => simp only [bind, Except.bind, hv, reduceCtorEq] at h
    | ok _ =>
      simp only [bind, Except.bind, hv, pure, Except.pure, Except.ok.injEq] at h
      rw [← h, hv]

/-- Turns raw settings into a configuration. -/
def load (raw : RawConfig) (clock : Timestamp) : Loading :=
  ⟨raw.protocolWarnings clock, raw.check⟩

end RawConfig

namespace Config

/-- Loads the configuration from the environment. -/
def load (env : Environment) (clock : Timestamp) : Loading :=
  match RawConfig.ofSettings (.ofEnvironment group env) with
  | .error mismatch => ⟨[], .error (.unreadable mismatch.message)⟩
  | .ok raw => raw.load clock

theorem validate_of_load {env : Environment} {clock : Timestamp} {c : Config}
    (h : (load env clock).result = .ok c) : c.validate = .ok () := by
  unfold load at h
  split at h
  · cases h
  · exact RawConfig.validate_of_check h

end Config

end Telemetry
