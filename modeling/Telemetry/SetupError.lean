/-!
# Errors of configuration and construction

These are the reasons why a configuration is refused or a signal cannot be built. A start returns
only `missingEndpoint`; what a signal's construction fails with is logged.
-/

namespace Telemetry

/-- Why a configuration is refused or a signal cannot be built. -/
inductive SetupError
  | missingEndpoint
  | unreadable (reason : String)
  | invalidHeader (name reason : String)
  | noRuntime (signal : String)
  | exporter (signal protocol reason : String)
  deriving DecidableEq, Repr

def SetupError.message : SetupError → String
  | missingEndpoint =>
    "telemetry is enabled but no OTLP endpoint is configured (OTEL_BRIDGE_ENDPOINT)"
  | unreadable reason => "invalid telemetry configuration: " ++ reason
  | invalidHeader name reason => "invalid OTLP header `" ++ name ++ "`: " ++ reason
  | noRuntime signal => "OTLP gRPC " ++ signal ++ " exporter requires a running Tokio runtime"
  | exporter signal protocol reason =>
    "failed to create OTLP " ++ protocol ++ " " ++ signal ++ " exporter: " ++ reason

end Telemetry
