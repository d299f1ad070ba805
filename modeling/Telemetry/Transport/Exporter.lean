import Telemetry.Config.Environment
import Telemetry.Duration
import Telemetry.Endpoint
import Telemetry.TextMap
import Telemetry.Transport.Header
import Telemetry.Transport.Uri

/-!
# Exporters

An OTLP exporter is built for one signal. A gRPC exporter needs a running asynchronous runtime,
which is looked for first; then both kinds check the headers and then the address, which is the base
URL for gRPC and the URL of the signal for HTTP. Building sends nothing.

The environment may name an algorithm that gRPC exporters compress with, for one signal or for all
of them. No algorithm is at hand here, so that each of them is refused, before the address is looked
at.

Main statements:

* `build_grpc_of_no_runtime`: the runtime is looked for first.
* `checkCompression_eq_ok_iff`: nothing but silence about compression is accepted.
-/

namespace Telemetry.Exporter

/-- How long the export of one batch of records may take. -/
def logTimeout : Duration := .ofSecs 10

/-- How long the export of the metrics may take. -/
def metricTimeout : Duration := .ofSecs 30

def metricInterval : Duration := .ofSecs 30

/-- The variables that name an algorithm for a signal, the one that counts first. -/
def compressionVariables (signal : Signal) : List String :=
  let own := match signal with
    | .logs => "LOGS"
    | .metrics => "METRICS"
  ["OTEL_EXPORTER_OTLP_" ++ own ++ "_COMPRESSION", "OTEL_EXPORTER_OTLP_COMPRESSION"]

/-- The algorithm that the environment names for a signal. -/
def compression? (env : Environment) (signal : Signal) : Option String :=
  (compressionVariables signal).findSome? (TextMap.lastValue? · env)

/-- Why an algorithm is refused. -/
def compressionReason (algorithm : String) : String :=
  if algorithm ∈ ["gzip", "zstd"] then
    "feature '" ++ algorithm ++ "-tonic' is required to use the compression algorithm '" ++
      algorithm ++ "'"
  else "unsupported compression algorithm '" ++ algorithm ++ "'"

/-- Refuses to compress. -/
def checkCompression (env : Environment) (signal : Signal) : Except SetupError Unit :=
  match compression? env signal with
  | none => .ok ()
  | some algorithm =>
    .error (.exporter signal.word Protocol.grpc.name (compressionReason algorithm))

/-- Refuses an address that is no URI. -/
def checkAddress (protocol : Protocol) (signal : Signal) (url : String) : Except SetupError Unit :=
  match Uri.check url with
  | none => .ok ()
  | some fault =>
    .error (.exporter signal.word protocol.name
      ("invalid URI " ++ url ++ ". Reason " ++ fault.message))

/-- Builds the exporter of a signal in an environment, where `runtime` says whether an asynchronous
runtime runs. -/
def build (runtime : Bool) (env : Environment) (c : Config) (signal : Signal) :
    Except SetupError Unit :=
  match c.protocol with
  | .http => do
    let _ ← Header.forHttp c.headers
    checkAddress .http signal (c.signalUrl signal)
  | .grpc => do
    if !runtime then throw (.noRuntime signal.word)
    let _ ← Header.forGrpc c.headers
    checkCompression env signal
    checkAddress .grpc signal c.baseUrl

theorem build_grpc_of_no_runtime {c : Config} (h : c.protocol = .grpc) (env : Environment)
    (signal : Signal) : build false env c signal = .error (.noRuntime signal.word) := by
  simp only [build, h]
  rfl

theorem checkCompression_eq_ok_iff (env : Environment) (signal : Signal) :
    checkCompression env signal = .ok () ↔ compression? env signal = none := by
  unfold checkCompression
  split <;> simp_all

end Telemetry.Exporter
