import Telemetry.Config.Basic
import Telemetry.Text.Slice

/-!
# Collector addresses

The endpoint of a configuration is a bare `host:port` or a URL. Its base URL is the endpoint without
surrounding blanks and without slashes at its end, under a scheme that hangs on `insecure` unless it
has one. OTLP over HTTP sends each signal to a path under the base URL, which is not added to a base
URL that ends with it.

Main statements: `signalUrl_endsWith` and `baseUrl_prefix_signalUrl`.
-/

namespace Telemetry

/-- The two kinds of telemetry. -/
inductive Signal
  | logs
  | metrics
  deriving DecidableEq, Repr

namespace Signal

/-- The path of a signal under the base URL. -/
def path : Signal → String
  | logs => "/v1/logs"
  | metrics => "/v1/metrics"

def word : Signal → String
  | logs => "log"
  | metrics => "metric"

end Signal

namespace Endpoint

/-- What stands between a scheme and the rest of a URL. -/
def schemeMark : List Char := [':', '/', '/']

/-- The endpoint without surrounding blanks and without slashes at its end. -/
def core (endpoint : List Char) : List Char :=
  Text.dropEndWhile (· == '/') (Text.trimChars endpoint)

/-- The scheme of an endpoint that names none. -/
def scheme (insecure : Bool) : List Char :=
  (if insecure then "http" else "https").toList

/-- The base URL of an endpoint. -/
def base (insecure : Bool) (endpoint : List Char) : List Char :=
  if Text.contains schemeMark (core endpoint) then core endpoint
  else scheme insecure ++ schemeMark ++ core endpoint

/-- A base URL with a path at its end. -/
def withPath (url path : List Char) : List Char :=
  if path <:+ url then url else url ++ path

theorem suffix_withPath (url path : List Char) : path <:+ withPath url path := by
  unfold withPath
  split
  · assumption
  · exact List.suffix_append _ _

theorem prefix_withPath (url path : List Char) : url <+: withPath url path := by
  unfold withPath
  split
  · exact List.prefix_refl _
  · exact List.prefix_append _ _

end Endpoint

namespace Config

def baseUrl (c : Config) : String :=
  String.ofList (Endpoint.base c.insecure c.endpoint.toList)

/-- The URL of a signal for OTLP over HTTP. -/
def signalUrl (c : Config) (signal : Signal) : String :=
  String.ofList (Endpoint.withPath (Endpoint.base c.insecure c.endpoint.toList) signal.path.toList)

theorem signalUrl_endsWith (c : Config) (signal : Signal) :
    signal.path.toList <:+ (c.signalUrl signal).toList := by
  simpa [signalUrl] using Endpoint.suffix_withPath _ _

theorem baseUrl_prefix_signalUrl (c : Config) (signal : Signal) :
    c.baseUrl.toList <+: (c.signalUrl signal).toList := by
  simpa [signalUrl, baseUrl] using Endpoint.prefix_withPath _ _

end Config

end Telemetry
