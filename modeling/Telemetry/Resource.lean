import Std.Data.ExtTreeMap
import Telemetry.Config.Basic
import Telemetry.Log.Event

/-!
# The resource

The resource says which process the telemetry comes from. It is built on top of given attributes:
the service by its name, version and environment, the platform, and the host if its name is known. A
version that is passed in has precedence over the configured one. Empty versions and environments
are left out, an empty service name is not.

Main statements:

* `build_eq_insert_host`: a known host adds one attribute and changes nothing else.
* `hostName?_eq_some`: a detected host name is not blank.
-/

namespace Telemetry

/-- The attributes of a process. -/
abbrev Resource := Std.ExtTreeMap String Value

/-- What is known of the machine and the running program. -/
structure Platform where
  os : String
  arch : String
  pid : Nat
  executable : Option String
  deriving DecidableEq, Repr

namespace Resource

/-- The target of the events of building a resource. -/
def target : String := "otel_bridge::resource"

def hostKey : String := "host.name"

/-- Adds attributes that have texts. -/
def withTexts (r : Resource) (attributes : List (String × String)) : Resource :=
  attributes.foldl (fun r a => r.insert a.1 (.str a.2)) r

/-- The attribute with a text, unless the text is empty. -/
def unlessEmpty (key text : String) : List (String × String) :=
  if text.isEmpty then [] else [(key, text)]

/-- The version of a service: the one passed in, or the configured one if that is empty. -/
def versionOf (c : Config) (version : String) : String :=
  if version.isEmpty then c.serviceVersion else version

def serviceAttributes (c : Config) (version : String) : List (String × String) :=
  [("service.name", c.serviceName)] ++ unlessEmpty "service.version" (versionOf c version) ++
    unlessEmpty "deployment.environment.name" c.environment

/-- The attributes of the platform that have texts. -/
def platformAttributes (p : Platform) : List (String × String) :=
  [("os.type", p.os), ("host.arch", p.arch), ("process.runtime.name", "rust")] ++
    (p.executable.map fun name => ("process.executable.name", name)).toList

/-- The resource on top of given attributes, for a host that is known or not. -/
def build (base : Resource) (platform : Platform) (c : Config) (version : String)
    (host : Option String) : Resource :=
  let known := ((base.withTexts (serviceAttributes c version)).withTexts
    (platformAttributes platform)).insert "process.pid" (.int platform.pid)
  host.elim known fun name => known.insert hostKey (.str name)

/-- The warning about a host that is not known. -/
def warnings (clock : Timestamp) (host : Option String) : List Event :=
  match host with
  | some _ => []
  | none => [.report clock .warn target ("host name not detectable; omitting " ++ hostKey)]

/-- The host name: the first source that is not blank, without surrounding blanks. -/
def hostName? (sources : List (Option String)) : Option String :=
  sources.findSome? fun source => (source.map Text.trim).filter (!·.isEmpty)

theorem build_eq_insert_host (base : Resource) (platform : Platform) (c : Config)
    (version name : String) :
    build base platform c version (some name) =
      (build base platform c version none).insert hostKey (.str name) := rfl

theorem hostName?_eq_some {sources : List (Option String)} {name : String}
    (h : hostName? sources = some name) : name.isEmpty = false := by
  obtain ⟨source, _, found⟩ := List.exists_of_findSome?_eq_some h
  simpa using (Option.filter_eq_some_iff.1 found).2

end Resource

end Telemetry
