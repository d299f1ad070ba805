import Telemetry.Log.Emitter
import Telemetry.Metrics.Bridge
import Telemetry.Resource
import Telemetry.Transport.Exporter

/-!
# Factories of components

A factory builds what ships the records and what collects the metrics of a pipeline, from the
configuration and the resource. A build succeeds, fails with an error, or panics. The OTLP factory
builds an exporter, behind which the SDK puts a processor or a reader of its own.

Main statement: `otlp_logs_built_iff`.
-/

namespace Telemetry

/-- How building a component ends. -/
inductive Build (α : Type)
  | built (component : α)
  | failed (error : SetupError)
  | panicked (payload : PanicPayload)

/-- Builds the components of a pipeline. -/
structure Factory where
  logs : Config → Resource → Build Emitter
  metrics : Config → Resource → Build Bridge

/-- What the SDK puts behind the exporters of a configuration: a processor that batches records and
a reader that collects, the workers that shut them down, and the hashing of the labels. -/
structure Sdk where
  processor : Config → Resource → LogProcessor := fun _ _ => {}
  reader : Config → Resource → ShutdownBehaviour := fun _ _ => {}
  logWorkers : Workers := {}
  metricsWorkers : Workers := {}
  hashing : Hashing := .ascending

namespace Sdk

/-- The emitter around an exporter for a configuration. -/
def emitter (sdk : Sdk) (c : Config) (r : Resource) : Emitter :=
  { Emitter.ofProvider { processor := some (sdk.processor c r) } with
    hashing := sdk.hashing
    workers := sdk.logWorkers }

/-- The bridge around a reader for a configuration. -/
def bridge (sdk : Sdk) (c : Config) (r : Resource) : Bridge where
  onShutdown := sdk.reader c r
  workers := sdk.metricsWorkers

end Sdk

namespace Factory

/-- The component, if its exporter could be built. -/
def afterExporter {α : Type} (component : α) : Except SetupError Unit → Build α
  | .ok () => .built component
  | .error e => .failed e

/-- The factory of OTLP exporters in an environment, where `runtime` says whether an asynchronous
runtime runs. -/
def otlp (sdk : Sdk) (runtime : Bool) (env : Environment) : Factory where
  logs := fun c r => afterExporter (sdk.emitter c r) (Exporter.build runtime env c .logs)
  metrics := fun c r => afterExporter (sdk.bridge c r) (Exporter.build runtime env c .metrics)

theorem otlp_logs_built_iff {sdk : Sdk} {runtime : Bool} {env : Environment} {c : Config}
    {r : Resource} :
    (∃ e, (otlp sdk runtime env).logs c r = .built e) ↔
      Exporter.build runtime env c .logs = .ok () := by
  cases h : Exporter.build runtime env c .logs <;> simp [otlp, afterExporter, h]

end Factory

end Telemetry
