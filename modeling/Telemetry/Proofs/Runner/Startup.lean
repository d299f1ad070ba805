import Telemetry.Proofs.Config.Loading
import Telemetry.Proofs.Run.Panics
import Telemetry.Proofs.Run.Starts
import Telemetry.Runner.Program

/-!
# Starting with settings that load

A start refuses nothing but a configuration that is not valid, and settings that load give a valid
one. So no start with such a configuration is refused, whatever was active before and whether or not
the lock of the manager is poisoned; it succeeds unless a call of the factory panics, and then it
panics itself if an emitter that was built before can be let go. The factory of the runner never
panics, so a runner whose settings load always gets to run, and never complains that its pipeline did
not start.

* `start_of_validate`: how a start with a valid configuration ends.
* `boot_of_loads`, `boot_ne_refused`: how the start of the runner ends.
* `loaded_settings_start`: all this from raw settings to the runner.
-/

namespace Telemetry

/-- The factory of exporters returns an error where it builds nothing. -/
theorem Factory.neverPanics_otlp (sdk : Sdk) (runtime : Bool) (env : Environment) :
    (Factory.otlp sdk runtime env).NeverPanics := by
  have returns {α : Type} (component : α) (result : Except SetupError Unit)
      (payload : PanicPayload) : Factory.afterExporter component result ≠ .panicked payload := by
    cases result <;> exact nofun
  exact ⟨fun _ _ _ => returns _ _ _, fun _ _ _ => returns _ _ _⟩

theorem Factory.NeverPanics.not_panics {factory : Factory} (returns : factory.NeverPanics)
    {config : Config} {resource : Resource} {payload : PanicPayload} :
    ¬ factory.Panics config resource payload
  | .inl ⟨_, panicked⟩ => returns.logs _ _ _ panicked
  | .inr ⟨_, _, panicked⟩ => returns.metrics _ _ _ panicked

/-! ## Valid configurations -/

namespace Manager

variable {config : Config}

theorem start_not_refused (valid : config.validate = .ok ()) (m : Manager) (factory : Factory)
    (version : String) (sink : Option SinkName) (h : Host) (e : SetupError) :
    (m.start factory config version sink h).1 ≠ .refused e := by
  intro refused
  obtain ⟨-, on, blank⟩ := eq_missingEndpoint_of_refused refused
  rcases Config.validate_eq_ok_iff.mp valid with off | endpoint
  · rw [on] at off
    cases off
  · rw [blank] at endpoint
    cases endpoint

/-- Only the panic of a call of the factory keeps a start with a valid configuration from
success. -/
theorem start_of_validate (valid : config.validate = .ok ()) (m : Manager) (factory : Factory)
    (version : String) (sink : Option SinkName) (h : Host) :
    (m.start factory config version sink h).1 = .ok ∨
      ∃ resource payload, factory.Panics config resource payload ∧
        (m.start factory config version sink h).1 =
          .ofUnwinding payload (releaseWork factory config resource) := by
  cases effective : config.isEffective with
  | false =>
    rcases start_of_ineffective m factory version sink h effective with ⟨told, -⟩ | ⟨left, -⟩
    · exact Or.inl (congrArg Prod.fst told)
    · exact absurd (congrArg Prod.fst left) (start_not_refused valid m factory version sink h _)
  | true =>
    rw [start_of_effective m factory version sink h effective, fst_install]
    cases made : product (m.retire h).1 factory config version sink (m.retire h).2 with
    | ok p => exact Or.inl rfl
    | error payload => exact Or.inr ⟨_, payload, product_eq_error_iff.mp made, rfl⟩

theorem start_of_validate_of_neverPanics (valid : config.validate = .ok ()) {factory : Factory}
    (returns : factory.NeverPanics) (m : Manager) (version : String) (sink : Option SinkName)
    (h : Host) : (m.start factory config version sink h).1 = .ok := by
  rcases start_of_validate valid m factory version sink h with started | ⟨_, _, panics, _⟩
  · exact started
  · exact absurd panics returns.not_panics

end Manager

/-! ## The runner -/

namespace Runner.Program

variable {s : Surroundings} {settings : Settings} {config : Config}

theorem launch_of_validate (valid : config.validate = .ok ()) (s : Surroundings)
    (settings : Settings) :
    ∃ started complaints, launch s settings config = .running started complaints := by
  have succeeded := Manager.start_of_validate_of_neverPanics valid
    (Factory.neverPanics_otlp s.sdk true s.env) ⟨sink, none⟩ version none
    (hostOf s (Filter.choose (TextMap.lastValue? filterVariable s.env) settings.logLevel).1)
  cases started : (⟨sink, none⟩ : Manager).start (Factory.otlp s.sdk true s.env) config version none
    (hostOf s (Filter.choose (TextMap.lastValue? filterVariable s.env) settings.logLevel).1) with
  | mk result rest =>
    obtain ⟨m, h⟩ := rest
    rw [started] at succeeded
    obtain rfl : result = .ok := succeeded
    simp only [launch, started]
    exact ⟨_, _, rfl⟩

theorem boot_of_loads (loaded : Settings.load s.env = .ok settings)
    (config_loaded : (Config.load s.env s.clock).result = .ok config) :
    ∃ started complaints, boot s = .running started complaints := by
  rw [boot, loaded]
  dsimp only
  rw [config_loaded]
  exact launch_of_validate (Config.validate_of_load config_loaded) s settings

/-- What is complained of are the settings of the runner or those of telemetry. -/
theorem exists_refusal {complaint : String} (refused : boot s = .refused complaint) :
    ∃ what summary detail, complaint = refusal what summary detail := by
  cases loaded : Settings.load s.env with
  | error e =>
    rw [boot_of_settings_error loaded] at refused
    exact ⟨_, _, _, (Boot.refused.inj refused).symm⟩
  | ok settings =>
    cases config_loaded : (Config.load s.env s.clock).result with
    | error e =>
      simp only [boot, loaded, config_loaded] at refused
      exact ⟨_, _, _, (Boot.refused.inj refused).symm⟩
    | ok config =>
      obtain ⟨started, complaints, running⟩ := boot_of_loads loaded config_loaded
      rw [running] at refused
      cases refused

theorem boot_ne_refused (s : Surroundings) (cause : String) :
    boot s ≠ .refused ("Error: failed to start telemetry pipeline" ++ cause) := by
  intro refused
  obtain ⟨what, summary, detail, same⟩ := exists_refusal refused
  -- All other complaints begin with a word in capitals.
  have chars := congrArg String.toList same
  simp [refusal] at chars

end Runner.Program

namespace RawConfig

open HeaderList (IsBlank)

/-- Raw settings are refused for the leftmost bad piece of their header list, or else for a blank
endpoint if telemetry is on, and are carried over otherwise. A protocol name that is not known is
reported, however loading ends. A start with a configuration that has loaded succeeds in every state
of a manager, unless a call of the factory panics; then it panics too, if an emitter that was built
before can be let go. So the runner never complains that its pipeline did not start. -/
theorem loaded_settings_start (raw : RawConfig) (clock : Timestamp) :
    (∀ e, (raw.load clock).result = .error e ↔
      raw.HeaderFault e ∨ (∀ fault, ¬ raw.HeaderFault fault) ∧
        raw.enabled = true ∧ IsBlank raw.endpoint ∧ e = .missingEndpoint) ∧
    (∀ c, (raw.load clock).result = .ok c ↔
      raw.Carries c ∧ (raw.enabled = true → ¬ IsBlank raw.endpoint)) ∧
    ((∀ text, raw.Unrecognised text →
        (raw.load clock).events = [.report clock .warn "otel_bridge::config"
          "unrecognised OTLP protocol; using grpc" [("protocol", .display text)]]) ∧
      ((∀ text, ¬ raw.Unrecognised text) → (raw.load clock).events = [])) ∧
    (∀ c, (raw.load clock).result = .ok c →
      ∀ (s : GuardedSystem) (factory : Factory) (version : String) (sink : Option SinkName),
        let answer := (s.step (.start factory c version sink)).1
        (factory.NeverPanics → answer = .started .ok) ∧
        (answer = .started .ok ∨ ∃ resource payload,
          factory.Panics c resource payload ∧
          answer = .started
            (.ofUnwinding payload (Manager.releaseWork factory c resource)) ∧
          (factory.LetsGo c resource → answer = .started (.panicked payload)))) ∧
    (∀ env, ofSettings (.ofEnvironment Config.group env) = .ok raw →
      Config.load env clock = raw.load clock) ∧
    ∀ s : Runner.Surroundings,
      (∀ settings c, Runner.Settings.load s.env = .ok settings →
        (Config.load s.env s.clock).result = .ok c →
        ∃ started complaints, Runner.Program.boot s = .running started complaints) ∧
      ∀ cause, Runner.Program.boot s ≠
        .refused ("Error: failed to start telemetry pipeline" ++ cause) := by
  refine ⟨fun e => check_eq_error_iff, fun c => check_eq_ok_iff,
    ⟨fun text unknown => protocolWarnings_of_unrecognised unknown clock,
      fun known => protocolWarnings_eq_nil known clock⟩, fun c loaded s factory version sink => ?_,
    fun env reads => by rw [Config.load, reads],
    fun s => ⟨fun settings c loaded => Runner.Program.boot_of_loads loaded,
      Runner.Program.boot_ne_refused s⟩⟩
  intro answer
  have valid := validate_of_check loaded
  have started : answer = .started (s.manager.held.start factory c version sink s.host).1 :=
    s.answer_step _
  rw [started]
  refine ⟨fun returns => ?_, ?_⟩
  · rw [Manager.start_of_validate_of_neverPanics valid returns]
  · rcases Manager.start_of_validate valid s.manager.held factory version sink s.host with
      succeeds | ⟨resource, payload, panics, ends⟩
    · exact Or.inl (by rw [succeeds])
    · refine Or.inr ⟨resource, payload, panics, by rw [ends], fun lets => ?_⟩
      obtain ⟨_, _, released⟩ := Manager.exists_releaseWork_eq lets
      rw [ends, released]
      rfl

/-- Settings that are off are refused for their header list, and those of a collector load and start
in spite of a poisoned lock and a factory that builds nothing. -/
theorem loaded_settings_start_of_collector :
    let off : RawConfig := { protocol := some " pigeon", headers := some "a=b, =v" }
    let on : RawConfig :=
      { enabled := true, endpoint := "\t collector:4317 ", protocol := some "HTTP/Protobuf " }
    let failing : Factory := .constant (.failed (.noRuntime "logs")) (.failed .missingEndpoint)
    let s : GuardedSystem :=
      ⟨⟨"own", ⟨none, true⟩⟩, { platform := ⟨"linux", "x86_64", 1, none⟩ }⟩
    (off.load 0).result = .error (.invalidHeader "=v" "empty header name") ∧
      (off.load 0).events.length = 1 ∧ (on.load 0).events = [] ∧
      ∃ c, (on.load 0).result = .ok c ∧ c.endpoint = "collector:4317" ∧ c.protocol = .http ∧
        (s.step (.start failing c "1.0" none)).1 = .started .ok := by
  intro off on failing s
  obtain ⟨refused, -, ⟨warned, -⟩, -⟩ := loaded_settings_start off 0
  obtain ⟨-, carried, ⟨-, calm⟩, starts, -⟩ := loaded_settings_start on 0
  have nameless : HeaderList.Divides " =v" " " "v" := ⟨by decide +kernel, by decide +kernel⟩
  have fit : HeaderList.IsFit "a=b" :=
    Or.inr ⟨"a", "b", ⟨by decide +kernel, by decide +kernel⟩, by decide +kernel⟩
  have unfit : ¬ HeaderList.IsFit " =v" := not_or.mpr
    ⟨nameless.not_isBlank, fun has => nameless.hasKey_iff.mp has (by decide +kernel)⟩
  have fault : off.HeaderFault (.invalidHeader "=v" "empty header name") :=
    ⟨"a=b, =v", ["a=b"], " =v", [], rfl, by decide +kernel, by simpa using fit, unfit,
      by decide +kernel⟩
  have unknown : off.Unrecognised " pigeon" := ⟨rfl, by decide, by decide +kernel⟩
  have known : ∀ text, ¬ on.Unrecognised text := by
    intro text ⟨given, _, unspelled⟩
    obtain rfl := Option.some.inj given
    exact unspelled "http/protobuf" (by decide) (by decide +kernel)
  refine ⟨(refused _).mpr (Or.inl fault), by rw [warned _ unknown]; rfl, calm known, ?_⟩
  cases loaded : (on.load 0).result with
  | error e =>
    have accepted : (on.load 0).result.isOk = true := by decide +kernel
    rw [loaded] at accepted
    cases accepted
  | ok c =>
    have carries := ((carried c).mp loaded).1
    have endpoint : Text.trim on.endpoint = "collector:4317" := by decide +kernel
    refine ⟨c, rfl, (Text.trims_iff.mp carries.endpoint).trans endpoint,
      carries.protocol.mpr ⟨_, rfl, Or.inr (by decide +kernel)⟩, ?_⟩
    exact (starts c loaded s failing "1.0" none).1
      (Factory.neverPanics_constant (fun _ => nofun) fun _ => nofun)

end RawConfig

end Telemetry
