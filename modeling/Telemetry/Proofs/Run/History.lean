import Telemetry.Proofs.Manager.Series
import Telemetry.Proofs.Run.Ownership
import Telemetry.Proofs.Run.Starts

/-!
# The pipeline is determined by the history

Only effective starts and shutdowns put a pipeline into the slot of a manager or take it out.
Between them the pipeline gains the hooks that are accepted and keeps everything else, and the
components that it was built with stay the same ones. So a manager is active if after the last
shutdown there was an effective start, and then its pipeline is what the last of these starts has
built.

* `active_step`, `active_run`: what an operation and a run leave of a pipeline that they do not end.
* `generation_run`: starts are numbered in the order of the run.
* `isActive_run_iff`: when a manager is active, whether calls panic or not.
* `manager_follows_history`: the pipeline of a manager after a run.
-/

namespace Telemetry

def Manager.hooks (m : Manager) : List Hook := m.active.elim [] Pipeline.hooks

namespace Operation

/-- Whether an operation is a start that takes effect. -/
def isEffectiveStart : Operation → Bool
  | .start _ config _ _ => config.isEffective
  | _ => false

def isShutdown : Operation → Bool
  | .shutdown _ => true
  | _ => false

def isRecording : Operation → Bool
  | .record .. => true
  | _ => false

/-- No call panics that an operation makes of a factory. -/
def NeverPanics : Operation → Prop
  | .start factory _ _ _ => factory.NeverPanics
  | _ => True

theorem endsPipeline_eq (op : Operation) :
    op.endsPipeline = (op.isEffectiveStart || op.isShutdown) := by
  cases op <;> simp [endsPipeline, isEffectiveStart, isShutdown]

theorem startsOf_eq (op : Operation) :
    System.startsOf op = if op.isEffectiveStart then 1 else 0 := by
  cases op <;> rfl

end Operation

/-- The hook whose registration an operation of a run accepts. -/
def Moment.acceptedHook? (m : Moment) : Option Hook :=
  match m.operation, m.answer with
  | .addHook hook, .registered true => some hook
  | _, _ => none

namespace System

variable {s : System}

/-! ## Operations that end no pipeline -/

/-- An operation that ends no pipeline adds the hook that it registers. -/
theorem active_step {op : Operation} (ends : op.endsPipeline = false) :
    (s.step op).2.manager.active = s.manager.active.map fun p =>
      { p with hooks := p.hooks ++ (Moment.acceptedHook? ⟨s, op⟩).toList } := by
  cases op with
  | start factory config version sink =>
    rcases Manager.start_of_ineffective s.manager factory version sink s.host ends with
      ⟨told, -⟩ | ⟨refused, -⟩
    · simp [step, told, Moment.acceptedHook?]
    · simp [step, refused, Moment.acceptedHook?]
  | shutdown deadline => cases ends
  | addHook hook =>
    cases active : s.manager.active with
    | none => simp [step, Manager.addHook, active]
    | some p => simp [step, Manager.addHook, active, Moment.acceptedHook?, Moment.answer]
  | _ => simp [step, Moment.acceptedHook?]

/-- An operation that builds nothing and records nothing replaces no component and loses nothing
that was recorded. -/
theorem kept_step {op : Operation} (builds : op.isEffectiveStart = false)
    (silent : op.isRecording = false) :
    (s.step op).2.host.kept = s.host.kept := by
  cases op with
  | start factory config version sink =>
    rcases Manager.start_of_ineffective s.manager factory version sink s.host builds with
      ⟨told, -⟩ | ⟨refused, -⟩
    · simp only [step, told]
      exact Host.kept_of_unwritten (Host.unwritten_report _ _ _ _)
    · simp only [step, refused]
  | shutdown deadline => exact s.manager.kept_shutdown deadline s.host
  | addHook hook => rfl
  | event event => exact Host.kept_of_unwritten (Host.unwritten_emit _ _ _)
  | fire g entry => exact Host.kept_of_unwritten (Host.unwritten_fire _ _ _)
  | updateLabels g labels => exact Host.kept_updateLabels _ _ _
  | closeEmitter g bound => exact Host.kept_closeEmitter _ _ _
  | shutdownBridge g deadline => exact Host.kept_shutdownBridge _ _ _
  | record g instrument attributes reading => cases silent
  | wake signal g => exact Host.kept_wake _ _ _

/-- An operation that ends no pipeline replaces no component. -/
theorem makes_step {op : Operation} (ends : op.endsPipeline = false) :
    (s.step op).2.host.makes = s.host.makes := by
  cases op with
  | record g instrument attributes reading => exact Host.makes_record _ _ _ _ _ _
  | _ =>
    rw [Operation.endsPipeline_eq, Bool.or_eq_false_iff] at ends
    exact Host.makes_of_kept (kept_step ends.1 rfl)

/-- A run that ends no pipeline adds the hooks that it registers, in order, and replaces no
component. -/
theorem active_run {ops : List Operation}
    (ends : ∀ m ∈ s.moments ops, m.operation.endsPipeline = false) :
    (s.run ops).manager.active = s.manager.active.map (fun p =>
        { p with hooks := p.hooks ++ (s.moments ops).filterMap Moment.acceptedHook? }) ∧
      (s.run ops).host.makes = s.host.makes := by
  induction ops generalizing s with
  | nil =>
    refine ⟨?_, rfl⟩
    cases active : s.manager.active <;> simp [run, moments, active]
  | cons op rest ih =>
    obtain ⟨first, later⟩ := List.forall_mem_cons.mp ends
    obtain ⟨active, makes⟩ := ih later
    refine ⟨?_, makes.trans (makes_step first)⟩
    rw [show (s.run (op :: rest)).manager.active = ((s.step op).2.run rest).manager.active from rfl,
      active, active_step first, Option.map_map, moments]
    cases accepted : Moment.acceptedHook? ⟨s, op⟩ <;>
      simp [Function.comp_def, accepted]

/-! ## Starts -/

theorem generation_run (sound : s.IsSound) (ops : List Operation) :
    (s.run ops).host.generation =
      s.host.generation + (s.moments ops).countP (·.operation.isEffectiveStart) := by
  induction ops generalizing s with
  | nil => rfl
  | cons op rest ih =>
    have counted : (s.step op).2.host.generation = s.host.generation + startsOf op :=
      (Moment.extends_of_isBacked (m := ⟨s, op⟩) sound.backed).generation
    rw [show s.run (op :: rest) = (s.step op).2.run rest from rfl, ih (isSound_step sound op),
      counted, Operation.startsOf_eq, moments, List.countP_cons, Nat.add_assoc]
    exact congrArg (s.host.generation + ·) (Nat.add_comm _ _)

/-- An effective start leaves a pipeline just if it is completed, and this is what its calls have
returned. -/
theorem active_effective (backed : s.IsBacked) (factory : Factory) {config : Config}
    (version : String) (sink : Option SinkName) (effective : config.isEffective = true) :
    let m : Moment := ⟨s, .start factory config version sink⟩
    (m.answer = .started .ok ↔ m.after.manager.active.isSome) ∧
      ∀ p, m.after.manager.active = some p →
        s.manager.product factory config version sink s.host = .ok p := by
  intro m
  have result := Manager.fst_start_of_effective factory version sink effective backed
  have manager := Manager.manager_start_of_effective factory version sink effective backed
  have answer : m.answer = .started (s.manager.start factory config version sink s.host).1 :=
    Moment.answer_start s factory config version sink
  have active : m.after.manager.active =
      (s.manager.product factory config version sink s.host).toOption :=
    congrArg Manager.active manager
  rw [answer, result, active]
  cases s.manager.product factory config version sink s.host with
  | ok p => simp [Except.toOption]
  | error payload =>
    -- a panic breaks the start off, whatever becomes of the emitter
    cases Manager.releaseWork factory config (s.host.resource config version) <;>
      simp [StartResult.ofUnwinding, Except.toOption]

end System

namespace System

variable {s : System}

/-! ## Runs -/

/-- A shutdown leaves nothing active, and neither does a start that is effective and is not
completed. -/
theorem isEffectiveStart_of_active {m : Moment} (backed : m.before.IsBacked)
    (ends : m.operation.endsPipeline = true) (active : m.after.manager.active.isSome = true) :
    m.operation.isEffectiveStart = true ∧ m.answer = .started .ok := by
  obtain ⟨s, op⟩ := m
  cases op with
  | start factory config version sink =>
    exact ⟨ends, (active_effective backed factory version sink ends).1.mpr active⟩
  | shutdown deadline =>
    have inactive := Manager.active_shutdown s.manager deadline s.host
    change (s.manager.shutdown deadline s.host).2.1.active.isSome = true at active
    rw [inactive] at active
    cases active
  | _ => cases ends

/-- What ends a pipeline leaves no other one but that of an effective start, and the components of
this one have the number of the start. -/
theorem numbered_of_endsPipeline (backed : s.IsBacked) {op : Operation}
    (ends : op.endsPipeline = true) {p : Pipeline}
    (active : (s.step op).2.manager.active = some p) :
    op.isEffectiveStart = true ∧ (∀ g, p.logHook = some g → g = s.host.generation + 1) ∧
      ∀ g, p.bridge = some g → g = s.host.generation + 1 := by
  obtain ⟨started, -⟩ := isEffectiveStart_of_active (m := ⟨s, op⟩) backed ends
    (Option.isSome_iff_exists.mpr ⟨p, active⟩)
  have new : ∀ {held : Option Generation} {g : Generation},
      held = none ∨ held = some (s.host.generation + 1) → held = some g →
        g = s.host.generation + 1 := by
    rintro held g (rfl | rfl) found
    · cases found
    · exact (Option.some.inj found).symm
  cases op with
  | start factory config version sink =>
    obtain ⟨-, contents⟩ := active_effective backed factory version sink ends
    obtain ⟨logs, metrics, -⟩ := Manager.numbered_of_product (contents p active)
    exact ⟨started, fun _ => new logs, fun _ => new metrics⟩
  | _ => cases started

/-- After a moment since which no pipeline has ended, its pipeline is there with the hooks that were
registered since. -/
theorem active_since {ops : List Operation} {past future : List Moment} {m : Moment}
    (split : s.moments ops = past ++ m :: future)
    (since : ∀ m' ∈ future, m'.operation.endsPipeline = false) :
    (s.run ops).manager.active = m.after.manager.active.map (fun p =>
        { p with hooks := p.hooks ++ future.filterMap Moment.acceptedHook? }) ∧
      (s.run ops).host.makes = m.after.host.makes := by
  obtain ⟨xs, op, ys, rfl, -, rfl, rfl⟩ := exists_of_moments_eq split
  rw [show s.run (xs ++ op :: ys) = (Moment.after ⟨s.run xs, op⟩).run ys from
    run_append s xs (op :: ys)]
  exact active_run since

/-- A manager is active just if an effective start was completed and no pipeline has ended since. -/
theorem isActive_run_iff (new : s.IsNew) (ops : List Operation) :
    (s.run ops).manager.isActive = true ↔ ∃ past m future, s.moments ops = past ++ m :: future ∧
      m.operation.isEffectiveStart = true ∧ m.answer = .started .ok ∧
      ∀ m' ∈ future, m'.operation.endsPipeline = false := by
  constructor
  · intro active
    rcases exists_last (fun m : Moment => m.operation.endsPipeline) (s.moments ops) with
      without | ⟨past, m, future, split, ends, since⟩
    · rw [Manager.isActive, (active_run without).1, new.active] at active
      cases active
    · rw [Manager.isActive, (active_since split since).1, Option.isSome_map] at active
      have sound := isSound_of_mem_moments new.isSound (m := m) (by rw [split]; simp)
      obtain ⟨effective, completed⟩ := isEffectiveStart_of_active sound.backed ends active
      exact ⟨past, m, future, split, effective, completed, since⟩
  · rintro ⟨past, m, future, split, effective, completed, since⟩
    have sound := isSound_of_mem_moments new.isSound (m := m) (by rw [split]; simp)
    rw [Manager.isActive, (active_since split since).1, Option.isSome_map]
    obtain ⟨s', op⟩ := m
    cases op with
    | start factory config version sink =>
      exact (active_effective sound.backed factory version sink effective).1.mp completed
    | _ => cases effective

/-- An effective start is completed if no call of its factory panics. -/
theorem completed_of_neverPanics {m : Moment} (effective : m.operation.isEffectiveStart = true)
    (returns : m.operation.NeverPanics) : m.answer = .started .ok := by
  obtain ⟨s, op⟩ := m
  cases op with
  | start factory config version sink =>
    have installed := Manager.install_of_neverPanics returns (s.manager.retire s.host).1 config
      version sink (s.manager.retire s.host).2
    rw [Moment.answer_start, Manager.start_of_effective _ _ _ _ _ effective, installed.1]
  | _ => cases effective

/-- The pipeline of an effective start holds the components that its calls have returned, and no
hook. -/
theorem contents_of_start (sound : s.IsSound) {factory : Factory} {config : Config}
    {version : String} {sink : Option SinkName} (effective : config.isEffective = true)
    {p : Pipeline}
    (active : (Moment.after ⟨s, .start factory config version sink⟩).manager.active = some p) :
    let host := (Moment.after ⟨s, .start factory config version sink⟩).host
    let number := s.host.generation + 1
    let resource := s.host.resource config version
    p = ⟨config, sink.getD s.manager.ownSink,
      if config.exportLogs && factory.returns .logs config resource then some number else none,
      if config.exportMetrics && factory.returns .metrics config resource then some number
        else none, []⟩ ∧
    (∀ e, config.exportLogs = true → factory.logs config resource = .built e →
      host.emitters[number]? = some e) ∧
    ∀ b, config.exportMetrics = true → factory.metrics config resource = .built b →
      host.bridges[number]? = some b := by
  intro host number resource
  have product := (active_effective sound.backed factory version sink effective).2 p active
  have retired := Manager.reaches_replacement sound.backed
  have installed := Manager.components_install
    ((Manager.product_retire factory version sink sound.backed).trans product)
  rw [retired.generation, retired.resource] at installed
  have started : host = ((s.manager.retire s.host).1.install factory config version sink
      (s.manager.retire s.host).2).2.2 :=
    congrArg (·.2.2) (Manager.start_of_effective s.manager factory version sink s.host effective)
  rw [started]
  exact ⟨Manager.eq_of_product product, installed⟩

/-- Without panics a manager is active just if there was an effective start since the last
shutdown. -/
theorem isActive_run_iff_of_neverPanics (new : s.IsNew) {ops : List Operation}
    (returns : ∀ op ∈ ops, op.NeverPanics) :
    (s.run ops).manager.isActive = true ↔ ∃ past m future, s.moments ops = past ++ m :: future ∧
      m.operation.isEffectiveStart = true ∧ ∀ m' ∈ future, m'.operation.isShutdown = false := by
  rw [isActive_run_iff new]
  constructor
  · rintro ⟨past, m, future, split, effective, -, since⟩
    refine ⟨past, m, future, split, effective, fun m' hm => ?_⟩
    have kept := since m' hm
    rw [Operation.endsPipeline_eq, Bool.or_eq_false_iff] at kept
    exact kept.2
  · rintro ⟨past, m, future, split, effective, since⟩
    -- what ends a pipeline last from this start on is an effective start
    rcases exists_last (fun m : Moment => m.operation.endsPipeline) (m :: future) with
      without | ⟨between, m', later, cut, ends, last⟩
    · have impossible := without m List.mem_cons_self
      rw [Operation.endsPipeline_eq, effective] at impossible
      cases impossible
    · have started : m'.operation.isEffectiveStart = true := by
        have hm : m' ∈ m :: future := by rw [cut]; simp
        rcases List.mem_cons.mp hm with rfl | hm
        · exact effective
        · rw [Operation.endsPipeline_eq, since m' hm, Bool.or_false] at ends
          exact ends
      have whole : s.moments ops = (past ++ between) ++ m' :: later := by
        rw [split, cut, List.append_assoc]
      obtain ⟨xs, op, ys, rfl, -, rfl, -⟩ := exists_of_moments_eq whole
      exact ⟨past ++ between, _, later, whole, started,
        completed_of_neverPanics started (returns op (by simp)), last⟩

/-- If a manager is active, then its pipeline is of the last effective start, as no pipeline has
ended since. -/
theorem since_of_active (new : s.IsNew) {ops : List Operation} {past future : List Moment}
    {m : Moment} (split : s.moments ops = past ++ m :: future)
    (effective : m.operation.isEffectiveStart = true)
    (last : ∀ m' ∈ future, m'.operation.isEffectiveStart = false)
    (active : (s.run ops).manager.isActive = true) :
    ∀ m' ∈ future, m'.operation.endsPipeline = false := by
  obtain ⟨past', m', future', split', started, -, since⟩ := (isActive_run_iff new ops).mp active
  have none_later : ∀ m'' ∈ future', m''.operation.isEffectiveStart = false := by
    intro m'' hm
    have passed := since m'' hm
    rw [Operation.endsPipeline_eq, Bool.or_eq_false_iff] at passed
    exact passed.1
  obtain ⟨-, -, rfl⟩ := last_unique (p := fun m : Moment => m.operation.isEffectiveStart)
    (split.symm.trans split') effective started last none_later
  exact since

/-- The pipeline of a manager is that of the last effective start, if there was one after the last
shutdown: it has the components that this start has built, and the hooks accepted since. -/
theorem manager_follows_history (new : s.IsNew) (ops : List Operation) :
    let ms := s.moments ops
    let manager := (s.run ops).manager
    let host := (s.run ops).host
    ((∀ op ∈ ops, op.NeverPanics) →
      (manager.isActive = true ↔ ∃ past m future, ms = past ++ m :: future ∧
        m.operation.isEffectiveStart = true ∧ ∀ m' ∈ future, m'.operation.isShutdown = false)) ∧
    (manager.isActive = true ↔ ∃ past m future, ms = past ++ m :: future ∧
      m.operation.isEffectiveStart = true ∧ m.answer = .started .ok ∧
      ∀ m' ∈ future, m'.operation.endsPipeline = false) ∧
    ∀ past m future factory config version sink, ms = past ++ m :: future →
      m.operation = .start factory config version sink → config.isEffective = true →
      (∀ m' ∈ future, m'.operation.isEffectiveStart = false) → manager.isActive = true →
      let number := past.countP (·.operation.isEffectiveStart) + 1
      let resource := m.before.host.resource config version
      manager.logHook =
        (if config.exportLogs && factory.returns .logs config resource then some number
          else none) ∧
      manager.bridge =
        (if config.exportMetrics && factory.returns .metrics config resource then some number
          else none) ∧
      manager.hooks = future.filterMap Moment.acceptedHook? ∧
      (∀ e, config.exportLogs = true → factory.logs config resource = .built e →
        host.emitters[number]?.map Emitter.make = some e.make) ∧
      ∀ b, config.exportMetrics = true → factory.metrics config resource = .built b →
        host.bridges[number]?.map Bridge.make = some b.make := by
  intro ms manager host
  refine ⟨isActive_run_iff_of_neverPanics new, isActive_run_iff new ops, ?_⟩
  intro past m future factory config version sink split operation effective last active number
    resource
  have kept := since_of_active new split (by rw [operation]; exact effective) last active
  obtain ⟨xs, op, ys, rfl, rfl, rfl, -⟩ := exists_of_moments_eq split
  obtain rfl : op = .start factory config version sink := operation
  obtain ⟨at_last, makes⟩ := active_since split kept
  have counted : (s.run xs).host.generation + 1 = number := by
    rw [generation_run new.isSound, new.generation, Nat.zero_add]
  obtain ⟨p, hp⟩ : ∃ p, (Moment.after ⟨s.run xs, .start factory config version sink⟩).manager.active
      = some p := by
    rw [show manager.isActive = manager.active.isSome from rfl, at_last, Option.isSome_map]
      at active
    exact Option.isSome_iff_exists.mp active
  obtain ⟨rfl, emitter, bridge⟩ := contents_of_start (isSound_run new.isSound xs) effective hp
  rw [counted] at emitter bridge
  rw [hp] at at_last
  have emitters := congrArg (fun made => (made number).1) makes
  have bridges := congrArg (fun made => (made number).2) makes
  refine ⟨?_, ?_, ?_, fun e wanted built => ?_, fun b wanted built => ?_⟩
  · simp [manager, Manager.logHook, at_last, counted, resource]
  · simp [manager, Manager.bridge, at_last, counted, resource]
  · simp [manager, Manager.hooks, at_last]
  · refine emitters.trans ?_
    rw [Host.makes, emitter e wanted built, Option.map_some]
  · refine bridges.trans ?_
    rw [Host.makes, bridge b wanted built, Option.map_some]

/-- A manager whose first pipeline was shut down in vain, and whose second one lacks a bridge. The
hooks are those of the second pipeline, which neither a start with telemetry off nor one without an
endpoint takes away. -/
theorem manager_follows_history_of_restart :
    let s := fresh "own" ⟨"linux", "x86_64", 1, none⟩ [{ sink := "own" }]
    let stuck : Emitter := .ofProvider ⟨some { onShutdown := { work := .hangs } }, false⟩
    let failing : Factory := .constant (.failed .missingEndpoint) (.failed .missingEndpoint)
    let hook (name : String) : Operation := .addHook ⟨name, fun _ _ => ⟨.done, [], .zero⟩⟩
    let before : List Operation := [hook "early",
      .start (.constant (.built stuck) (.built {})) .toLocalhost "" none, hook "lost",
      .shutdown (.expired .zero)]
    let second : Operation :=
      .start (.constant (.built stuck) (.failed .missingEndpoint)) .toLocalhost "" (some "other")
    let later : List Operation := [hook "flush", .start failing {} "" none,
      .start failing { enabled := true } "" none, hook "report"]
    let manager := (s.run (before ++ second :: later)).manager
    s.IsNew ∧ manager.isActive = true ∧ manager.logHook = some 2 ∧ manager.bridge = none ∧
      manager.hooks.map Hook.name = ["flush", "report"] := by
  intro s stuck failing hook before second later manager
  have new : s.IsNew := isNew_fresh _ _ _
  let m : Moment := ⟨s.run before, second⟩
  have split : s.moments (before ++ second :: later) =
      s.moments before ++ m :: m.after.moments later := rfl
  have quiet : ∀ m' ∈ m.after.moments later,
      m'.operation.isEffectiveStart = false ∧ m'.operation.isShutdown = false := by
    intro m' hm
    obtain ⟨xs, rest, cut, -⟩ := exists_of_mem_moments hm
    have operations : ∀ op ∈ later, op.isEffectiveStart = false ∧ op.isShutdown = false := by
      decide +kernel
    exact operations _ (by rw [cut]; simp)
  obtain ⟨activity, -, contents⟩ := manager_follows_history new (before ++ second :: later)
  have returns : ∀ op ∈ before ++ second :: later, op.NeverPanics := by
    have restarted : (Factory.constant (.built stuck) (.failed .missingEndpoint)).NeverPanics :=
      Factory.neverPanics_constant (fun _ => nofun) fun _ => nofun
    have failed : failing.NeverPanics :=
      Factory.neverPanics_constant (fun _ => nofun) fun _ => nofun
    simp only [before, second, later, hook, List.cons_append, List.nil_append, List.forall_mem_cons]
    exact ⟨trivial, Factory.neverPanics_constant (fun _ => nofun) fun _ => nofun, trivial, trivial,
      restarted, trivial, failed, failed, trivial, by simp⟩
  have active : manager.isActive = true :=
    (activity returns).mpr ⟨s.moments before, m, m.after.moments later, split, by decide +kernel,
      fun m' hm => (quiet m' hm).2⟩
  obtain ⟨logs, metrics, hooks, -, -⟩ := contents (s.moments before) m (m.after.moments later)
    _ _ _ _ split rfl (by decide +kernel) (fun m' hm => (quiet m' hm).1) active
  refine ⟨new, active, ?_, ?_, ?_⟩
  · rw [logs]
    decide +kernel
  · rw [metrics]
    decide +kernel
  · rw [hooks]
    decide +kernel

end System

end Telemetry
