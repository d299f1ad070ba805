import Telemetry.Proofs.Manager.Replacement
import Telemetry.Proofs.Run.History

/-!
# A replacement is a shutdown and a start

A start while a pipeline is active leads to the same system as a shutdown, with the deadline of
replacements, and the same start after it. It does the same on the way: first all that the shutdown
does, then all that the start does. It only announces the replacement besides, and where the
shutdown would have returned an error the start reports it.

* `start_eq_shutdown_start`: the two ways compared.
-/

namespace Telemetry

/-- Whether an effect is a deed: a milestone other than an event. -/
def Effect.isDeed (effect : Effect) : Bool := effect.isMilestone && effect.event?.isNone

theorem Effect.isDeed_of_conveys {effect : Effect} {g : Generation} {entry : Entry}
    {record : Record} (conveys : effect.Conveys g entry record) : effect.isDeed = false := by
  cases effect <;> first | rfl | exact conveys.elim

namespace System

theorem IsSound.holdsAlone {s : System} (sound : s.IsSound) {p : Pipeline}
    (active : s.manager.active = some p) : p.HoldsAlone s.host := by
  intro sink
  rw [sound.holder sink, Manager.holder, active, Option.bind_some]

theorem effects_of_following {m : Moment} {k : Host} {added : List Effect}
    (after : m.after.host = k.following (m.before.host.journal ++ added)) :
    m.effects = added ++ k.journal := by
  rw [Moment.effects, after, Host.journal_following, List.append_assoc, List.drop_left]

/-- The moment of a start whose host is as `k` and has noted more before. -/
theorem moment_of_start {s : System} {factory : Factory} {config : Config} {version : String}
    {sink : Option SinkName} {result : StartResult} {manager : Manager} {k : Host}
    {added : List Effect} (told : s.manager.start factory config version sink s.host =
      (result, manager, k.following (s.host.journal ++ added))) :
    let m : Moment := ⟨s, .start factory config version sink⟩
    m.answer = .started result ∧ m.after = ⟨manager, k.following (s.host.journal ++ added)⟩ ∧
      m.effects = added ++ k.journal := by
  intro m
  have after : m.after = ⟨manager, k.following (s.host.journal ++ added)⟩ := by
    simp only [m, Moment.after, step, told]
  exact ⟨by simp only [m, Moment.answer, step, told], after, effects_of_following (by rw [after])⟩

/-- The moment of a shutdown whose host is as `k` and has noted more before. -/
theorem moment_of_shutdown {s : System} {deadline : Deadline} {result : Except ShutdownError Unit}
    {manager : Manager} {k : Host} {added : List Effect}
    (told : s.manager.shutdown deadline s.host =
      (result, manager, k.following (s.host.journal ++ added))) :
    let m : Moment := ⟨s, .shutdown deadline⟩
    m.answer = .stopped result ∧ m.after = ⟨manager, k.following (s.host.journal ++ added)⟩ ∧
      m.effects = added ++ k.journal := by
  intro m
  have after : m.after = ⟨manager, k.following (s.host.journal ++ added)⟩ := by
    simp only [m, Moment.after, step, told]
  exact ⟨by simp only [m, Moment.answer, step, told], after, effects_of_following (by rw [after])⟩

/-- The way of an announcement takes no deed, and neither does a complaint. -/
theorem filter_isDeed_replacement {p : Pipeline} {h : Host} {block torn later : List Effect}
    {result : Except ShutdownError Unit}
    (conveyed : ∀ x ∈ block, Manager.BelongsToAnnouncement p h x) :
    (.emitted .manager (Manager.replacingEvent h.clock) :: block ++ torn ++
        Manager.complaint h.clock result ++ later).filter Effect.isDeed =
      torn.filter Effect.isDeed ++ later.filter Effect.isDeed := by
  have silent : block.filter Effect.isDeed = [] := by
    rw [List.filter_eq_nil_iff]
    intro x hx
    obtain ⟨g, e, -, -, conveys⟩ := conveyed x hx
    rw [Effect.isDeed_of_conveys conveys]
    exact Bool.false_ne_true
  have announcement : (Effect.emitted .manager
      (Manager.replacingEvent h.clock) :: block).filter Effect.isDeed = [] := by
    rw [List.filter_cons_of_neg (by simp [Effect.isDeed, Effect.event?]), silent]
  have complained : (Manager.complaint h.clock result).filter Effect.isDeed = [] := by
    cases result <;> rfl
  simp only [List.filter_append, announcement, complained, List.nil_append, List.append_nil]

theorem filter_isRequest_of_inactive {m : Moment} (sound : m.before.IsSound)
    (inactive : m.before.manager.active = none) (start : m.operation.isEffectiveStart = true) :
    m.effects.filter Effect.isRequest = [] := by
  have released := Moment.released_eq sound
  obtain ⟨s, op⟩ := m
  cases op with
  | start factory config version sink =>
    have asked : (Moment.effects ⟨s, .start factory config version sink⟩).filterMap
        Effect.requested? = [] := by
      refine released.trans ?_
      simp [Manager.holdings, show s.manager.active = none from inactive]
    rw [List.filter_eq_nil_iff]
    intro x hx request
    rw [Effect.isRequest, List.filterMap_eq_nil_iff.mp asked x hx] at request
    cases request
  | _ => cases start

theorem filter_isCall_shutdown {s : System} (sound : s.IsSound) (deadline : Deadline) :
    (Moment.effects ⟨s, .shutdown deadline⟩).filter Effect.isCall = [] := by
  rw [(Moment.extends_of_isBacked (m := ⟨s, .shutdown deadline⟩) sound.backed).filter_isCall,
    effectsOf]
  cases s.manager.active with
  | none => rfl
  | some p => exact Pipeline.filter_isCall_teardownEffects p deadline s.host

/-- A start that replaces a pipeline is a shutdown followed by a start, but for an announcement and
for the report of a teardown that fails. -/
theorem start_eq_shutdown_start {s : System} (reachable : s.IsReachable) {p : Pipeline}
    (active : s.manager.active = some p) (factory : Factory) {config : Config} (version : String)
    (sink : Option SinkName) (effective : config.isEffective = true) :
    let replace : Moment := ⟨s, .start factory config version sink⟩
    let stop : Moment := ⟨s, .shutdown (.after s.host.now Manager.replaceTimeout)⟩
    let start : Moment := ⟨stop.after, .start factory config version sink⟩
    stop.after.manager.active = none ∧
    replace.after.manager = start.after.manager ∧
    replace.after.host.unwritten = start.after.host.unwritten ∧
    replace.answer = start.answer ∧
    (factory.NeverPanics → replace.answer = .started .ok ∧ replace.after.manager.isActive = true) ∧
    replace.after.manager.hooks = [] ∧
    ∃ result block, stop.answer = .stopped result ∧
      replace.effects = .emitted .manager (Manager.replacingEvent s.host.clock) :: block ++
        stop.effects ++ Manager.complaint s.host.clock result ++ start.effects ∧
      (∀ x ∈ block, Manager.BelongsToAnnouncement p s.host x) ∧
      replace.effects.filter Effect.isDeed =
        stop.effects.filter Effect.isDeed ++ start.effects.filter Effect.isDeed ∧
      stop.effects.filter Effect.isCall = [] ∧ start.effects.filter Effect.isRequest = [] := by
  intro replace stop start
  have sound := reachable.isSound
  obtain ⟨result, k, block, torn, ⟨answer, manager, host⟩, fresh, conveyed, shut, started,
    replaced⟩ := Manager.start_eq_start_shutdown active (sound.holdsAlone active)
      (sound.backed p active) factory version sink effective
  let emptied : Manager := { s.manager with active := none }
  let shutHost : Host := k.following (s.host.journal ++ torn)
  have empty : k.journal = [] := by rw [Host.journal, fresh, List.reverse_nil]
  have journal : shutHost.journal = s.host.journal ++ torn := by
    rw [Host.journal_following, empty, List.append_nil]
  obtain ⟨stop_answer, after_stop, stop_effects⟩ := moment_of_shutdown shut
  rw [empty, List.append_nil] at stop_effects
  obtain ⟨replace_answer, after_replace, replace_effects⟩ := moment_of_start replaced
  -- the start begins where the shutdown has ended, and notes nothing else before
  have begun : start = ⟨⟨emptied, shutHost⟩, .start factory config version sink⟩ :=
    congrArg (fun t => (⟨t, .start factory config version sink⟩ : Moment)) after_stop
  have told : emptied.start factory config version sink shutHost =
      (answer, manager, host.following (shutHost.journal ++ [])) := by
    rw [List.append_nil, journal]
    exact started
  obtain ⟨start_answer, after_start, start_effects⟩ :=
    moment_of_start (s := ⟨emptied, shutHost⟩) told
  rw [← begun] at start_answer after_start start_effects
  rw [List.nil_append] at start_effects
  rw [← start_effects, ← stop_effects] at replace_effects
  refine ⟨congrArg (·.manager.active) after_stop,
    (congrArg System.manager after_replace).trans (congrArg System.manager after_start).symm, ?_,
    replace_answer.trans start_answer.symm, fun returns => ?_, ?_, result, block,
    stop_answer, replace_effects, conveyed, ?_, filter_isCall_shutdown sound _, ?_⟩
  · rw [show replace.after = _ from after_replace, after_start, Host.unwritten_following,
      Host.unwritten_following]
  · have completed : replace.answer = .started .ok := completed_of_neverPanics effective returns
    exact ⟨completed,
      (active_effective sound.backed factory version sink effective).1.mp completed⟩
  · rw [Manager.hooks]
    cases built : replace.after.manager.active with
    | none => rfl
    | some q =>
      rw [(contents_of_start sound effective built).1]
      rfl
  · rw [show replace.effects = _ from replace_effects]
    exact filter_isDeed_replacement conveyed
  · exact filter_isRequest_of_inactive (isSound_step sound _)
      (congrArg (·.manager.active) after_stop) effective

/-- A pipeline is replaced whose emitter never closes and whose hook fails. The start succeeds with
another sink, and it reports what the shutdown would have returned. -/
theorem start_eq_shutdown_start_of_failing :
    let stuck : Emitter := .ofProvider ⟨some { onShutdown := { work := .hangs } }, false⟩
    let s := (fresh "own" ⟨"linux", "x86_64", 1, none⟩ [{ sink := "own" }]).run [
      .start (.constant (.built stuck) (.built {})) .toLocalhost "" none,
      .addHook ⟨"flush", fun _ _ => ⟨.failed "disk full", [], .zero⟩⟩]
    let again : Operation := .start (.constant (.built stuck) (.failed .missingEndpoint))
      .toLocalhost "" (some "other")
    let stop : Moment := ⟨s, .shutdown (.after s.host.now Manager.replaceTimeout)⟩
    let replace : Moment := ⟨s, again⟩
    let start : Moment := ⟨stop.after, again⟩
    s.IsReachable ∧ (∃ p, s.manager.active = some p) ∧
      replace.after.manager = start.after.manager ∧
      replace.after.host.unwritten = start.after.host.unwritten ∧
      replace.answer = .started .ok ∧
      ∃ e, stop.answer = .stopped (.error e) ∧
        .emitted .manager (Manager.uncleanEvent s.host.clock e) ∈ replace.effects := by
  intro stuck s again stop replace start
  have reachable : s.IsReachable := ⟨_, _, isNew_fresh _ _ _, rfl⟩
  obtain ⟨p, active⟩ : ∃ p, s.manager.active = some p :=
    Option.isSome_iff_exists.mp (by decide +kernel)
  obtain ⟨-, manager, host, -, succeeds, -, result, _, stopped, effects, -⟩ :=
    start_eq_shutdown_start reachable active
      (.constant (.built stuck) (.failed .missingEndpoint)) "" (some "other")
      (show Config.toLocalhost.isEffective = true by decide +kernel)
  have failed : (s.manager.shutdown (.after s.host.now Manager.replaceTimeout) s.host).1.isOk =
      false := by decide +kernel
  have told : (s.manager.shutdown (.after s.host.now Manager.replaceTimeout) s.host).1 = result :=
    Answer.stopped.inj stopped
  rw [told] at failed
  refine ⟨reachable, ⟨p, active⟩, manager, host,
    (succeeds (Factory.neverPanics_constant (fun _ => nofun) fun _ => nofun)).1, ?_⟩
  cases result with
  | ok _ => cases failed
  | error e =>
    refine ⟨e, stopped, ?_⟩
    rw [show replace.effects = _ from effects]
    simp [Manager.complaint]

end System

end Telemetry
