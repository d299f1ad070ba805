import Telemetry.Proofs.Host.Components
import Telemetry.Proofs.Manager.Lifecycle

/-!
# What managers leave of what was recorded

A teardown closes components and replaces none of them, so what was recorded on a bridge is still
there. An installation puts new components under a new number and touches no older bridge.

* `kept_teardown`, `kept_retire`: what a teardown keeps.
* `series_install`: what an installation leaves on the bridges that were there before it.
-/

namespace Telemetry

/-! ## Teardowns -/

namespace Pipeline

variable (p : Pipeline) (deadline : Deadline) (h : Host)

theorem kept_closeLog : (p.closeLog deadline h).2.kept = h.kept := by
  unfold closeLog
  cases p.logHook with
  | none => rfl
  | some g => exact Host.kept_closeEmitter (h.detach p.sink) g _

theorem kept_closeMetrics : (p.closeMetrics deadline h).2.kept = h.kept := by
  unfold closeMetrics
  cases p.bridge with
  | none => rfl
  | some g => exact h.kept_shutdownBridge g deadline

theorem kept_runHooks (hooks : List Hook) : (runHooks hooks deadline h).2.kept = h.kept := by
  induction hooks generalizing h with
  | nil => rfl
  | cons hook rest ih =>
    have run : (runHook hook deadline h).2.kept = h.kept :=
      (Host.kept_of_unwritten (Host.unwritten_runHook hook deadline h)).trans
        (Host.kept_pass h _)
    exact (ih _).trans run

theorem kept_teardown : (p.teardown deadline h).2.kept = h.kept := by
  have dismantled : (p.dismantle deadline h).2.kept = h.kept :=
    (kept_runHooks deadline _ p.hooks).trans
      ((p.kept_closeMetrics deadline _).trans (p.kept_closeLog deadline h))
  simp only [teardown]
  split
  · exact dismantled
  · exact (Host.kept_of_unwritten (Host.unwritten_report _ _ _ _)).trans dismantled

end Pipeline

namespace Manager

theorem kept_shutdown (m : Manager) (deadline : Deadline) (h : Host) :
    (m.shutdown deadline h).2.2.kept = h.kept := by
  unfold shutdown
  cases m.active with
  | none => rfl
  | some p => exact p.kept_teardown deadline h

theorem kept_retire (m : Manager) (h : Host) : (m.retire h).2.kept = h.kept := by
  have told (k : Host) (level : EventLevel) (message : String) (fields : List (String × Value)) :
      (k.report level message fields).kept = k.kept :=
    Host.kept_of_unwritten (k.unwritten_report level message fields)
  unfold retire
  cases m.active with
  | none => rfl
  | some p =>
    have torn := (m.kept_shutdown (.after (announced h).now replaceTimeout) (announced h)).trans
      (told h _ _ _)
    dsimp only
    split
    · exact torn
    · exact (told _ _ _ _).trans torn

/-! ## Installations -/

variable (factory : Factory) (config : Config) (resource : Resource)

theorem bridges_buildEmitter (h : Host) (g : Generation) :
    (buildEmitter h factory config resource g).2.bridges = h.bridges := by
  have called := Host.bridges_of_unwritten (unwritten_buildWith h .logs config.exportLogs config
    resource logsFailed factory.logs)
  rw [buildEmitter_eq]
  cases (factory.logs config resource).component? config.exportLogs with
  | none => exact called
  | some emitter => exact called

theorem series_buildBridge (h : Host) {n g : Generation} (other : n ≠ g) :
    (buildBridge h factory config resource n).2.series g = h.series g := by
  have called := Host.bridges_of_unwritten (unwritten_buildWith h .metrics config.exportMetrics
    config resource metricsFailed factory.metrics)
  rw [buildBridge_eq, Host.series, Host.series]
  cases (factory.metrics config resource).component? config.exportMetrics with
  | none => exact congrArg (fun bridges => bridges[g]?.map Bridge.series) called
  | some bridge =>
    simp only [Option.elim_some, Host.setBridge, Std.ExtTreeMap.getElem?_insert,
      Std.LawfulEqOrd.compare_eq_iff_eq, if_neg other, called]

theorem bridges_unwind (m : Manager) (payload : PanicPayload) (hook : Option Generation)
    (h : Host) : (m.unwind payload hook h).2.2.bridges = h.bridges := by
  cases hook with
  | none => rfl
  | some g =>
    change (h.dropEmitter g).2.bridges = h.bridges
    rcases Host.dropEmitter_cases h g with same | ⟨e, -, -, dropped⟩
    · rw [same]
    · let erased : Host := { h with emitters := h.emitters.erase g }
      have released : (h.dropEmitter g).2.unwritten =
          (erased.pass e.provider.shutdown.work.time).unwritten := by
        rw [dropped]
        simp [erased]
      exact (Host.bridges_of_unwritten released).trans rfl

/-- An installation records nothing on the bridges that were there before it. -/
theorem series_install (m : Manager) (version : String) (sink : Option SinkName) {h : Host}
    {g : Generation} (old : g ≤ h.generation) :
    (m.install factory config version sink h).2.2.series g = h.series g := by
  have of_bridges {k l : Host} (same : k.bridges = l.bridges) : k.series g = l.series g := by
    rw [Host.series, Host.series, same]
  have told : (greeted h).bridges = h.bridges :=
    Host.bridges_of_unwritten (h := { h with generation := h.generation + 1 })
      (Host.unwritten_emitAll _ _ _)
  have logs : (afterLogs factory config version h).series g = h.series g :=
    of_bridges ((bridges_buildEmitter factory config _ _ _).trans told)
  have metrics : (afterMetrics factory config version h).series g = h.series g :=
    (series_buildBridge factory config _ _ (Nat.ne_of_gt (Nat.lt_succ_of_le old))).trans logs
  rw [install_eq]
  cases logOutcome factory config (h.resource config version) (h.generation + 1) with
  | error payload => exact logs
  | ok hook =>
    cases metricsOutcome factory config (h.resource config version) (h.generation + 1) with
    | error payload => exact (of_bridges (bridges_unwind m payload hook _)).trans metrics
    | ok bridge => exact (of_bridges (components_opening _ _).2).trans metrics

end Manager

end Telemetry
