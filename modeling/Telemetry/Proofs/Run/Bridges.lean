import Telemetry.Proofs.Run.Closing
import Telemetry.Proofs.Run.Installation

/-!
# Which bridge a pipeline has

An operation that ends no pipeline leaves its bridge. One that ends the pipeline leaves no bridge, or
the one that the factory has returned to a start, under a new number.

A bridge makes instruments that record until it is shut down. Where no pipeline ends and nobody shuts
a bridge down directly, an open bridge without a worker left behind stays as it is.

* `bridge_step_of_not_endsPipeline`, `bridge_step_of_endsPipeline`: the bridge that an operation
  leaves.
* `exists_bridge_of_start`: the bridge of a start is what the factory has returned.
* `settles_step`: a bridge stays open, or shut down.
-/

namespace Telemetry

/-! ## Bridges that stay open or shut down -/

/-- A component is shut down, or it is open and no worker was left behind that could shut it
down. -/
def Closable.IsSettled (opened : Bool) (c : Closable) : Prop :=
  if opened then c.IsIdle else c.isShutdown = true

namespace Closable.IsSettled

variable {opened : Bool} {c : Closable}

theorem isShutdown (settled : c.IsSettled opened) : c.isShutdown = !opened := by
  cases opened with
  | true => exact settled.opened
  | false => exact settled

/-- Workers change nothing where nobody has asked for any. -/
theorem after (settled : c.IsSettled opened) {touches : List Touch}
    (none_made : Touch.requests touches = []) : (c.after touches).IsSettled opened := by
  cases opened with
  | true =>
    rw [after_of_no_request settled none_made]
    exact settled
  | false => exact isShutdown_after_of_shut settled touches

end Closable.IsSettled

namespace Host

variable {h k : Host} {g : Generation} {opened : Bool}

/-- A host has a bridge that is settled. -/
def Settles (g : Generation) (opened : Bool) (h : Host) : Prop :=
  ∃ c, h.closable? .metrics g = some c ∧ c.IsSettled opened

theorem settles_of_found {b : Bridge} (found : h.bridges[g]? = some b)
    (settled : b.closable.IsSettled opened) : h.Settles g opened :=
  ⟨b.closable, by rw [closable?, found, Option.map_some], settled⟩

namespace Settles

/-- A bridge that is settled makes instruments that record just if it is open. -/
theorem offers (settles : h.Settles g opened) {instrument : Instrument}
    (valid : instrument.isValid = true) : h.offers g instrument = opened := by
  obtain ⟨c, found, settled⟩ := settles
  obtain ⟨b, there, rfl⟩ := Option.map_eq_some_iff.mp found
  have shut : b.isShutdown = !opened := settled.isShutdown
  rw [Host.offers, there, Option.any_some, Bridge.offers, shut, valid, Bool.not_not, Bool.and_true]

theorem of_attends (settles : h.Settles g opened) {touches : List Touch}
    (attends : h.Attends .metrics g touches k) (none_made : Touch.requests touches = []) :
    k.Settles g opened := by
  obtain ⟨c, found, settled⟩ := settles
  refine ⟨c.after touches, ?_, settled.after none_made⟩
  rw [attends.closable, found, Option.map_some]

end Settles

end Host

/-! ## The bridge that an operation leaves -/

namespace System

variable {s : System} {g : Generation}

theorem bridge_step_of_not_endsPipeline {op : Operation} (ends : op.endsPipeline = false) :
    (s.step op).2.manager.bridge = s.manager.bridge := by
  rw [Manager.bridge, Manager.bridge, active_step ends]
  cases s.manager.active <;> rfl

/-- What ends a pipeline leaves no bridge but one with a new number. -/
theorem bridge_step_of_endsPipeline (sound : s.IsSound) {op : Operation}
    (ends : op.endsPipeline = true) (bridge : (s.step op).2.manager.bridge = some g) :
    op.isEffectiveStart = true ∧ g = s.host.generation + 1 := by
  obtain ⟨p, active, held⟩ := Option.bind_eq_some_iff.mp bridge
  obtain ⟨started, -, numbered⟩ := numbered_of_endsPipeline sound.backed ends active
  exact ⟨started, numbered g held⟩

/-- The bridge of a start is the one that the factory has returned. -/
theorem exists_bridge_of_start (sound : s.IsSound) {factory : Factory} {config : Config}
    {version : String} {sink : Option SinkName} (effective : config.isEffective = true)
    (bridge : (s.step (.start factory config version sink)).2.manager.bridge = some g) :
    ∃ b, factory.metrics config (s.host.resource config version) = .built b ∧
      (s.step (.start factory config version sink)).2.host.bridges[g]? = some b := by
  obtain ⟨p, active, held⟩ := Option.bind_eq_some_iff.mp bridge
  have product := (active_effective sound.backed factory version sink effective).2 p active
  have retired := Manager.reaches_replacement sound.backed
  rw [Manager.eq_of_product product] at held
  obtain ⟨asked, rfl⟩ : (config.exportMetrics && factory.returns .metrics config
      (s.host.resource config version)) = true ∧ s.host.generation + 1 = g := by
    dsimp only at held
    split at held
    · rename_i asked
      exact ⟨asked, Option.some.inj held⟩
    · cases held
  obtain ⟨wanted, returned⟩ := Bool.and_eq_true_iff.mp asked
  cases call : factory.metrics config (s.host.resource config version) with
  | built b =>
    have installed := (Manager.components_install
      ((Manager.product_retire factory version sink sound.backed).trans product)).2 b wanted
        (by rw [retired.resource]; exact call)
    rw [retired.generation] at installed
    refine ⟨b, rfl, ?_⟩
    change (s.manager.start factory config version sink s.host).2.2.bridges[
      s.host.generation + 1]? = some b
    rw [Manager.start_of_effective _ _ _ _ _ effective]
    exact installed
  | failed e => simp [Factory.returns, call, Build.isBuilt] at returned
  | panicked payload => simp [Factory.returns, call, Build.isBuilt] at returned

/-- Where no pipeline ends and nobody shuts a bridge down, nobody asks a bridge for anything. -/
theorem requests_of_not_endsPipeline {op : Operation} (ends : op.endsPipeline = false)
    (others : ∀ k deadline, op ≠ .shutdownBridge k deadline) :
    Touch.requests (Moment.touch? ⟨s, op⟩ .metrics g).toList = [] := by
  have requests (t : Option Touch) :
      Touch.requests t.toList = (t.bind Touch.request?).toList := by
    rcases t with _ | _ | _ <;> rfl
  rw [requests, Moment.touch?_bind_request?, Option.toList_eq_nil_iff]
  cases op with
  | start factory config version sink =>
    simp [Moment.request?, show config.isEffective = false from ends]
  | shutdown deadline => cases ends
  | shutdownBridge k deadline => exact absurd rfl (others k deadline)
  | closeEmitter k bound => simp [Moment.request?]
  | _ => rfl

/-- Where no pipeline ends and nobody shuts a bridge down, a bridge stays open, or shut down. -/
theorem settles_step (sound : s.IsSound) {op : Operation} (ends : op.endsPipeline = false)
    (others : ∀ k deadline, op ≠ .shutdownBridge k deadline) (old : g ≤ s.host.generation)
    {opened : Bool} (settles : s.host.Settles g opened) :
    (s.step op).2.host.Settles g opened :=
  settles.of_attends
    (attends_step sound.backed op fun _ => Nat.ne_of_gt (Nat.lt_succ_of_le old))
    (requests_of_not_endsPipeline ends others)

end System

end Telemetry
