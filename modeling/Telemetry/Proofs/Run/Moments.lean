import Telemetry.Proofs.Run.Soundness

/-!
# The moments of a run

A run is a list of moments: an operation and the system that it is done to. A moment adds its
effects to the journal of the host. The journal of a run is made of the effects of its moments, and
what comes before a moment of a run is itself a run.

* `exists_last`, `last_unique`: the last place in a list with a property.
* `exists_of_moments_eq`: runs are composed of runs.
* `Moment.extends_of_isBacked`: the effects of a moment.
* `Extends.filter_effects`, `Extends.filterMap_effects`: what hangs on its milestones only.
* `journal_run`, `sinks_run`, `routed_moments`: the effects of a run.
-/

namespace Telemetry

/-! ## Last places -/

/-- Where something in a list has a property, something has it last. -/
theorem exists_last {α : Type} (p : α → Bool) (xs : List α) :
    (∀ x ∈ xs, p x = false) ∨
      ∃ past x future, xs = past ++ x :: future ∧ p x = true ∧ ∀ y ∈ future, p y = false := by
  induction xs with
  | nil => exact Or.inl (by simp)
  | cons first rest ih =>
    rcases ih with without | ⟨past, x, future, rfl, hx, last⟩
    · cases hf : p first with
      | true => exact Or.inr ⟨[], first, rest, rfl, hf, without⟩
      | false => exact Or.inl (List.forall_mem_cons.mpr ⟨hf, without⟩)
    · exact Or.inr ⟨first :: past, x, future, rfl, hx, last⟩

/-- There is one place only where something has a property last. -/
theorem last_unique {α : Type} {p : α → Bool} {past past' future future' : List α} {x x' : α}
    (same : past ++ x :: future = past' ++ x' :: future') (hx : p x = true) (hx' : p x' = true)
    (last : ∀ y ∈ future, p y = false) (last' : ∀ y ∈ future', p y = false) :
    past = past' ∧ x = x' ∧ future = future' := by
  have later : ∀ {between front back : List α} {z : α}, p z = true →
      (∀ y ∈ back, p y = false) → back ≠ between ++ z :: front := by
    rintro between front back z hz none_left rfl
    have missing := none_left z (by simp)
    rw [hz] at missing
    cases missing
  rcases List.append_eq_append_iff.mp same with ⟨between, rfl, cut⟩ | ⟨between, rfl, cut⟩
  · cases between with
    | nil =>
      obtain ⟨rfl, rfl⟩ := List.cons.inj cut
      exact ⟨by simp, rfl, rfl⟩
    | cons y between => exact absurd (List.cons.inj cut).2 (later hx' last)
  · cases between with
    | nil =>
      obtain ⟨rfl, rfl⟩ := List.cons.inj cut
      exact ⟨by simp, rfl, rfl⟩
    | cons y between => exact absurd (List.cons.inj cut).2 (later hx last')

/-! ## Moments -/

/-- An operation of a run, with the system that it is done to. -/
structure Moment where
  before : System
  operation : Operation

namespace Moment

def after (m : Moment) : System := (m.before.step m.operation).2

def answer (m : Moment) : Answer := (m.before.step m.operation).1

theorem answer_start (s : System) (factory : Factory) (config : Config) (version : String)
    (sink : Option SinkName) :
    answer ⟨s, .start factory config version sink⟩ =
      .started (s.manager.start factory config version sink s.host).1 :=
  rfl

/-- What the operation adds to the journal. -/
def effects (m : Moment) : List Effect :=
  m.after.host.journal.drop m.before.host.journal.length

end Moment

namespace System

def moments (s : System) : List Operation → List Moment
  | [] => []
  | op :: rest => ⟨s, op⟩ :: (s.step op).2.moments rest

/-- What stands before a moment of a run is a run, and so is what stands after it. -/
theorem exists_of_moments_eq {s : System} {ops : List Operation} {past future : List Moment}
    {m : Moment} (h : s.moments ops = past ++ m :: future) :
    ∃ xs op ys, ops = xs ++ op :: ys ∧ past = s.moments xs ∧ m = ⟨s.run xs, op⟩ ∧
      future = m.after.moments ys := by
  induction past generalizing s ops with
  | nil =>
    cases ops with
    | nil => cases h
    | cons op rest =>
      obtain ⟨rfl, rfl⟩ := List.cons.inj h
      exact ⟨[], op, rest, rfl, rfl, rfl, rfl⟩
  | cons first past ih =>
    cases ops with
    | nil => cases h
    | cons op rest =>
      obtain ⟨rfl, tail⟩ := List.cons.inj h
      obtain ⟨xs, op', ys, rfl, rfl, rfl, rfl⟩ := ih tail
      exact ⟨op :: xs, op', ys, rfl, rfl, rfl, rfl⟩

end System

namespace Moment

/-- The effects of a moment carry the journal from before it to after it. -/
structure Extends (m : Moment) : Prop where
  journal : m.after.host.journal = m.before.host.journal ++ m.effects
  milestones : m.effects.filter Effect.isMilestone = m.before.effectsOf m.operation
  routed : Routed m.before.host.layers m.before.host.sinks m.effects
  sinks : m.after.host.sinks = m.effects.foldl Effect.act m.before.host.sinks
  layers : m.after.host.layers = m.before.host.layers
  clock : m.after.host.clock = m.before.host.clock
  generation : m.after.host.generation = m.before.host.generation + System.startsOf m.operation

theorem extends_of_isBacked {m : Moment} (backed : m.before.IsBacked) : m.Extends := by
  have reached := System.reaches_step backed m.operation
  obtain ⟨added, journal, milestones, routed, sinks⟩ := reached.added
  have journal : m.after.host.journal = m.before.host.journal ++ added := journal
  have effects : m.effects = added := by rw [Moment.effects, journal, List.drop_left]
  exact ⟨by rw [journal, effects], by rw [effects, milestones], by rw [effects]; exact routed,
    by rw [effects]; exact sinks, reached.layers, reached.clock, reached.generation⟩

/-- Of some kind of milestones a moment has those of its operation. -/
theorem Extends.filter_effects {m : Moment} (h : m.Extends) {keep : Effect → Bool}
    (kind : ∀ x, (keep x && x.isMilestone) = keep x) :
    m.effects.filter keep = (m.before.effectsOf m.operation).filter keep := by
  rw [← h.milestones, List.filter_filter]
  exact congrArg (List.filter · m.effects) (funext fun x => (kind x).symm)

/-- What is read off milestones only is read off those of the operation. -/
theorem Extends.filterMap_effects {α : Type} {m : Moment} (h : m.Extends) {read : Effect → Option α}
    (kind : ∀ x, (if x.isMilestone then read x else none) = read x) :
    m.effects.filterMap read = (m.before.effectsOf m.operation).filterMap read := by
  rw [← h.milestones, List.filterMap_filter]
  exact congrArg (List.filterMap · m.effects) (funext fun x => (kind x).symm)

/-- Every call of a factory is a milestone. -/
theorem Extends.filter_isCall {m : Moment} (h : m.Extends) :
    m.effects.filter Effect.isCall =
      (m.before.effectsOf m.operation).filter Effect.isCall :=
  h.filter_effects fun x => by cases x <;> rfl

end Moment

namespace System

variable {s : System}

theorem exists_of_mem_moments {ops : List Operation} {m : Moment} (hm : m ∈ s.moments ops) :
    ∃ xs rest, ops = xs ++ m.operation :: rest ∧ m.before = s.run xs := by
  obtain ⟨past, future, split⟩ := List.append_of_mem hm
  obtain ⟨xs, op, rest, rfl, -, rfl, -⟩ := exists_of_moments_eq split
  exact ⟨xs, rest, rfl, rfl⟩

theorem isSound_of_mem_moments (sound : s.IsSound) {ops : List Operation} {m : Moment}
    (hm : m ∈ s.moments ops) : m.before.IsSound := by
  obtain ⟨xs, -, -, before⟩ := exists_of_mem_moments hm
  rw [before]
  exact isSound_run sound xs

/-- The journal of a run consists of the effects of its moments. -/
theorem journal_run (sound : s.IsSound) (ops : List Operation) :
    (s.run ops).host.journal =
      s.host.journal ++ (s.moments ops).flatMap Moment.effects := by
  induction ops generalizing s with
  | nil => simp [run, moments]
  | cons op rest ih =>
    have first := (Moment.extends_of_isBacked (m := ⟨s, op⟩) sound.backed).journal
    have later := ih (isSound_step sound op)
    rw [moments, List.flatMap_cons, ← List.append_assoc, ← first]
    exact later

theorem sinks_run (sound : s.IsSound) (ops : List Operation) :
    (s.run ops).host.sinks =
      ((s.moments ops).flatMap Moment.effects).foldl Effect.act s.host.sinks := by
  induction ops generalizing s with
  | nil => rfl
  | cons op rest ih =>
    have first := (Moment.extends_of_isBacked (m := ⟨s, op⟩) sound.backed).sinks
    have later := ih (isSound_step sound op)
    rw [moments, List.flatMap_cons, List.foldl_append, ← first]
    exact later

theorem layers_run (sound : s.IsSound) (ops : List Operation) :
    (s.run ops).host.layers = s.host.layers := by
  induction ops generalizing s with
  | nil => rfl
  | cons op rest ih =>
    exact (ih (isSound_step sound op)).trans
      (Moment.extends_of_isBacked (m := ⟨s, op⟩) sound.backed).layers

theorem generation_le_run (sound : s.IsSound) (ops : List Operation) :
    s.host.generation ≤ (s.run ops).host.generation := by
  induction ops generalizing s with
  | nil => exact Nat.le_refl _
  | cons op rest ih =>
    have counted := (Moment.extends_of_isBacked (m := ⟨s, op⟩) sound.backed).generation
    have later := ih (isSound_step sound op)
    change (Moment.after ⟨s, op⟩).host.generation ≤ _ at later
    rw [counted] at later
    exact Nat.le_trans (Nat.le_add_right _ _) later

/-- All that happens in a run is routed. -/
theorem routed_moments (sound : s.IsSound) (ops : List Operation) :
    Routed s.host.layers s.host.sinks ((s.moments ops).flatMap Moment.effects) := by
  induction ops generalizing s with
  | nil => exact .nil _
  | cons op rest ih =>
    have first := Moment.extends_of_isBacked (m := ⟨s, op⟩) sound.backed
    have later := ih (isSound_step sound op)
    rw [moments, List.flatMap_cons]
    refine first.routed.append ?_
    rw [← first.sinks, ← first.layers]
    exact later

end System

end Telemetry
