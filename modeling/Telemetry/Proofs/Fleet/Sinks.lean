import Telemetry.Manager.Fleet
import Telemetry.Proofs.Run.Bystanders

/-!
# Managers that share a sink

A sink does not know who has attached the emitter that it holds. A teardown frees the sink of a
pipeline with an emitter, so it takes away the emitter of another manager if this manager has
attached it to the same sink since. The other manager remains active with an emitter that no event
reaches any more: a sink gets none but the emitter of the start that attaches it.

* `isSound_step`, `isSound_run`: a sink holds nothing but the emitter of an active pipeline that
  uses it, and no two managers have an emitter in common.
* `omits_run`: an emitter that no sink holds is lost for good.
* `keeps_neighbour_iff`: when a teardown leaves the emitter of another manager in the sink.
-/

namespace Telemetry

namespace Fleet

variable {ι : Type} {t : Fleet ι}

/-- Managers that have done nothing, in a host in which nothing has happened. -/
def IsNew (t : Fleet ι) : Prop := ∀ i, (t.system i).IsNew

theorem isNew_fresh (ownSinks : ι → SinkName) (platform : Platform) (layers : List Layer) :
    (fresh ownSinks platform layers).IsNew :=
  fun _ => ⟨rfl, rfl, rfl, rfl, rfl, rfl⟩

/-- What the managers of a fleet keep of each other. -/
structure IsSound (t : Fleet ι) : Prop where
  numbered : t.host.IsNumbered
  backed : ∀ i, (t.system i).IsBacked
  distinct : ∀ i j g, (t.managers i).logHook = some g → (t.managers j).logHook = some g → i = j
  held : ∀ (sink : SinkName) g, t.host.sinks[sink]? = some g →
    ∃ i, (t.managers i).holder sink = some g

theorem IsNew.isSound [Nonempty ι] (new : t.IsNew) : t.IsSound := by
  obtain ⟨i⟩ := ‹Nonempty ι›
  refine ⟨(new i).isNumbered, fun i => (new i).isSound.backed, fun i _ g hook _ => ?_,
    fun sink g held => ?_⟩
  · rw [Manager.logHook, show (t.managers i).active = none from (new i).active] at hook
    cases hook
  · rw [show t.host.sinks = ∅ from (new i).sinks] at held
    simp at held

/-- A teardown that frees the sink of another manager leaves its emitter nowhere. -/
theorem IsSound.lacks_vacated (sound : t.IsSound) {i j : ι} {g : Generation} {sink : SinkName}
    (uses : (t.managers j).holder sink = some g)
    (attaches : ((t.managers i).holder sink).isSome = true) {op : Operation}
    (ends : op.endsPipeline = true) : ((t.system i).vacated op).Lacks g := by
  have backed := sound.backed i
  have hook := Manager.logHook_of_holder uses
  refine ⟨?_, fun other left => ?_⟩
  · rw [System.generation_vacated backed op]
    exact System.le_generation_of_logHook (s := t.system j) (sound.backed j) sound.numbered hook
  · rw [System.getElem?_vacated backed ends] at left
    split at left
    · cases left
    · rename_i free
      obtain ⟨k, holds⟩ := sound.held other g left
      obtain rfl := sound.distinct k j g (Manager.logHook_of_holder holds) hook
      -- an emitter is held by the sink of its pipeline only
      rw [Manager.eq_of_holder holds uses] at free
      exact free attaches

variable [DecidableEq ι]

theorem isBacked_step (sound : t.IsSound) (i : ι) (op : Operation) (j : ι) :
    ((t.step i op).2.system j).IsBacked := by
  rcases eq_or_ne j i with rfl | apart
  · rw [system, managers_step]
    exact System.isBacked_step (sound.backed j) op
  · rw [system, managers_step_of_ne t apart]
    exact fun p active =>
      System.isBacked_of_step (sound.backed i) sound.numbered op (sound.backed j p active)

/-- The emitter that an operation leaves to its manager is none of another manager. -/
theorem logHook_ne_of_step (sound : t.IsSound) {i j : ι} (apart : j ≠ i) (op : Operation)
    {g : Generation} (hook : ((t.step i op).2.managers i).logHook = some g) :
    (t.managers j).logHook ≠ some g := by
  intro shared
  rw [managers_step] at hook
  rcases System.logHook_of_step (sound.backed i) op hook with before | rfl
  · exact apart (sound.distinct j i g shared before)
  · exact Nat.not_succ_le_self _
      (System.le_generation_of_logHook (s := t.system j) (sound.backed j) sound.numbered shared)

theorem distinct_step (sound : t.IsSound) (i : ι) (op : Operation) (j k : ι) (g : Generation)
    (hj : ((t.step i op).2.managers j).logHook = some g)
    (hk : ((t.step i op).2.managers k).logHook = some g) : j = k := by
  rcases eq_or_ne j i with rfl | mine
  · rcases eq_or_ne k j with rfl | yours
    · rfl
    · rw [managers_step_of_ne t yours] at hk
      exact absurd hk (logHook_ne_of_step sound yours op hj)
  · rw [managers_step_of_ne t mine] at hj
    rcases eq_or_ne k i with rfl | yours
    · exact absurd hj (logHook_ne_of_step sound mine op hk)
    · rw [managers_step_of_ne t yours] at hk
      exact sound.distinct j k g hj hk

theorem exists_holder_step (sound : t.IsSound) (i : ι) (op : Operation) (sink : SinkName)
    (g : Generation) (held : (t.step i op).2.host.sinks[sink]? = some g) :
    ∃ j, ((t.step i op).2.managers j).holder sink = some g := by
  rcases System.holder_of_held (sound.backed i) op held with own | ⟨before, other⟩
  · exact ⟨i, by rw [managers_step]; exact own⟩
  · obtain ⟨j, holds⟩ := sound.held sink g before
    have apart : j ≠ i := by
      rintro rfl
      exact other holds
    exact ⟨j, by rw [managers_step_of_ne t apart]; exact holds⟩

theorem isSound_step (sound : t.IsSound) (i : ι) (op : Operation) :
    (t.step i op).2.IsSound where
  numbered := System.isNumbered_step (sound.backed i) sound.numbered op
  backed := isBacked_step sound i op
  distinct := distinct_step sound i op
  held := exists_holder_step sound i op

theorem isSound_run (sound : t.IsSound) (moves : List (ι × Operation)) : (t.run moves).IsSound := by
  induction moves generalizing t with
  | nil => exact sound
  | cons move rest ih => exact ih (isSound_step sound move.1 move.2)

/-- Managers to which some run of new ones leads. -/
def IsReachable (t : Fleet ι) : Prop := ∃ new moves, IsNew new ∧ t = new.run moves

theorem IsReachable.isSound [Nonempty ι] (reachable : t.IsReachable) : t.IsSound := by
  obtain ⟨new, moves, hnew, rfl⟩ := reachable
  exact isSound_run hnew.isSound moves

/-- An emitter that no sink holds is lost for good: no event reaches it in any run. -/
theorem omits_run (sound : t.IsSound) {g : Generation} (lacks : t.host.Lacks g)
    (moves : List (ι × Operation)) : Host.Omits g t.host (t.run moves).host := by
  induction moves generalizing t with
  | nil => exact .refl lacks
  | cons move rest ih =>
    have first : Host.Omits g t.host (t.step move.1 move.2).2.host :=
      System.omits_step (sound.backed move.1) lacks move.2
    exact first.trans (ih (isSound_step sound move.1 move.2) first.lacks)

/-! ## Two managers on one sink -/

/-- A start that puts the logs of its pipeline on one sink. -/
def toShared : Operation :=
  .start (.constant (.built (.ofProvider ⟨some {}, false⟩)) (.failed .missingEndpoint))
    .toLocalhost "" (some "shared")

/-- Two managers that have been started one after the other, on one sink. -/
def sharing : Fleet Bool :=
  (fresh (fun second => if second then "second" else "first") ⟨"linux", "x86_64", 1, none⟩
    [{ sink := "shared" }]).run [(false, toShared), (true, toShared)]

theorem isReachable_sharing : sharing.IsReachable := ⟨_, _, isNew_fresh _ _ _, rfl⟩

theorem active_sharing :
    ∃ p q, (sharing.managers false).active = some p ∧ (sharing.managers true).active = some q ∧
      p.sink = "shared" ∧ p.logHook = some 1 ∧ q.sink = "shared" ∧ q.logHook = some 2 ∧
      sharing.host.sinks["shared"]? = some 2 := by
  have first : (sharing.managers false).active.any
      (fun p => p.sink = "shared" ∧ p.logHook = some 1) = true := by decide +kernel
  have second : (sharing.managers true).active.any
      (fun q => q.sink = "shared" ∧ q.logHook = some 2) = true := by decide +kernel
  obtain ⟨p, hp, own⟩ := (Option.any_eq_true _ _).mp first
  obtain ⟨q, hq, other⟩ := (Option.any_eq_true _ _).mp second
  obtain ⟨psink, phook⟩ := of_decide_eq_true own
  obtain ⟨qsink, qhook⟩ := of_decide_eq_true other
  exact ⟨p, q, hp, hq, psink, phook, qsink, qhook, by decide +kernel⟩

/-- A teardown leaves the emitter of another manager in its sink just if the pipeline that is taken
down has no emitter or uses another sink. Otherwise the sink holds nothing, although the emitter in
it was not that of the pipeline. The other manager remains active with this emitter, and no event
reaches it any more, whatever is done to the managers. -/
theorem keeps_neighbour_iff (reachable : t.IsReachable) {i j : ι} (apart : i ≠ j)
    {p q : Pipeline} {g : Generation} (own : (t.managers i).active = some p)
    (neighbour : (t.managers j).active = some q) (hook : q.logHook = some g)
    (held : t.host.sinks[q.sink]? = some g) {op : Operation} (ends : op.endsPipeline = true) :
    let torn := (t.system i).vacated op
    let after := (t.step i op).2
    p.logHook ≠ some g ∧ (after.managers j).active = some q ∧
    (torn.sinks[q.sink]? = some g ↔ p.logHook = none ∨ p.sink ≠ q.sink) ∧
    (p.logHook ≠ none → p.sink = q.sink →
      torn.sinks[q.sink]? = none ∧ ∀ moves, Host.Omits g torn (after.run moves).host) := by
  intro torn after
  have sound : t.IsSound := by
    have : Nonempty ι := ⟨i⟩
    exact reachable.isSound
  have uses : (t.managers j).holder q.sink = some g :=
    Manager.holder_eq_some_iff.mpr ⟨q, neighbour, rfl, hook⟩
  have mine : (t.managers i).holder q.sink = if p.sink = q.sink then p.logHook else none := by
    rw [Manager.holder, own, Option.bind_some]
  have left : torn.sinks[q.sink]? =
      if ((t.managers i).holder q.sink).isSome then none else some g := by
    rw [← held]
    exact System.getElem?_vacated (sound.backed i) ends q.sink
  refine ⟨fun shared => apart ?_, ?_, ?_, fun attaches same => ?_⟩
  · exact sound.distinct i j g (Option.bind_eq_some_iff.mpr ⟨p, own, shared⟩)
      (Manager.logHook_of_holder uses)
  · rw [managers_step_of_ne t apart.symm]
    exact neighbour
  · rw [left, mine]
    by_cases same : p.sink = q.sink
    · cases logs : p.logHook <;> simp [same]
    · simp [same]
  · have attached : ((t.managers i).holder q.sink).isSome = true := by
      rw [mine, if_pos same]
      exact Option.isSome_iff_ne_none.mpr attaches
    have lacks := sound.lacks_vacated uses attached ends
    refine ⟨by rw [left, if_pos attached], fun moves => ?_⟩
    have first : Host.Omits g torn after.host := System.omits_of_vacated ends lacks
    exact first.trans (omits_run (isSound_step sound i op) first.lacks moves)

/-- The manager that was started first is restarted on the sink of both, and the emitter of the
other one is lost. -/
theorem keeps_neighbour_iff_of_restart :
    let torn := (sharing.system false).vacated toShared
    let after := (sharing.step false toShared).2
    sharing.IsReachable ∧ sharing.host.sinks["shared"]? = some 2 ∧
      torn.sinks["shared"]? = none ∧ (after.managers true).logHook = some 2 ∧
      ∀ moves, Host.Omits 2 torn (after.run moves).host := by
  intro torn after
  obtain ⟨p, q, own, neighbour, psink, phook, qsink, qhook, held⟩ := active_sharing
  have attaches : p.logHook ≠ none := by simp [phook]
  have same : p.sink = q.sink := psink.trans qsink.symm
  have ends : toShared.endsPipeline = true := by decide +kernel
  obtain ⟨-, active, -, lost⟩ := keeps_neighbour_iff isReachable_sharing (by decide) own neighbour
    qhook (by rw [qsink]; exact held) ends
  obtain ⟨free, omits⟩ := lost attaches same
  exact ⟨isReachable_sharing, held, by rw [← qsink]; exact free,
    Option.bind_eq_some_iff.mpr ⟨q, active, qhook⟩, omits⟩

end Fleet

/-- An operation is a shutdown, or a start that is given a sink. -/
def Operation.UsesOnly (sink : SinkName) : Operation → Prop
  | .start _ _ _ own => own = some sink
  | .shutdown _ => True
  | _ => False

namespace Fleet

/-- Managers that are started on one sink do cut each other off: the one that was started first is
shut down, and the sink loses the emitter of the other. -/
theorem not_always_keeps_neighbour :
    ¬ ∀ (new : Fleet Bool) (sink : SinkName) (moves : List (Bool × Operation)), new.IsNew →
      (∀ move ∈ moves, move.2.UsesOnly sink) → ∀ i j, i ≠ j → ∀ p q g,
        ((new.run moves).managers i).active = some p →
        ((new.run moves).managers j).active = some q → q.logHook = some g →
        (new.run moves).host.sinks[sink]? = some g → ∀ op, op.UsesOnly sink →
          op.endsPipeline = true →
          (((new.run moves).system i).vacated op).sinks[sink]? = some g := by
  intro keeps
  obtain ⟨p, q, own, neighbour, -, -, -, qhook, held⟩ := active_sharing
  have given : ∀ move ∈ [(false, toShared), (true, toShared)], move.2.UsesOnly "shared" := by
    simp [toShared, Operation.UsesOnly]
  have kept := keeps _ "shared" _ (isNew_fresh _ _ _) given false true (by decide) p q 2 own
    neighbour qhook held (.shutdown (.after .zero (.ofSecs 20))) trivial rfl
  have lost : ((sharing.system false).vacated
      (.shutdown (.after .zero (.ofSecs 20)))).sinks["shared"]? = none := by decide +kernel
  cases lost.symm.trans kept

end Fleet

end Telemetry
