import Mathlib.Data.List.Lattice
import Mathlib.Data.List.Pairwise
import Telemetry.Log.Sharing
import Telemetry.Proofs.Emitter.Sessions

/-!
# The laws of the labels

The labels of an emitter are what the updates have set, each key with the value that it was given
last. No call removes a key, and only updates change anything. The order of updates matters just for
the keys that several of them set: such a key gets its value from one of them, and calls without a
common key can be made in any order. Threads that share an emitter make their updates one after the
other, since each holds the lock for all its pairs.

* `gives_updates`, `gives_updates_iff`: which call a label gets its value from.
* `labels_of_perm`: calls without a common key in any order.
* `exists_order`: who finds the lock free sees what some order of whole updates does.
* `labels_laws`: the laws.
-/

namespace Telemetry

namespace Emitter

/-- The keys that a call sets. -/
def Call.keys (c : Call) : List String := c.pairs.map Prod.fst

variable (e : Emitter)

@[simp] theorem update_nil : e.update [] = e := by
  simp [update]

/-! ## Calls one after the other -/

theorem updates_cons (c : Call) (rest : List Call) :
    updates (c :: rest) = c.pairs ++ updates rest :=
  List.flatMap_cons

theorem mem_keys_updates {calls : List Call} {key : String} :
    key ∈ (updates calls).map Prod.fst ↔ ∃ c ∈ calls, key ∈ c.keys := by
  rw [updates, List.map_flatMap, List.mem_flatMap]
  rfl

theorem mem_labels_after {calls : List Call} {key : String} :
    key ∈ (e.after calls).labels ↔ (∃ c ∈ calls, key ∈ c.keys) ∨ key ∈ e.labels := by
  rw [labels_after, TextMap.mem_insertAll_iff, mem_keys_updates]

/-- A label is the last that was set for its key, or else what it was before. -/
theorem getElem?_labels_after_eq_some_iff {calls : List Call} {key value : String} :
    (e.after calls).labels[key]? = some value ↔
      TextMap.Gives (updates calls) key value ∨
        key ∉ (updates calls).map Prod.fst ∧ e.labels[key]? = some value := by
  rw [getElem?_labels_after, ← TextMap.lastValue?_eq_some_iff, ← TextMap.lastValue?_eq_none_iff]
  cases TextMap.lastValue? key (updates calls) <;> simp

/-- A key that calls set gets its value from one of them. -/
theorem gives_updates {calls : List Call} {key : String} (set : ∃ c ∈ calls, key ∈ c.keys) :
    ∃ c ∈ calls, ∃ value, TextMap.Gives c.pairs key value ∧
      TextMap.Gives (updates calls) key value := by
  simp only [← TextMap.lastValue?_eq_some_iff]
  induction calls with
  | nil => simp at set
  | cons c rest ih =>
    rw [updates_cons, TextMap.lastValue?_append]
    by_cases later : ∃ d ∈ rest, key ∈ d.keys
    · obtain ⟨d, mem, value, gives, last⟩ := ih later
      exact ⟨d, List.mem_cons_of_mem _ mem, value, gives, by rw [last, Option.some_or]⟩
    · have here : key ∈ c.keys := by
        obtain ⟨d, mem, sets⟩ := set
        rcases List.mem_cons.mp mem with rfl | mem
        · exact sets
        · exact absurd ⟨d, mem, sets⟩ later
      have none_later : TextMap.lastValue? key (updates rest) = none :=
        TextMap.lastValue?_eq_none_iff.mpr (mt mem_keys_updates.mp later)
      obtain ⟨value, gives⟩ := Option.ne_none_iff_exists'.mp
        (mt TextMap.lastValue?_eq_none_iff.mp (not_not_intro here))
      exact ⟨c, List.mem_cons_self, value, gives, by rw [none_later, Option.none_or, gives]⟩

/-- So its label is the value that one of them gives it. -/
theorem exists_label {calls : List Call} {c : Call} (mem : c ∈ calls) {key : String}
    (sets : key ∈ c.keys) :
    ∃ d ∈ calls, ∃ value, TextMap.Gives d.pairs key value ∧
      (e.after calls).labels[key]? = some value := by
  obtain ⟨d, found, value, own, last⟩ := gives_updates ⟨c, mem, sets⟩
  exact ⟨d, found, value, own, e.getElem?_labels_after_eq_some_iff.mpr (Or.inl last)⟩

/-! ## Calls without a common key -/

/-- No two of the calls set one key. -/
def KeysApart (calls : List Call) : Prop := calls.Pairwise fun c d => c.keys.Disjoint d.keys

instance : Std.Symm fun c d : Call => c.keys.Disjoint d.keys := ⟨fun _ _ => List.Disjoint.symm⟩

theorem KeysApart.of_perm {order calls : List Call} (apart : KeysApart calls)
    (perm : order.Perm calls) : KeysApart order :=
  (perm.pairwise_iff fun disjoint => List.Disjoint.symm disjoint).mpr apart

/-- Of calls without a common key each one gives its keys their values. -/
theorem gives_updates_iff {calls : List Call} (apart : KeysApart calls) {key value : String} :
    TextMap.Gives (updates calls) key value ↔ ∃ c ∈ calls, TextMap.Gives c.pairs key value := by
  constructor
  · intro gives
    obtain ⟨c, mem, found, own, last⟩ :=
      gives_updates (mem_keys_updates.mp (List.mem_map_of_mem gives.mem))
    rw [gives.unique last]
    exact ⟨c, mem, own⟩
  · rintro ⟨c, mem, gives⟩
    have sets : key ∈ c.keys := List.mem_map_of_mem gives.mem
    obtain ⟨d, mem', found, own, last⟩ := gives_updates ⟨c, mem, sets⟩
    have same : c = d := by
      by_contra differs
      exact apart.forall mem mem' differs sets (List.mem_map_of_mem own.mem)
    subst same
    rwa [gives.unique own]

/-- Calls without a common key can be made in any order. -/
theorem labels_of_perm {order calls : List Call} (apart : KeysApart calls)
    (perm : order.Perm calls) : (e.after order).labels = (e.after calls).labels := by
  refine Std.ExtTreeMap.ext_getElem? fun key => Option.ext fun value => ?_
  simp only [getElem?_labels_after_eq_some_iff, mem_keys_updates, gives_updates_iff apart,
    gives_updates_iff (apart.of_perm perm), perm.mem_iff]

end Emitter

/-! ## Threads -/

namespace Sharing

variable {ι : Type} [DecidableEq ι] {s t : Sharing ι}

/-- The updates of threads as calls of their emitter. -/
def asCalls (order : List (ι × List (String × String))) : List Emitter.Call :=
  order.map fun turn => .update turn.2

/-- Some updates, in the order in which they have got the lock since a first state: they bring the
emitter to where the update under way will bring it, and each thread has begun its own ones in
order. -/
structure Serialises (order : List (ι × List (String × String))) (s t : Sharing ι) : Prop where
  emitter : s.emitter.after (asCalls order) = t.emitter.update t.pending
  todo : ∀ i, (order.filter (·.1 = i)).map Prod.snd ++ t.todo i = s.todo i

theorem serialises_nil (free : s.writer = none) : Serialises [] s s := by
  refine ⟨?_, fun _ => rfl⟩
  rw [pending, free]
  exact s.emitter.update_nil.symm

/-- The lock is free, and a thread takes it for its next update. -/
theorem Serialises.take {order : List (ι × List (String × String))}
    (serialises : Serialises order s t) (free : t.writer = none) {i : ι}
    {pairs : List (String × String)} {rest : List (List (String × String))}
    (next : t.todo i = pairs :: rest) :
    Serialises (order ++ [(i, pairs)]) s
      { t with writer := some (i, pairs), todo := Function.update t.todo i rest } := by
  have idle : t.pending = [] := by rw [pending, free]; rfl
  constructor
  · rw [asCalls, List.map_append, Emitter.after_append]
    change (s.emitter.after (asCalls order)).update pairs = t.emitter.update pairs
    rw [serialises.emitter, idle, Emitter.update_nil]
  · intro j
    rw [← serialises.todo j]
    by_cases turn : i = j
    · subst turn
      simp [next]
    · simp [turn, Function.update_of_ne (Ne.symm turn)]

theorem Serialises.step {order : List (ι × List (String × String))}
    (serialises : Serialises order s t) (i : ι) : ∃ order', Serialises order' s (t.step i) := by
  cases writer : t.writer with
  | none =>
    cases next : t.todo i with
    | nil =>
      have idle : t.step i = t := by simp [Sharing.step, writer, next]
      rw [idle]
      exact ⟨order, serialises⟩
    | cons pairs rest =>
      refine ⟨order ++ [(i, pairs)], ?_⟩
      have taken : t.step i =
          { t with writer := some (i, pairs), todo := Function.update t.todo i rest } := by
        simp [Sharing.step, writer, next]
      rw [taken]
      exact serialises.take writer next
  | some held =>
    obtain ⟨holder, pairs⟩ := held
    by_cases same : holder = i
    · -- the holder inserts its next pair or lets the lock go: what is to come stays the same
      subst same
      have left : t.pending = pairs := by rw [pending, writer]; rfl
      refine ⟨order, ?_, ?_⟩
      · rw [serialises.emitter, left]
        cases pairs with
        | nil => simp [Sharing.step, writer, pending]
        | cons pair rest => simp [Sharing.step, writer, pending, Emitter.update]
      · cases pairs with
        | nil => simpa [Sharing.step, writer] using serialises.todo
        | cons pair rest => simpa [Sharing.step, writer] using serialises.todo
    · rw [step_of_waiting writer same]
      exact ⟨order, serialises⟩

theorem Serialises.run {order : List (ι × List (String × String))}
    (serialises : Serialises order s t) (schedule : List ι) :
    ∃ order', Serialises order' s (t.run schedule) := by
  induction schedule generalizing t order with
  | nil => exact ⟨order, serialises⟩
  | cons i rest ih =>
    obtain ⟨order', stepped⟩ := serialises.step i
    exact ih stepped

/-- Whatever the schedule, who finds the lock free finds the emitter where some order of whole
updates brings it: those that the threads have made so far, each thread its own ones in order. -/
theorem exists_order (free : s.writer = none) {schedule : List ι}
    (found : (s.run schedule).writer = none) :
    ∃ order : List (ι × List (String × String)),
      (∀ i, (order.filter (·.1 = i)).map Prod.snd ++ (s.run schedule).todo i = s.todo i) ∧
      (s.run schedule).emitter = s.emitter.after (asCalls order) := by
  obtain ⟨order, serialises⟩ := (serialises_nil free).run schedule
  refine ⟨order, serialises.todo, ?_⟩
  rw [serialises.emitter, pending, found]
  exact (Emitter.update_nil _).symm

/-- When all updates have been made, the order has each of them. -/
theorem IsDone.mem_todo_iff (done : t.IsDone) {order : List (ι × List (String × String))} {i : ι}
    (own : (order.filter (·.1 = i)).map Prod.snd ++ t.todo i = s.todo i)
    {pairs : List (String × String)} : pairs ∈ s.todo i ↔ (i, pairs) ∈ order := by
  rw [← own, done.todo i]
  simp

end Sharing

/-! ## The laws -/

namespace Emitter

/-- The label of a key is the last that was set for it. Keys are never removed, and a fire changes
no label. Calls without a common key give the same labels in any order. In any order of calls a key
that some of them set gets the value that one of these gives it. Threads that make their updates at
the same time do what some order of their updates does, as far as anybody sees who finds the lock
free; so in the end each key has a value that one of the updates gives it, and no key is missing. -/
theorem labels_laws (e : Emitter) (calls : List Call) :
    (∀ key value, (e.after calls).labels[key]? = some value ↔
      TextMap.Gives (updates calls) key value ∨
        key ∉ (updates calls).map Prod.fst ∧ e.labels[key]? = some value) ∧
    (∀ more, ∀ key ∈ (e.after calls).labels, key ∈ (e.after (calls ++ more)).labels) ∧
    (∀ ambient clock entry,
      (e.after (calls ++ [.fire ambient clock entry])).labels = (e.after calls).labels) ∧
    (KeysApart calls → ∀ order, order.Perm calls →
      (e.after order).labels = (e.after calls).labels ∧
        ∀ c ∈ calls, ∀ key ∈ c.keys, key ∈ (e.after order).labels) ∧
    (∀ order, order.Perm calls → ∀ c ∈ calls, ∀ key ∈ c.keys,
      ∃ d ∈ calls, ∃ value, TextMap.Gives d.pairs key value ∧
        (e.after order).labels[key]? = some value) ∧
    ∀ {ι : Type} [DecidableEq ι] (s : Sharing ι) (schedule : List ι),
      s.emitter = e → s.writer = none →
        ((s.run schedule).writer = none → ∃ order : List (ι × List (String × String)),
          (∀ i, (order.filter (·.1 = i)).map Prod.snd ++ (s.run schedule).todo i = s.todo i) ∧
          (s.run schedule).emitter = e.after (Sharing.asCalls order)) ∧
        ((s.run schedule).IsDone → ∀ i, ∀ pairs ∈ s.todo i, ∀ key ∈ pairs.map Prod.fst,
          ∃ j, ∃ pairs' ∈ s.todo j, ∃ value, TextMap.Gives pairs' key value ∧
            (s.run schedule).emitter.labels[key]? = some value) := by
  refine ⟨fun _ _ => e.getElem?_labels_after_eq_some_iff, ?_, ?_, ?_, ?_, ?_⟩
  · intro more key mem
    rw [after_append]
    exact (e.after calls).mem_labels_after.mpr (Or.inr mem)
  · intro ambient clock entry
    rw [after_append]
    exact congrArg labels ((e.after calls).emitter_fire ambient clock entry)
  · intro apart order perm
    refine ⟨e.labels_of_perm apart perm, fun c mem key sets => ?_⟩
    exact e.mem_labels_after.mpr (Or.inl ⟨c, perm.mem_iff.mpr mem, sets⟩)
  · intro order perm c mem key sets
    obtain ⟨d, found, result⟩ := e.exists_label (perm.mem_iff.mpr mem) sets
    exact ⟨d, perm.mem_iff.mp found, result⟩
  · rintro ι _ s schedule rfl free
    refine ⟨Sharing.exists_order free, fun done i pairs begun key sets => ?_⟩
    obtain ⟨order, own, emitter⟩ := Sharing.exists_order free done.free
    have mem : Call.update pairs ∈ Sharing.asCalls order :=
      List.mem_map.mpr ⟨(i, pairs), (done.mem_todo_iff (own i)).mp begun, rfl⟩
    obtain ⟨d, found, value, gives, label⟩ := s.emitter.exists_label mem sets
    obtain ⟨⟨j, pairs'⟩, turn, rfl⟩ := List.mem_map.mp found
    exact ⟨j, pairs', (done.mem_todo_iff (own j)).mpr turn, value, gives, by rw [emitter, label]⟩

/-- Two threads that update at the same time, each a shared key and one of its own. -/
theorem labels_laws_of_threads :
    let pairs (i : Bool) : List (String × String) :=
      [("shared", toString i), ("own-" ++ toString i, "x")]
    let s : Sharing Bool := { emitter := .ofProvider ⟨none, false⟩, todo := fun i => [pairs i] }
    let t := s.run [true, false, true, false, true, true, false, true, false, false, false]
    t.IsDone ∧ (∀ i : Bool, "own-" ++ toString i ∈ t.emitter.labels) ∧
      ∃ i : Bool, t.emitter.labels["shared"]? = some (toString i) := by
  intro pairs s t
  have done : t.IsDone := ⟨by decide +kernel, by decide +kernel⟩
  obtain ⟨-, -, -, -, -, threads⟩ := labels_laws s.emitter []
  have laws := (threads s _ rfl rfl).2 done
  refine ⟨done, fun i => ?_, ?_⟩
  · obtain ⟨-, -, -, value, -, label⟩ :=
      laws i (pairs i) List.mem_cons_self ("own-" ++ toString i) (by simp [pairs])
    exact Std.ExtTreeMap.mem_iff_isSome_getElem?.mpr (by rw [label]; rfl)
  · obtain ⟨j, _, begun, value, gives, label⟩ :=
      laws true (pairs true) List.mem_cons_self "shared" (by simp [pairs])
    obtain rfl := List.mem_singleton.mp begun
    have last : TextMap.lastValue? "shared" (pairs j) = some (toString j) := by
      cases j <;> decide +kernel
    rw [TextMap.lastValue?_eq_some_iff] at last
    exact ⟨j, by rw [label, gives.unique last]⟩

end Emitter

end Telemetry
