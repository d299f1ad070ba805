import Std.Data.ExtTreeMap

/-!
# Maps from text to text

Labels, transport headers and attribute sets map text to text. Two maps with the same entries are
equal, and the entries are listed by ascending key.

Main statements:

* `getElem?_insertAll`: of several pairs with one key the last one counts.
* `lastValue?_eq_some_iff`: which pair the last one with a key is.
* `ofPairs_of_perm`: the pairs of a map make up the map in any order.
* `insertAll_append`: inserting two lists of pairs one after the other is inserting their
  concatenation.
-/

namespace Telemetry

/-- A map from text to text. -/
abbrev TextMap := Std.ExtTreeMap String String

namespace TextMap

/-- The map with the pairs inserted in order. -/
def insertAll (m : TextMap) (pairs : List (String × String)) : TextMap :=
  pairs.foldl (fun m pair => m.insert pair.1 pair.2) m

def ofPairs (pairs : List (String × String)) : TextMap :=
  insertAll ∅ pairs

/-- The value of the last pair with a key. -/
def lastValue? (key : String) (pairs : List (String × String)) : Option String :=
  (pairs.reverse.find? fun pair => pair.1 = key).map Prod.snd

/-- The last pair with a key has this value. -/
def Gives (pairs : List (String × String)) (key value : String) : Prop :=
  ∃ before later, pairs = before ++ (key, value) :: later ∧ key ∉ later.map Prod.fst

theorem insertAll_append (m : TextMap) (ps qs : List (String × String)) :
    insertAll m (ps ++ qs) = insertAll (insertAll m ps) qs := by
  simp [insertAll, List.foldl_append]

theorem lastValue?_cons (key : String) (pair : String × String) (rest : List (String × String)) :
    lastValue? key (pair :: rest) =
      (lastValue? key rest).or (if pair.1 = key then some pair.2 else none) := by
  by_cases h : pair.1 = key <;>
    cases hf : rest.reverse.find? (fun p => decide (p.1 = key)) <;>
    simp [lastValue?, List.find?_append, h, hf]

theorem lastValue?_append (key : String) (ps qs : List (String × String)) :
    lastValue? key (ps ++ qs) = (lastValue? key qs).or (lastValue? key ps) := by
  rw [lastValue?, List.reverse_append, List.find?_append, Option.map_or]
  rfl

theorem lastValue?_eq_none_iff {key : String} {pairs : List (String × String)} :
    lastValue? key pairs = none ↔ key ∉ pairs.map Prod.fst := by
  rw [lastValue?, Option.map_eq_none_iff, List.find?_eq_none]
  simp only [List.mem_reverse, decide_eq_true_eq, List.mem_map, not_exists, not_and]

theorem lastValue?_eq_some_iff {key value : String} {pairs : List (String × String)} :
    lastValue? key pairs = some value ↔ Gives pairs key value := by
  constructor
  · intro last
    obtain ⟨⟨key', value'⟩, found, rfl⟩ := Option.map_eq_some_iff.mp last
    obtain ⟨same, later, before, cut, others⟩ := List.find?_eq_some_iff_append.mp found
    obtain rfl : key' = key := of_decide_eq_true same
    refine ⟨before.reverse, later.reverse, ?_, ?_⟩
    · rw [← List.reverse_reverse pairs, cut, List.reverse_append, List.reverse_cons]
      simp
    · intro mem
      obtain ⟨⟨_, value''⟩, later_mem, rfl⟩ := List.mem_map.mp mem
      simpa using others _ (List.mem_reverse.mp later_mem)
  · rintro ⟨before, later, rfl, free⟩
    rw [lastValue?_append, lastValue?_cons, lastValue?_eq_none_iff.mpr free]
    simp

theorem gives_iff_mem {key value : String} {pairs : List (String × String)}
    (nodup : (pairs.map Prod.fst).Nodup) : Gives pairs key value ↔ (key, value) ∈ pairs := by
  refine ⟨fun ⟨before, later, cut, _⟩ => cut ▸ List.mem_append_right _ List.mem_cons_self, ?_⟩
  intro mem
  obtain ⟨before, later, rfl⟩ := List.append_of_mem mem
  rw [List.map_append, List.map_cons] at nodup
  exact ⟨before, later, rfl, (List.nodup_cons.mp (List.nodup_append.mp nodup).2.1).1⟩

theorem Gives.mem {key value : String} {pairs : List (String × String)}
    (gives : Gives pairs key value) : (key, value) ∈ pairs := by
  obtain ⟨before, later, rfl, -⟩ := gives
  exact List.mem_append_right _ List.mem_cons_self

theorem Gives.unique {key value value' : String} {pairs : List (String × String)}
    (gives : Gives pairs key value) (gives' : Gives pairs key value') : value = value' := by
  rw [← lastValue?_eq_some_iff] at gives gives'
  exact Option.some.inj (gives.symm.trans gives')

theorem getElem?_insertAll (m : TextMap) (pairs : List (String × String)) (key : String) :
    (insertAll m pairs)[key]? = (lastValue? key pairs).or m[key]? := by
  induction pairs generalizing m with
  | nil => simp [insertAll, lastValue?]
  | cons pair rest ih =>
    have step : insertAll m (pair :: rest) = insertAll (m.insert pair.1 pair.2) rest := rfl
    rw [step, ih, lastValue?_cons, Std.ExtTreeMap.getElem?_insert]
    by_cases h : pair.1 = key <;> cases lastValue? key rest <;> simp [h]

theorem mem_insertAll_iff {m : TextMap} {pairs : List (String × String)} {key : String} :
    key ∈ insertAll m pairs ↔ key ∈ pairs.map Prod.fst ∨ key ∈ m := by
  rw [Std.ExtTreeMap.mem_iff_isSome_getElem?, Std.ExtTreeMap.mem_iff_isSome_getElem?,
    getElem?_insertAll, Option.isSome_or, Bool.or_eq_true, Option.isSome_iff_ne_none,
    ne_eq, lastValue?_eq_none_iff, Decidable.not_not]

theorem mem_ofPairs_iff {pairs : List (String × String)} {key : String} :
    key ∈ ofPairs pairs ↔ key ∈ pairs.map Prod.fst := by
  rw [ofPairs, mem_insertAll_iff, or_iff_left Std.ExtTreeMap.not_mem_empty]

theorem getElem?_ofPairs_eq_some_iff {pairs : List (String × String)} {key value : String} :
    (ofPairs pairs)[key]? = some value ↔ Gives pairs key value := by
  rw [ofPairs, getElem?_insertAll, Std.ExtTreeMap.getElem?_empty, Option.or_none,
    lastValue?_eq_some_iff]

/-- The pairs of a map make up the map in any order. -/
theorem ofPairs_of_perm {m : TextMap} {order : List (String × String)}
    (perm : order.Perm m.toList) : ofPairs order = m := by
  have nodup : (order.map Prod.fst).Nodup := by
    rw [(perm.map Prod.fst).nodup_iff, Std.ExtTreeMap.map_fst_toList_eq_keys]
    exact Std.ExtTreeMap.nodup_keys
  refine Std.ExtTreeMap.ext_getElem? fun key => Option.ext fun value => ?_
  rw [getElem?_ofPairs_eq_some_iff, gives_iff_mem nodup, perm.mem_iff,
    Std.ExtTreeMap.mem_toList_iff_getElem?_eq_some]

end TextMap

end Telemetry
