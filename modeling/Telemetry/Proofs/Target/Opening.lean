import Mathlib.Logic.ExistsUnique
import Telemetry.Proofs.Host.Guard

/-!
# Targets by their opening

The opening of a target is the longest part at its start without an underscore and a colon. Whether
a target is one of the transport hangs on its opening alone, which has to be the name of a library:
no name has a boundary in it, so a target goes on behind a name with a boundary just if it opens
with that name. What stands behind the opening does not count, and so the modules inside a module
of the transport are of the transport too.

* `isOpening_iff`: the opening of a target is what stands before its first boundary.
* `isOfTransport_iff_mem`: the targets of the transport by their openings.
* `transport_by_opening`: what follows for modules and for targets that only begin with a name.
-/

namespace Telemetry.Target

/-- No underscore and no colon stands in a text. -/
def IsUnbroken (text : String) : Prop := ∀ c ∈ text.toList, c ≠ '_' ∧ c ≠ ':'

instance (text : String) : Decidable (IsUnbroken text) := List.decidableBAll _ text.toList

/-- The longest unbroken part at the start of a target. -/
structure IsOpening (opening target : String) : Prop where
  starts : opening.toList <+: target.toList
  unbroken : IsUnbroken opening
  longest : ∀ other : String, other.toList <+: target.toList → IsUnbroken other →
    other.length ≤ opening.length

/-- What stands before the first boundary of a target. -/
def beforeBoundary (target : List Char) : List Char := target.takeWhile fun c => !isBoundary c

variable {target text opening library : String}

theorem isUnbroken_iff : IsUnbroken text ↔ ∀ c ∈ text.toList, (!isBoundary c) = true := by
  simp [IsUnbroken, isBoundary]

theorem isUnbroken_of_mem_transports : ∀ library ∈ transports, IsUnbroken library := by
  decide +kernel

theorem beforeBoundary_of_isUnbroken (unbroken : IsUnbroken text) :
    beforeBoundary text.toList = text.toList :=
  Text.takeWhile_of_all (isUnbroken_iff.mp unbroken)

/-- What stands behind a boundary does not count. -/
theorem beforeBoundary_append_cons {c : Char} (boundary : isBoundary c = true)
    (s behind : List Char) : beforeBoundary (s ++ c :: behind) = beforeBoundary s := by
  have stops : (c :: behind).takeWhile (fun c => !isBoundary c) = [] :=
    List.takeWhile_cons_of_neg (by simp [boundary])
  rw [beforeBoundary, List.takeWhile_append, stops, List.append_nil, beforeBoundary]
  split
  case isTrue whole => exact ((List.takeWhile_prefix _).eq_of_length whole).symm
  case isFalse => rfl

/-! ## The opening of a target -/

/-- An unbroken part at the start ends before the first boundary. -/
theorem prefix_beforeBoundary (starts : text.toList <+: target.toList)
    (unbroken : IsUnbroken text) : text.toList <+: beforeBoundary target.toList := by
  obtain ⟨rest, whole⟩ := starts
  rw [beforeBoundary, ← whole, List.takeWhile_append_of_pos (isUnbroken_iff.mp unbroken)]
  exact List.prefix_append _ _

theorem isOpening_beforeBoundary (target : String) :
    IsOpening (.ofList (beforeBoundary target.toList)) target := by
  refine ⟨?_, isUnbroken_iff.mpr fun c mem => ?_, fun other starts unbroken => ?_⟩
  · rw [String.toList_ofList]
    exact List.takeWhile_prefix _
  · rw [String.toList_ofList] at mem
    exact List.all_eq_true.mp List.all_takeWhile c mem
  · rw [← String.length_toList, ← String.length_toList, String.toList_ofList]
    exact (prefix_beforeBoundary starts unbroken).length_le

/-- A target has only one opening: the part before the first boundary begins with it, and is not
longer. -/
theorem isOpening_iff :
    IsOpening opening target ↔ opening.toList = beforeBoundary target.toList := by
  constructor
  · intro isOpening
    have within := prefix_beforeBoundary isOpening.starts isOpening.unbroken
    have whole := isOpening_beforeBoundary target
    have reaches := isOpening.longest _ whole.starts whole.unbroken
    rw [← String.length_toList, ← String.length_toList, String.toList_ofList] at reaches
    exact within.eq_of_length_le reaches
  · intro same
    rw [← String.ofList_toList (s := opening), same]
    exact isOpening_beforeBoundary target

/-! ## Targets of the transport -/

/-- A target is an unbroken name, or goes on behind it with a boundary, just if it opens with it. -/
theorem belongsTo_iff_beforeBoundary (unbroken : IsUnbroken library) :
    belongsTo library.toList target.toList = true ↔
      beforeBoundary target.toList = library.toList := by
  rw [belongsTo_iff]
  constructor
  · rintro (whole | ⟨c, rest, boundary, split⟩)
    · rw [whole, beforeBoundary_of_isUnbroken unbroken]
    · rw [split, beforeBoundary_append_cons boundary, beforeBoundary_of_isUnbroken unbroken]
  · intro opens
    have parts := List.takeWhile_append_dropWhile (p := fun c => !isBoundary c) (l := target.toList)
    rw [← beforeBoundary, opens] at parts
    cases behind : target.toList.dropWhile fun c => !isBoundary c with
    | nil => exact Or.inl (by rw [← parts, behind, List.append_nil])
    | cons c rest =>
      have stops := List.head?_dropWhile_not (fun c => !isBoundary c) target.toList
      exact Or.inr ⟨c, rest, by simpa [behind] using stops, by rw [← parts, behind]⟩

theorem isOfTransport_iff_beforeBoundary :
    isOfTransport target = true ↔
      ∃ library ∈ transports, beforeBoundary target.toList = library.toList := by
  rw [isOfTransport, List.any_eq_true]
  exact exists_congr fun library => and_congr_right fun hl =>
    belongsTo_iff_beforeBoundary (isUnbroken_of_mem_transports library hl)

theorem isOfTransport_iff_mem (isOpening : IsOpening opening target) :
    isOfTransport target = true ↔ opening ∈ transports := by
  rw [isOfTransport_iff_beforeBoundary, ← isOpening_iff.mp isOpening]
  constructor
  · rintro ⟨library, hl, same⟩
    rwa [String.toList_injective same]
  · exact fun mem => ⟨opening, mem, rfl⟩

/-- The modules of a module of the transport are of the transport too. -/
theorem isOfTransport_module (carried : isOfTransport target = true) (module : String) :
    isOfTransport (target ++ "::" ++ module) = true := by
  have split : (target ++ "::" ++ module).toList =
      target.toList ++ ':' :: ':' :: module.toList := by simp
  rw [isOfTransport_iff_beforeBoundary] at carried ⊢
  rwa [split, beforeBoundary_append_cons (by decide)]

/-- A target that goes on behind the name of a library with a character that is no boundary is not
of the transport, as it goes on so behind no other name. -/
theorem isOfTransport_eq_false_of_append (hl : library ∈ transports) {c : Char}
    (inside : isBoundary c = false) {behind : List Char}
    (split : target.toList = library.toList ++ c :: behind) : isOfTransport target = false := by
  refine isOfTransport_eq_false_iff.mpr fun other ho tail cut => ?_
  obtain ⟨-, rfl⟩ := eq_of_prefix (List.mem_map_of_mem hl) (List.mem_map_of_mem ho)
    (split.symm.trans cut)
  exact ⟨c, behind, rfl, inside⟩

/-- Every target has one opening, and is of the transport just if that is the name of a library. So
the modules inside a module of the transport are of the transport too, and a target that goes on
behind the name of a library of the transport with another character is not. -/
theorem transport_by_opening (target : String) :
    (∃! opening, IsOpening opening target) ∧
    (∀ opening, IsOpening opening target → (isOfTransport target = true ↔
      opening ∈ ["opentelemetry", "tonic", "h2", "hyper", "reqwest", "tower"])) ∧
    (isOfTransport target = true →
      ∀ module, isOfTransport (target ++ "::" ++ module) = true) ∧
    ∀ library ∈ ["tonic", "h2", "hyper", "reqwest", "tower"], ∀ c, c ≠ '_' → c ≠ ':' →
      ∀ behind, isOfTransport (library ++ String.singleton c ++ behind) = false := by
  refine ⟨⟨_, isOpening_beforeBoundary target, fun other isOpening => ?_⟩,
    fun opening isOpening => isOfTransport_iff_mem isOpening, isOfTransport_module, ?_⟩
  · apply String.toList_injective
    rw [isOpening_iff.mp isOpening, String.toList_ofList]
  · intro library hl c underscore colon behind
    have split : (library ++ String.singleton c ++ behind).toList =
        library.toList ++ c :: behind.toList := by simp
    exact isOfTransport_eq_false_of_append (List.mem_cons_of_mem "opentelemetry" hl)
      (by simp [isBoundary, underscore, colon]) split

/-- The target of a module of the transport, of a module inside it, and of a package whose name is
written with a hyphen. -/
theorem transport_by_opening_of_hyper :
    isOfTransport "hyper_util::client" = true ∧
      isOfTransport "hyper_util::client::pool-2" = true ∧
      isOfTransport "hyper-util::client" = false := by
  obtain ⟨-, named, modules, passes⟩ := transport_by_opening "hyper_util::client"
  have opens : IsOpening "hyper" "hyper_util::client" := isOpening_iff.mpr (by decide +kernel)
  have carried := (named "hyper" opens).mpr (by decide)
  have texts : "hyper_util::client" ++ "::" ++ "pool-2" = "hyper_util::client::pool-2" ∧
      "hyper" ++ String.singleton '-' ++ "util::client" = "hyper-util::client" := by decide +kernel
  have inside := modules carried "pool-2"
  have other := passes "hyper" (by decide) '-' (by decide) (by decide) "util::client"
  rw [texts.1] at inside
  rw [texts.2] at other
  exact ⟨carried, inside, other⟩

end Telemetry.Target
