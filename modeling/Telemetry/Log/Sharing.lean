import Mathlib.Logic.Function.Basic
import Telemetry.Log.Emitter

/-!
# Threads that share an emitter

Threads that hold one emitter update its labels at the same time. An update takes a lock before its
first pair and lets it go after its last one; in between it inserts its pairs one by one, while the
other threads may run, but wait as soon as they need the lock. A schedule says whose turn it is.

Main statement: `step_of_waiting`.
-/

namespace Telemetry

/-- An emitter with the threads that update its labels. -/
structure Sharing (ι : Type) where
  emitter : Emitter
  /-- Who holds the lock, with the pairs that are left to insert. -/
  writer : Option (ι × List (String × String)) := none
  /-- The updates that each thread has not begun. -/
  todo : ι → List (List (String × String))

namespace Sharing

variable {ι : Type}

/-- The pairs that are left to insert for the update under way. -/
def pending (s : Sharing ι) : List (String × String) := s.writer.elim [] Prod.snd

/-- Every update has been made. -/
structure IsDone (s : Sharing ι) : Prop where
  free : s.writer = none
  todo : ∀ i, s.todo i = []

variable [DecidableEq ι]

/-- A turn of a thread. -/
def step (s : Sharing ι) (i : ι) : Sharing ι :=
  match s.writer with
  | none =>
    match s.todo i with
    | [] => s
    | pairs :: rest => { s with writer := some (i, pairs), todo := Function.update s.todo i rest }
  | some (holder, pairs) =>
    if holder = i then
      match pairs with
      | [] => { s with writer := none }
      | pair :: rest => { s with emitter := s.emitter.update [pair], writer := some (i, rest) }
    else s

def run (s : Sharing ι) (schedule : List ι) : Sharing ι := schedule.foldl step s

/-- While a thread holds the lock the turns of the others change nothing. -/
theorem step_of_waiting {s : Sharing ι} {holder i : ι} {pairs : List (String × String)}
    (held : s.writer = some (holder, pairs)) (waits : holder ≠ i) : s.step i = s := by
  simp [step, held, waits]

end Sharing

end Telemetry
