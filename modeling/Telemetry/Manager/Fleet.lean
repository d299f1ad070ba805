import Mathlib.Logic.Function.Basic
import Telemetry.Manager.Run

/-!
# Managers that share a host

Managers in one host have its sinks, its components, its clock and the numbers of starts in common,
and nothing else. An operation is done to one of them. A run is a list of operations, each with the
manager that it is done to, in any order.

Main statement: `managers_step_of_ne`.
-/

namespace Telemetry

/-- Managers in one host. -/
structure Fleet (ι : Type) where
  managers : ι → Manager
  host : Host

namespace Fleet

variable {ι : Type}

/-- Managers that have done nothing, each with a sink of its own, in a host with some layers. -/
def fresh (ownSinks : ι → SinkName) (platform : Platform) (layers : List Layer) : Fleet ι :=
  ⟨fun i => { ownSink := ownSinks i }, { platform, layers }⟩

/-- One of the managers, in the host of all. -/
def system (t : Fleet ι) (i : ι) : System := ⟨t.managers i, t.host⟩

variable [DecidableEq ι]

def step (t : Fleet ι) (i : ι) (op : Operation) : Answer × Fleet ι :=
  let (answer, s) := (t.system i).step op
  (answer, ⟨Function.update t.managers i s.manager, s.host⟩)

def run (t : Fleet ι) (moves : List (ι × Operation)) : Fleet ι :=
  moves.foldl (fun t move => (t.step move.1 move.2).2) t

theorem managers_step (t : Fleet ι) (i : ι) (op : Operation) :
    (t.step i op).2.managers i = ((t.system i).step op).2.manager :=
  Function.update_self i _ t.managers

/-- An operation leaves the other managers as they are. -/
theorem managers_step_of_ne (t : Fleet ι) {i j : ι} (apart : j ≠ i) (op : Operation) :
    (t.step i op).2.managers j = t.managers j :=
  Function.update_of_ne apart _ t.managers

end Fleet

end Telemetry
