/-!
# Contexts

A context carries the span that is active, if any, and whether telemetry is suppressed. A thread has
a stack of attached contexts, whose top is the current one; without any, the current context is
empty.

Main statement: `Ambient.leave_enter`, what is attached for a while leaves nothing behind.
-/

namespace Telemetry

/-- The identity of a span: its trace, its own number, and its flags. -/
structure SpanContext where
  trace : Nat
  span : Nat
  flags : Nat
  deriving DecidableEq, Repr

/-- A context. -/
structure Context where
  span : Option SpanContext := none
  suppressed : Bool := false
  deriving DecidableEq, Repr

/-- The contexts attached on a thread, the innermost one first. -/
structure Ambient where
  attached : List Context := []
  deriving DecidableEq, Repr

namespace Ambient

def current (a : Ambient) : Context := a.attached.headD {}

/-- Attaches a context, if one is given. -/
def enter (a : Ambient) : Option Context → Ambient
  | none => a
  | some c => ⟨c :: a.attached⟩

/-- Detaches what was attached for the same context. -/
def leave (a : Ambient) : Option Context → Ambient
  | none => a
  | some _ => ⟨a.attached.tail⟩

@[simp] theorem leave_enter (a : Ambient) (own : Option Context) :
    (a.enter own).leave own = a := by
  cases own <;> rfl

/-- Inside, the given context is current, or else the one that was. -/
theorem current_enter (a : Ambient) (own : Option Context) :
    (a.enter own).current = own.getD a.current := by
  cases own <;> rfl

end Ambient

end Telemetry
