import Telemetry.Proofs.Host.Components

/-!
# Sessions with an emitter

A session is what the holders of one emitter do to it, one call after the other: they fire entries,
they update the labels, and they close it. Every call gets a reply, which says all that the call
brought about for its caller. What a call does to the emitter shows in the replies to later calls.

* `after_append`, `session_append`: a session can be cut between any two calls.
* `make_after`: no call replaces the logger or the processor.
* `getElem?_labels_after`: a label has the value of the last pair that was set.
-/

namespace Telemetry.Emitter

/-- A call of an emitter. An entry is fired on a thread with some current context, at a reading of
the wall clock. -/
inductive Call
  | fire (ambient : Ambient) (clock : Timestamp) (entry : Entry)
  | update (pairs : List (String × String))
  | close (bound : Duration)

/-- What a call brings about for its caller. -/
inductive Reply
  | fired (result : Except EmitError Unit) (handed : List Record) (ambient : Ambient)
  | updated
  | closed (result : Except ComponentError Unit) (elapsed : Duration) (asked : Bool)
      (events : List Event)

/-- The pairs that a call sets. -/
def Call.pairs : Call → List (String × String)
  | update pairs => pairs
  | _ => []

/-- The records that the processor was handed. -/
def Reply.handed : Reply → List Record
  | fired _ handed _ => handed
  | _ => []

/-- Whether a reply is the error of a fire. -/
def Reply.isFault : Reply → Bool
  | fired (.error _) _ _ => true
  | _ => false

def call (e : Emitter) : Call → Reply × Emitter
  | .fire ambient clock entry =>
    let firing := e.fire ambient clock entry
    (.fired firing.result firing.handed firing.ambient, firing.emitter)
  | .update pairs => (.updated, e.update pairs)
  | .close bound =>
    let closing := e.closeWithin bound
    (.closed closing.result closing.elapsed closing.asked closing.events, closing.emitter)

/-- The emitter after some calls. -/
def after (e : Emitter) (calls : List Call) : Emitter :=
  calls.foldl (fun e c => (e.call c).2) e

/-- The calls of a session with the replies to them. -/
def session (e : Emitter) : List Call → List (Call × Reply)
  | [] => []
  | c :: rest => (c, (e.call c).1) :: (e.call c).2.session rest

/-- The pairs that some calls set, in order. -/
def updates (calls : List Call) : List (String × String) := calls.flatMap Call.pairs

variable (e : Emitter)

theorem after_append (xs ys : List Call) : e.after (xs ++ ys) = (e.after xs).after ys :=
  List.foldl_append

theorem session_append (xs ys : List Call) :
    e.session (xs ++ ys) = e.session xs ++ (e.after xs).session ys := by
  induction xs generalizing e with
  | nil => rfl
  | cons c rest ih =>
    rw [List.cons_append, session, session, List.cons_append, ih]
    rfl

/-! ## What calls keep -/

theorem make_call (c : Call) : (e.call c).2.make = e.make := by
  cases c with
  | fire ambient clock entry => exact congrArg make (e.emitter_fire ambient clock entry)
  | update pairs => rfl
  | close bound => exact e.make_closeWithin bound

theorem make_after (calls : List Call) : (e.after calls).make = e.make := by
  induction calls generalizing e with
  | nil => rfl
  | cons c rest ih => exact (ih _).trans (e.make_call c)

theorem logger_after (calls : List Call) : (e.after calls).logger = e.logger :=
  congrArg Prod.fst (e.make_after calls)

theorem processor_after (calls : List Call) :
    (e.after calls).provider.processor = e.provider.processor :=
  congrArg Prod.snd (e.make_after calls)

/-! ## Labels -/

theorem labels_call (c : Call) : (e.call c).2.labels = TextMap.insertAll e.labels c.pairs := by
  cases c with
  | fire ambient clock entry => exact congrArg labels (e.emitter_fire ambient clock entry)
  | update pairs => exact e.labels_update pairs
  | close bound => rfl

theorem labels_after (calls : List Call) :
    (e.after calls).labels = TextMap.insertAll e.labels (updates calls) := by
  induction calls generalizing e with
  | nil => rfl
  | cons c rest ih =>
    have later := ih (e.call c).2
    rw [labels_call, ← TextMap.insertAll_append] at later
    exact later

theorem getElem?_labels_after (calls : List Call) (key : String) :
    (e.after calls).labels[key]? =
      (TextMap.lastValue? key (updates calls)).or e.labels[key]? := by
  rw [labels_after, TextMap.getElem?_insertAll]

end Telemetry.Emitter
