import Telemetry.Shutdown

/-!
# Deadlines and bounded work

A reading of the monotonic clock is the time since the clock started. A deadline is such a reading,
after which a teardown waits no longer; what remains of it is zero once it has passed.

Work that may block runs on a worker of its own, and its result is waited for no longer than a
bound. The system may refuse the worker, or let it begin only after some time; the wait does not
depend on it. With a bound of zero the worker is started, but nothing is waited for. A worker cannot
have a NUL in its name; work under such a name is not started.

Main statements:

* `Deadline.isExpired_iff`: a deadline has expired when no time remains.
* `Work.wait_zero`: no time, no result.
* `Work.wait_late`: no result from a worker that does not begin in time.
* `Work.elapsed_le`: waiting takes no longer than the bound.
* `Work.attempt_eq_ok_iff`: work is started when its name has no NUL.
-/

namespace Telemetry

/-- A reading of the monotonic clock. -/
abbrev Instant := Duration

/-- A point in time after which a teardown stops waiting. -/
structure Deadline where
  instant : Instant
  deriving DecidableEq, Repr

namespace Deadline

/-- The clock cannot hold this many seconds. -/
def clockLimit : Nat := Nat.pow 2 63

/-- The text of the panic that a deadline beyond the clock ends in. -/
def overflowText : String := "overflow when adding duration to instant"

/-- The deadline a timeout after a reading. -/
def after (now : Instant) (timeout : Duration) : Deadline := ⟨now.add timeout⟩

/-- Whether the clock can hold the deadline a timeout after a reading. -/
def fits (now : Instant) (timeout : Duration) : Bool :=
  (now.add timeout).wholeSecs < clockLimit

/-- The deadline a timeout after a reading, if the clock can hold it. -/
def after? (now : Instant) (timeout : Duration) : Option Deadline :=
  if fits now timeout then some (after now timeout) else none

/-- A deadline that has passed at a reading. -/
def expired (now : Instant) : Deadline := ⟨now⟩

/-- The time left at a reading. -/
def remaining (d : Deadline) (now : Instant) : Duration := d.instant.sub now

def isExpired (d : Deadline) (now : Instant) : Bool := d.remaining now = .zero

/-- Fails once the deadline has passed. -/
def check (d : Deadline) (now : Instant) : Except ComponentError Unit :=
  if d.isExpired now then .error (.deadlineExceeded .zero) else .ok ()

theorem isExpired_iff {d : Deadline} {now : Instant} :
    d.isExpired now = true ↔ d.instant ≤ now := by
  simp [isExpired, remaining, Duration.sub_eq_zero_iff]

theorem isExpired_expired (now : Instant) : (expired now).isExpired now = true :=
  isExpired_iff.2 (Nat.le_refl _)

theorem remaining_after (now : Instant) (timeout : Duration) :
    (after now timeout).remaining now = timeout := by
  cases timeout
  simp [after, remaining, Duration.add, Duration.sub]

end Deadline

/-- What a piece of work comes to when it is left alone: a value or a panic after some time, or
nothing ever. -/
inductive Work (α : Type)
  | returns (delay : Duration) (value : α)
  | panics (delay : Duration)
  | hangs

/-- What becomes of a worker that is to be started: the system refuses it, or it begins after some
time. -/
inductive Spawn
  | refused (reason : String)
  | begins (delay : Duration)
  deriving DecidableEq, Repr

/-- Whether the worker has begun by the end of a bound. -/
def Spawn.isTimely (bound : Duration) : Spawn → Bool
  | refused _ => false
  | begins delay => delay ≤ bound

/-- How waiting for work ends, and how long it took. -/
structure Waiting (α : Type) where
  result : Except ComponentError α
  elapsed : Duration

namespace Work

variable {α : Type}

/-- The name of the worker of a piece of work. -/
def workerName (name : String) : String := "otel-" ++ name

/-- The text of the panic that starting a worker with a NUL in its name ends in. It shows where the
first one stands and the bytes of the name. -/
def nameFaultText (name : String) : String :=
  let bytes := (workerName name).toUTF8.toList
  "thread name may not contain interior null bytes: NulError(" ++ toString (bytes.idxOf 0) ++
    ", [" ++ String.intercalate ", " (bytes.map fun b => toString b.toNat) ++ "])"

/-- The work, for somebody who has waited some time before it began. -/
def after (d : Duration) : Work α → Work α
  | .returns delay value => .returns (d.add delay) value
  | .panics delay => .panics (d.add delay)
  | .hangs => .hangs

/-- The time that the work takes until it ends, if it ends. -/
def time : Work α → Duration
  | .returns delay _ => delay
  | .panics delay => delay
  | .hangs => .zero

/-- Waits for named work that is under way, no longer than a bound. -/
def waitBegun (name : String) (bound : Duration) (work : Work α) : Waiting α :=
  let late : Waiting α := ⟨.error (.deadlineExceeded bound), bound⟩
  if bound = .zero then late
  else
    match work with
    | .returns delay value => if delay ≤ bound then ⟨.ok value, delay⟩ else late
    | .panics delay =>
      if delay ≤ bound then ⟨.error (.worker (name ++ " worker exited without a result")), delay⟩
      else late
    | .hangs => late

/-- Waits for named work, no longer than a bound, once its worker was asked for. A worker that is
refused is an error at once, whatever the bound. -/
def wait (name : String) (bound : Duration) (spawn : Spawn) (work : Work α) : Waiting α :=
  match spawn with
  | .refused reason => ⟨.error (.worker reason), .zero⟩
  | .begins delay => (work.after delay).waitBegun name bound

/-- Starts named work and waits for it, or panics with a text. -/
def attempt (name : String) (bound : Duration) (spawn : Spawn) (work : Work α) :
    Except String (Waiting α) :=
  if '\x00' ∈ name.toList then .error (nameFaultText name) else .ok (work.wait name bound spawn)

theorem attempt_eq_ok_iff (name : String) (bound : Duration) (spawn : Spawn) (work : Work α) :
    work.attempt name bound spawn = .ok (work.wait name bound spawn) ↔ '\x00' ∉ name.toList := by
  unfold attempt
  split <;> simp_all

theorem wait_zero (name : String) (delay : Duration) (work : Work α) :
    (work.wait name .zero (.begins delay)).result = .error (.deadlineExceeded .zero) := by
  simp [wait, waitBegun]

theorem elapsed_waitBegun_le (name : String) (bound : Duration) (work : Work α) :
    (work.waitBegun name bound).elapsed ≤ bound := by
  simp only [waitBegun]
  repeat' split
  all_goals first | assumption | exact Nat.le_refl _

theorem elapsed_le (name : String) (bound : Duration) (spawn : Spawn) (work : Work α) :
    (work.wait name bound spawn).elapsed ≤ bound := by
  cases spawn with
  | refused reason => exact Nat.zero_le _
  | begins delay => exact elapsed_waitBegun_le ..

end Work

end Telemetry
