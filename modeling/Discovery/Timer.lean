import Discovery.Clock

namespace Discovery

/-!
# Deadline timers

A timer has at most one deadline.  Its owner sets, lowers or clears the
deadline at any time; a task of its own sleeps until the deadline and then
fires.  The two share the deadline and a wake-up call: a change made while the
task sleeps leaves a call behind, so the task looks again before it goes on
sleeping.  The deadline is cleared before the timer fires, and a closed timer
never fires.
-/

/-- What the task of a timer is doing. -/
inductive Timer.Phase where
  /-- About to look at the deadline. -/
  | awake
  /-- Waiting for a call, there being no deadline. -/
  | idle
  /-- Waiting for a call or for an instant to come. -/
  | asleep (deadline : Instant)
  /-- Ended for good. -/
  | finished
  deriving DecidableEq, Repr

/-- A timer and its task. -/
structure Timer where
  deadline : Option Instant
  closed : Bool
  called : Bool
  phase : Timer.Phase
  deriving DecidableEq, Repr

namespace Timer

/-- A timer without a deadline, whose task is about to start. -/
def new : Timer :=
  ⟨none, false, false, .awake⟩

instance : Inhabited Timer :=
  ⟨new⟩

/-- Set the deadline, whatever it was. -/
def arm (timer : Timer) (deadline : Instant) : Timer :=
  { timer with deadline := some deadline, called := true }

/-- Set the deadline unless one is set that is not later. -/
def armEarlier (timer : Timer) (deadline : Instant) : Timer :=
  match timer.deadline with
  | some current => if current ≤ deadline then timer else timer.arm deadline
  | none => timer.arm deadline

/-- Lower the deadline to an instant, if there is one. -/
def armEarlier? (timer : Timer) : Option Instant → Timer
  | some deadline => timer.armEarlier deadline
  | none => timer

/-- Clear the deadline. -/
def disarm (timer : Timer) : Timer :=
  { timer with deadline := none, called := true }

/-- Let the timer fire no more. -/
def close (timer : Timer) : Timer :=
  { timer with closed := true, called := true }

/-- Whether the task has something to do. -/
def isReady (timer : Timer) (now : Instant) : Bool :=
  match timer.phase with
  | .awake => true
  | .idle => timer.called
  | .asleep deadline => timer.called || decide (deadline ≤ now)
  | .finished => false

/-- The instant for which the task waits. -/
def waitsFor? (timer : Timer) : Option Instant :=
  match timer.phase with
  | .asleep deadline => some deadline
  | _ => none

/-- One turn of the task, and whether the timer fires in it. -/
def turn (timer : Timer) (now : Instant) : Bool × Timer :=
  if timer.closed then (false, { timer with called := false, phase := .finished })
  else
    match timer.deadline with
    | none => (false, { timer with called := false, phase := .idle })
    | some deadline =>
        if deadline ≤ now then
          (true, { timer with deadline := none, called := false, phase := .awake })
        else (false, { timer with called := false, phase := .asleep deadline })

end Timer

end Discovery
