import Discovery.Proofs.Timer.Deadline
import Mathlib.Data.List.Induction

namespace Discovery

/-!
# Timers and what their owners know of them

The owner of a timer knows one deadline at most (`Reminder`): to arm the timer
sets it, to lower it takes the earlier of two instants, and to disarm the timer
clears it.  The task behind the timer sleeps with a deadline of its own and is
called when something changes.  For whatever the owner asks, within a callback
or without, and however time passes meanwhile, what can be observed of the timer
is what can be observed of the reminder, no more and no less
(`Timer.observed_iff_reminded`); so no deadline passes unnoticed, and none is
noticed twice.
-/

namespace Timer

/-- What the owner of a timer asks of it. -/
inductive Order where
  | arm (deadline : Instant)
  | armEarlier (deadline : Instant)
  | disarm
  | close
  deriving DecidableEq, Repr

/-- A timer does what its owner asks. -/
def obey (timer : Timer) : Order → Timer
  | .arm deadline => timer.arm deadline
  | .armEarlier deadline => timer.armEarlier deadline
  | .disarm => timer.disarm
  | .close => timer.close

/-- Whether a deadline is set by an order. -/
def Order.arms : Order → Bool
  | .arm _ | .armEarlier _ => true
  | .disarm | .close => false

/-- What can be observed of a timer. -/
inductive Event where
  /-- The owner asks for something. -/
  | asked (order : Order)
  /-- Time passes. -/
  | passed (span : Span)
  /-- The timer fires, and its callback asks for some things. -/
  | fired (reaction : List Order)
  /-- The task has nothing left to do at this instant. -/
  | settled
  deriving DecidableEq, Repr

/-- Whether the timer is closed in an event. -/
def Event.closes : Event → Bool
  | .asked order => order == .close
  | .fired reaction => reaction.contains .close
  | .passed _ | .settled => false

/-- Whether a deadline is set in an event. -/
def Event.arms : Event → Bool
  | .asked order => order.arms
  | .fired reaction => reaction.any Order.arms
  | .passed _ | .settled => false

end Timer

/-- At most one deadline, until the reminder is closed. -/
structure Reminder where
  deadline : Option Instant
  closed : Bool
  deriving DecidableEq, Repr

namespace Reminder

/-- A reminder of nothing. -/
def new : Reminder :=
  ⟨none, false⟩

/-- A reminder has the deadline that it is given, or the earlier of that and its own. -/
def obey (reminder : Reminder) : Timer.Order → Reminder
  | .arm deadline => { reminder with deadline := some deadline }
  | .armEarlier deadline =>
      { reminder with deadline := some (reminder.deadline.elim deadline (min · deadline)) }
  | .disarm => { reminder with deadline := none }
  | .close => { reminder with closed := true }

/-- Whether the deadline has come. -/
def isDue (reminder : Reminder) (now : Instant) : Bool :=
  !reminder.closed && reminder.deadline.any fun deadline => decide (deadline ≤ now)

/-- A reminder at an instant, after an event that is possible there. -/
def after? : Reminder × Instant → Timer.Event → Option (Reminder × Instant)
  | (reminder, now), .asked order => some (reminder.obey order, now)
  | (reminder, now), .passed span => some (reminder, now + span)
  | (reminder, now), .fired reaction =>
      if reminder.isDue now then
        some (reaction.foldl obey { reminder with deadline := none }, now)
      else none
  | (reminder, now), .settled => if reminder.isDue now then none else some (reminder, now)

/-- A new reminder after some events, if they are possible one after another. -/
def run? (start : Instant) (events : List Timer.Event) : Option (Reminder × Instant) :=
  events.foldlM after? (new, start)

theorem isDue_iff
    {reminder : Reminder}
    {now : Instant} :
    reminder.isDue now = true ↔
      reminder.closed = false ∧ ∃ deadline, reminder.deadline = some deadline ∧ deadline ≤ now := by
  simp [isDue, Option.any_eq_true]

theorem run?_concat
    (start : Instant)
    (events : List Timer.Event)
    (event : Timer.Event) :
    run? start (events ++ [event]) = (run? start events).bind (after? · event) := by
  simp only [run?, List.foldlM_append, List.foldlM_cons, List.foldlM_nil, bind_pure]
  rfl

/-- Orders close a reminder if one of them does, and none opens it again. -/
theorem closed_obeyAll
    (reminder : Reminder)
    (orders : List Timer.Order) :
    (orders.foldl obey reminder).closed = (reminder.closed || orders.contains .close) := by
  induction orders generalizing reminder with
  | nil => simp
  | cons order rest inductionHypothesis =>
      rw [List.foldl_cons, inductionHypothesis]
      cases order <;> simp [obey]

/-- A reminder is closed by the events that close it. -/
theorem closed_of_run?
    {start now : Instant}
    {events : List Timer.Event}
    {reminder : Reminder}
    (reached : run? start events = some (reminder, now)) :
    reminder.closed = events.any Timer.Event.closes := by
  induction events using List.reverseRecOn generalizing reminder now with
  | nil =>
      cases reached
      rfl
  | append_singleton earlier event inductionHypothesis =>
      rw [run?_concat] at reached
      obtain ⟨⟨before, instant⟩, reachedBefore, after⟩ := Option.bind_eq_some_iff.mp reached
      have closedBefore := inductionHypothesis reachedBefore
      rw [List.any_append, List.any_cons, List.any_nil, Bool.or_false, ← closedBefore]
      cases event with
      | asked order =>
          cases after
          cases order <;> simp [obey, Timer.Event.closes]
      | passed span =>
          cases after
          simp [Timer.Event.closes]
      | fired reaction =>
          obtain ⟨_, same⟩ := Option.ite_none_right_eq_some.mp after
          cases same
          rw [closed_obeyAll]
          rfl
      | settled =>
          obtain ⟨_, same⟩ := Option.ite_none_left_eq_some.mp after
          cases same
          simp [Timer.Event.closes]

theorem deadline_obey
    {reminder : Reminder}
    (unset : reminder.deadline = none)
    {order : Timer.Order}
    (unarmed : order.arms = false) :
    (reminder.obey order).deadline = none := by
  cases order with
  | arm | armEarlier => cases unarmed
  | disarm => rfl
  | close => exact unset

/-- Without an order that sets a deadline none comes to be set. -/
theorem deadline_obeyAll
    {reminder : Reminder}
    (unset : reminder.deadline = none)
    {orders : List Timer.Order}
    (unarmed : orders.any Timer.Order.arms = false) :
    (orders.foldl obey reminder).deadline = none := by
  induction orders generalizing reminder with
  | nil => exact unset
  | cons order rest inductionHypothesis =>
      rw [List.any_cons, Bool.or_eq_false_iff] at unarmed
      exact inductionHypothesis (deadline_obey unset unarmed.1) unarmed.2

/-- In whatever event no deadline is set, none comes to be set. -/
theorem deadline_after?
    {reminder later : Reminder}
    {now instant : Instant}
    {event : Timer.Event}
    (after : after? (reminder, now) event = some (later, instant))
    (unset : reminder.deadline = none)
    (unarmed : event.arms = false) :
    later.deadline = none := by
  cases event with
  | asked order =>
      cases after
      exact deadline_obey unset unarmed
  | passed span =>
      cases after
      exact unset
  | fired reaction =>
      obtain ⟨_, same⟩ := Option.ite_none_right_eq_some.mp after
      cases same
      exact deadline_obeyAll rfl unarmed
  | settled =>
      obtain ⟨_, same⟩ := Option.ite_none_left_eq_some.mp after
      cases same
      exact unset

/-- Since the deadline last came, there is none unless one was set. -/
theorem deadline_since_fired
    {start now : Instant}
    {before between : List Timer.Event}
    {reaction : List Timer.Order}
    {reminder : Reminder}
    (reached : run? start (before ++ .fired reaction :: between) = some (reminder, now))
    (unarmed : (.fired reaction :: between : List Timer.Event).any Timer.Event.arms = false) :
    reminder.deadline = none := by
  induction between using List.reverseRecOn generalizing reminder now with
  | nil =>
      rw [run?_concat] at reached
      obtain ⟨_, _, after⟩ := Option.bind_eq_some_iff.mp reached
      obtain ⟨_, same⟩ := Option.ite_none_right_eq_some.mp after
      cases same
      rw [List.any_cons, List.any_nil, Bool.or_false] at unarmed
      exact deadline_obeyAll rfl unarmed
  | append_singleton earlier event inductionHypothesis =>
      rw [← List.cons_append, ← List.append_assoc, run?_concat] at reached
      obtain ⟨⟨_, _⟩, reachedBefore, after⟩ := Option.bind_eq_some_iff.mp reached
      rw [← List.cons_append, List.any_append, Bool.or_eq_false_iff] at unarmed
      obtain ⟨unarmedBefore, unarmedLast⟩ := unarmed
      rw [List.any_cons, List.any_nil, Bool.or_false] at unarmedLast
      exact deadline_after? after (inductionHypothesis reachedBefore unarmedBefore) unarmedLast

/-- When a timer fires, the reminder is due after all that was before. -/
theorem due_of_fired
    {start : Instant}
    {before after : List Timer.Event}
    {reaction : List Timer.Order}
    (possible : (run? start (before ++ .fired reaction :: after)).isSome) :
    ∃ reminder now, run? start before = some (reminder, now) ∧ reminder.isDue now = true := by
  obtain ⟨_, reached⟩ := Option.isSome_iff_exists.mp possible
  rw [List.append_cons, run?, List.foldlM_append] at reached
  obtain ⟨_, fired, _⟩ := Option.bind_eq_some_iff.mp reached
  change run? start (before ++ [.fired reaction]) = _ at fired
  rw [run?_concat] at fired
  obtain ⟨⟨reminder, now⟩, reachedBefore, afterFired⟩ := Option.bind_eq_some_iff.mp fired
  exact ⟨reminder, now, reachedBefore, (Option.ite_none_right_eq_some.mp afterFired).1⟩

/-- Nothing is due once it is closed. -/
theorem open_of_fired
    {start : Instant}
    {before after : List Timer.Event}
    {reaction : List Timer.Order}
    (possible : (run? start (before ++ .fired reaction :: after)).isSome) :
    before.any Timer.Event.closes = false := by
  obtain ⟨reminder, now, reached, due⟩ := due_of_fired possible
  rw [← closed_of_run? reached]
  exact (isDue_iff.mp due).1

/-- Nothing is due twice, unless a deadline is set meanwhile. -/
theorem armed_of_fired
    {start : Instant}
    {before between after : List Timer.Event}
    {reaction further : List Timer.Order}
    (possible : (run? start
      (before ++ .fired reaction :: (between ++ .fired further :: after))).isSome) :
    (.fired reaction :: between : List Timer.Event).any Timer.Event.arms = true := by
  rw [← List.cons_append, ← List.append_assoc] at possible
  obtain ⟨reminder, now, reached, due⟩ := due_of_fired possible
  obtain ⟨_, _, isDeadline, _⟩ := isDue_iff.mp due
  rw [← Bool.not_eq_false]
  intro unarmed
  rw [deadline_since_fired reached unarmed] at isDeadline
  cases isDeadline

end Reminder

namespace Timer

/-- What the owner knows of a timer. -/
def reminder (timer : Timer) : Reminder :=
  ⟨timer.deadline, timer.closed⟩

/--
A new timer comes to be as it is, at an instant, in the course of some events.
Its task takes turns when it has something to do, which need not be at once, and
the callback is run in the turn in which the timer fires.
-/
inductive Reaches (start : Instant) : List Event → Timer → Instant → Prop where
  | new : Reaches start [] .new start
  | asked
      {events : List Event}
      {timer : Timer}
      {now : Instant}
      (earlier : Reaches start events timer now)
      (order : Order) :
      Reaches start (events ++ [.asked order]) (timer.obey order) now
  | passed
      {events : List Event}
      {timer : Timer}
      {now : Instant}
      (earlier : Reaches start events timer now)
      (span : Span) :
      Reaches start (events ++ [.passed span]) timer (now + span)
  | turned
      {events : List Event}
      {timer : Timer}
      {now : Instant}
      (earlier : Reaches start events timer now)
      (ready : timer.isReady now = true)
      (silent : (timer.turn now).1 = false) :
      Reaches start events (timer.turn now).2 now
  | fired
      {events : List Event}
      {timer : Timer}
      {now : Instant}
      (earlier : Reaches start events timer now)
      (ready : timer.isReady now = true)
      (fires : (timer.turn now).1 = true)
      (reaction : List Order) :
      Reaches start (events ++ [.fired reaction]) (reaction.foldl obey (timer.turn now).2) now
  | settled
      {events : List Event}
      {timer : Timer}
      {now : Instant}
      (earlier : Reaches start events timer now)
      (atRest : timer.isReady now = false) :
      Reaches start (events ++ [.settled]) timer now

section Step

variable (timer : Timer) (now : Instant)

/-- To lower a deadline takes the earlier of two instants. -/
@[simp]
theorem deadline_armEarlier (instant : Instant) :
    (timer.armEarlier instant).deadline =
      some (timer.deadline.elim instant (min · instant)) := by
  unfold armEarlier
  split
  next current isCurrent =>
    split
    next early => rw [isCurrent, Option.elim_some, Nat.min_eq_left early]
    next late =>
      rw [isCurrent, Option.elim_some, Nat.min_eq_right (Nat.le_of_not_le late)]
      rfl
  next none => rw [none]; rfl

/-- A timer takes an order as its owner expects. -/
@[simp]
theorem reminder_obey (order : Order) :
    (timer.obey order).reminder = timer.reminder.obey order := by
  cases order with
  | armEarlier instant => simp [obey, reminder, Reminder.obey]
  | arm | disarm | close => rfl

theorem reminder_obeyAll (orders : List Order) :
    (orders.foldl obey timer).reminder = orders.foldl Reminder.obey timer.reminder := by
  induction orders generalizing timer with
  | nil => rfl
  | cons order rest inductionHypothesis =>
      rw [List.foldl_cons, inductionHypothesis, reminder_obey, List.foldl_cons]

/-- A timer fires in a turn just if the owner expects it. -/
theorem turn_fires : (timer.turn now).1 = timer.reminder.isDue now := by
  rw [Bool.eq_iff_iff, fires_iff, Reminder.isDue_iff]
  rfl

variable {timer now}

/-- A timer that fires has no deadline when its callback starts. -/
theorem reminder_turn_of_fires (fires : (timer.turn now).1 = true) :
    (timer.turn now).2.reminder = { timer.reminder with deadline := none } := by
  obtain ⟨isOpen, deadline, isDeadline, past⟩ := fires_iff.mp fires
  simp [turn, reminder, isOpen, isDeadline, past]

/-- A turn in which the timer does not fire goes unnoticed. -/
theorem reminder_turn_of_silent (silent : (timer.turn now).1 = false) :
    (timer.turn now).2.reminder = timer.reminder := by
  simp [reminder, deadline_turn silent]

/-- After a turn in which the timer does not fire there is nothing left to do. -/
theorem atRest_turn (silent : (timer.turn now).1 = false) :
    (timer.turn now).2.isReady now = false := by
  unfold turn at silent ⊢
  split at silent
  next closed => simp [closed, isReady]
  next notClosed =>
    rw [if_neg notClosed]
    split at silent
    next => simp [isReady]
    next deadline isDeadline =>
      split at silent
      next => cases silent
      next ahead => simp [isDeadline, ahead, isReady]

end Step

namespace Sound

variable {timer : Timer}

/-- Whatever a timer is asked, its task will know. -/
theorem obey
    (sound : timer.Sound)
    (order : Order) :
    (timer.obey order).Sound := by
  cases order with
  | arm | disarm => exact ⟨fun _ => nofun, fun _ => nofun, sound.finished⟩
  | armEarlier instant => exact sound.armEarlier instant
  | close => exact .close timer

theorem obeyAll
    (sound : timer.Sound)
    (orders : List Order) :
    (orders.foldl Timer.obey timer).Sound := by
  induction orders generalizing timer with
  | nil => exact sound
  | cons order rest inductionHypothesis => exact inductionHypothesis (sound.obey order)

/-- No deadline passes unnoticed: the task has something to do when it has come. -/
theorem ready_of_isDue
    (sound : timer.Sound)
    {now : Instant}
    (due : timer.reminder.isDue now = true) :
    timer.isReady now = true := by
  obtain ⟨isOpen, deadline, isDeadline, past⟩ := Reminder.isDue_iff.mp due
  cases atRest : timer.isReady now with
  | true => rfl
  | false =>
      have ahead := (sound.asleep_of_atRest isOpen atRest isDeadline).2
      exact absurd past (Nat.not_le_of_lt ahead)

end Sound

namespace Reaches

variable {start now : Instant} {events : List Event} {timer : Timer}

theorem sound (reaches : Reaches start events timer now) : timer.Sound := by
  induction reaches with
  | new => exact .new
  | asked _ order inductionHypothesis => exact inductionHypothesis.obey order
  | passed _ _ inductionHypothesis => exact inductionHypothesis
  | turned => exact .turn _ _
  | fired _ _ _ reaction => exact Sound.obeyAll (.turn _ _) reaction
  | settled _ _ inductionHypothesis => exact inductionHypothesis

/-- The owner knows of a timer what the events tell. -/
theorem reminded (reaches : Reaches start events timer now) :
    Reminder.run? start events = some (timer.reminder, now) := by
  induction reaches with
  | new => rfl
  | asked _ order inductionHypothesis =>
      rw [Reminder.run?_concat, inductionHypothesis, reminder_obey]
      rfl
  | passed _ span inductionHypothesis =>
      rw [Reminder.run?_concat, inductionHypothesis]
      rfl
  | turned _ _ silent inductionHypothesis =>
      rw [inductionHypothesis, reminder_turn_of_silent silent]
  | fired _ _ fires reaction inductionHypothesis =>
      rw [Reminder.run?_concat, inductionHypothesis, reminder_obeyAll,
        reminder_turn_of_fires fires]
      rw [turn_fires] at fires
      exact if_pos fires
  | settled earlier atRest inductionHypothesis =>
      rw [Reminder.run?_concat, inductionHypothesis]
      refine if_neg fun due => ?_
      rw [earlier.sound.ready_of_isDue due] at atRest
      cases atRest

/--
Whatever a reminder can go through, a timer can; if its task was called for
nothing, it takes one more turn.
-/
theorem of_run?
    {reminder : Reminder}
    (reached : Reminder.run? start events = some (reminder, now)) :
    ∃ timer, Reaches start events timer now := by
  induction events using List.reverseRecOn generalizing reminder now with
  | nil =>
      cases reached
      exact ⟨.new, .new⟩
  | append_singleton earlier event inductionHypothesis =>
      rw [Reminder.run?_concat] at reached
      obtain ⟨⟨before, instant⟩, reachedBefore, after⟩ := Option.bind_eq_some_iff.mp reached
      obtain ⟨timer, reaches⟩ := inductionHypothesis reachedBefore
      have known := reaches.reminded.symm.trans reachedBefore
      simp only [Option.some.injEq, Prod.mk.injEq, and_true] at known
      subst known
      cases event with
      | asked order =>
          cases after
          exact ⟨_, reaches.asked order⟩
      | passed span =>
          cases after
          exact ⟨_, reaches.passed span⟩
      | fired reaction =>
          obtain ⟨due, same⟩ := Option.ite_none_right_eq_some.mp after
          cases same
          have fires := (turn_fires timer now).trans due
          exact ⟨_, reaches.fired (reaches.sound.ready_of_isDue due) fires reaction⟩
      | settled =>
          obtain ⟨notDue, same⟩ := Option.ite_none_left_eq_some.mp after
          cases same
          have silent : (timer.turn now).1 = false := by
            rw [turn_fires]
            exact Bool.eq_false_iff.mpr notDue
          cases ready : timer.isReady now with
          | true => exact ⟨_, (reaches.turned ready silent).settled (atRest_turn silent)⟩
          | false => exact ⟨_, reaches.settled ready⟩

end Reaches

/-- A timer is to its owner what the reminder is. -/
structure Minds
    (timer : Timer)
    (start : Instant)
    (events : List Event)
    (now : Instant) : Prop where
  reminded : Reminder.run? start events = some (timer.reminder, now)
  /-- It fires in a turn just if the deadline has come, and then no deadline is left. -/
  fires : (timer.turn now).1 = timer.reminder.isDue now
  cleared : (timer.turn now).1 = true →
    (timer.turn now).2.reminder = { timer.reminder with deadline := none }
  /-- It has a turn to take when the deadline has come. -/
  ready : timer.reminder.isDue now = true → timer.isReady now = true
  /-- When it has nothing to do, its deadline is to come, unless it is closed. -/
  settled : timer.isReady now = false → timer.closed = false →
    ∀ {deadline}, timer.deadline = some deadline → now < deadline
  /-- It has not fired after it was closed. -/
  unfired : ∀ {before after reaction}, events = before ++ .fired reaction :: after →
    before.any Event.closes = false
  /-- It has not fired again unless a deadline was set in its callback or since. -/
  rearmed : ∀ {before between after reaction further},
    events = before ++ .fired reaction :: (between ++ .fired further :: after) →
      (.fired reaction :: between : List Event).any Event.arms = true

/--
Whatever is asked of a timer, within its callback or without, and however time
passes meanwhile: what can be observed of the timer is what can be observed of a
reminder, and all along the timer is to its owner what the reminder is.
-/
theorem observed_iff_reminded
    (start : Instant)
    (events : List Event) :
    ((∃ timer now, Reaches start events timer now) ↔ (Reminder.run? start events).isSome) ∧
      ∀ {timer now}, Reaches start events timer now → timer.Minds start events now := by
  refine ⟨⟨fun ⟨timer, now, reaches⟩ => ?_, fun possible => ?_⟩, fun {timer now} reaches => ?_⟩
  · rw [reaches.reminded]
    rfl
  · obtain ⟨⟨_, now⟩, reached⟩ := Option.isSome_iff_exists.mp possible
    obtain ⟨timer, reaches⟩ := Reaches.of_run? reached
    exact ⟨timer, now, reaches⟩
  · have possible : (Reminder.run? start events).isSome := by
      rw [reaches.reminded]
      rfl
    exact
      { reminded := reaches.reminded
        fires := turn_fires timer now
        cleared := reminder_turn_of_fires
        ready := reaches.sound.ready_of_isDue
        settled := fun atRest isOpen _ isDeadline =>
          (reaches.sound.asleep_of_atRest isOpen atRest isDeadline).2
        unfired := fun shape => Reminder.open_of_fired (shape ▸ possible)
        rearmed := fun shape => Reminder.armed_of_fired (shape ▸ possible) }

/-- A timer is armed, lowered, fires, is armed in its callback, and is closed. -/
theorem observed_iff_reminded_closed :
    let events : List Event :=
      [ .asked (.arm 5), .settled, .asked (.armEarlier 3), .passed 4
      , .fired [.arm 9, .armEarlier 12], .settled, .asked .close, .passed 10, .settled ]
    ∃ timer : Timer, Reaches 0 events timer 14 ∧ timer.deadline = some 9 ∧
      timer.Minds 0 events 14 := by
  intro events
  have possible : Reminder.run? 0 events = some (⟨some 9, true⟩, 14) := by decide +kernel
  obtain ⟨timer, now, reaches⟩ := (observed_iff_reminded 0 events).1.mpr (by rw [possible]; rfl)
  have minds := (observed_iff_reminded 0 events).2 reaches
  have known := minds.reminded.symm.trans possible
  simp only [Option.some.injEq, Prod.mk.injEq] at known
  obtain ⟨known, rfl⟩ := known
  exact ⟨timer, reaches, congrArg Reminder.deadline known, minds⟩

end Timer

end Discovery
