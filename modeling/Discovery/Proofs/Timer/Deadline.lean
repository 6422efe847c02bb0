import Discovery.Timer

namespace Discovery.Timer

/-!
# Deadlines

Lowering a deadline keeps the earliest of the instants to which it was lowered,
so the order of the requests does not matter, nor does a repetition.  A task
that sleeps without a call knows the deadline (`Timer.Sound`), so an open timer
that has nothing to do has no deadline in the past, and does not oversleep
(`Timer.Heeds`).
-/

/-- A deadline that is lowered to the same instant again stays as it is. -/
theorem armEarlier_armEarlier_self
    (timer : Timer)
    (deadline : Instant) :
    (timer.armEarlier deadline).armEarlier deadline = timer.armEarlier deadline := by
  obtain ⟨current?, closed, called, phase⟩ := timer
  cases current? with
  | none => simp [armEarlier, arm]
  | some current =>
      by_cases early : current ≤ deadline
      · simp [armEarlier, early]
      · simp [armEarlier, arm, early]

/-- It does not matter in which order a deadline is lowered to two instants. -/
theorem armEarlier_comm
    (timer : Timer)
    (first second : Instant) :
    (timer.armEarlier first).armEarlier second =
      (timer.armEarlier second).armEarlier first := by
  obtain ⟨current?, closed, called, phase⟩ := timer
  cases current? with
  | none => grind [armEarlier, arm]
  | some current =>
      by_cases early : current ≤ first <;> by_cases late : current ≤ second <;>
        grind [armEarlier, arm]

/-- Lowering to instants that may be absent commutes as well. -/
theorem armEarlier?_comm
    (timer : Timer)
    (first second : Option Instant) :
    (timer.armEarlier? first).armEarlier? second =
      (timer.armEarlier? second).armEarlier? first := by
  cases first with
  | none => cases second <;> rfl
  | some first =>
      cases second with
      | none => rfl
      | some second => exact armEarlier_comm timer first second

/-- A deadline that was lowered to an instant is not later than it. -/
theorem deadline_armEarlier_le
    (timer : Timer)
    (instant : Instant) :
    ∃ deadline, (timer.armEarlier instant).deadline = some deadline ∧ deadline ≤ instant := by
  unfold armEarlier
  split
  next current isCurrent =>
    split
    next early => exact ⟨current, isCurrent, early⟩
    next => exact ⟨instant, rfl, Nat.le_refl instant⟩
  next => exact ⟨instant, rfl, Nat.le_refl instant⟩

/-- Lowering a deadline does not raise it. -/
theorem deadline_armEarlier_of_le
    {timer : Timer}
    {bound : Instant}
    (early : ∃ deadline, timer.deadline = some deadline ∧ deadline ≤ bound)
    (instant : Instant) :
    ∃ deadline, (timer.armEarlier instant).deadline = some deadline ∧ deadline ≤ bound := by
  obtain ⟨current, isCurrent, before⟩ := early
  unfold armEarlier
  rw [isCurrent]
  dsimp only
  split
  next => exact ⟨current, isCurrent, before⟩
  next later => exact ⟨instant, rfl, Nat.le_trans (Nat.le_of_not_le later) before⟩

@[simp]
theorem closed_armEarlier
    (timer : Timer)
    (instant : Instant) :
    (timer.armEarlier instant).closed = timer.closed := by
  unfold armEarlier
  split
  next => split <;> rfl
  next => rfl

@[simp]
theorem closed_armEarlier?
    (timer : Timer)
    (instant : Option Instant) :
    (timer.armEarlier? instant).closed = timer.closed := by
  cases instant with
  | none => rfl
  | some instant => exact closed_armEarlier timer instant

@[simp]
theorem closed_turn
    (timer : Timer)
    (now : Instant) :
    (timer.turn now).2.closed = timer.closed := by
  unfold turn
  split
  next => rfl
  next =>
    split
    next => rfl
    next => split <;> rfl

/-- A timer fires if it is open and its deadline has come. -/
theorem fires_iff
    {timer : Timer}
    {now : Instant} :
    (timer.turn now).1 = true ↔
      timer.closed = false ∧ ∃ deadline, timer.deadline = some deadline ∧ deadline ≤ now := by
  unfold turn
  cases closed : timer.closed with
  | true => simp
  | false =>
      cases isDeadline : timer.deadline with
      | none => simp
      | some deadline =>
          by_cases past : deadline ≤ now <;> simp [past]

/-- A timer that does not fire keeps its deadline. -/
theorem deadline_turn
    {timer : Timer}
    {now : Instant}
    (silent : (timer.turn now).1 = false) :
    (timer.turn now).2.deadline = timer.deadline := by
  unfold turn at silent ⊢
  by_cases closed : timer.closed = true
  · rw [if_pos closed]
  rw [if_neg closed] at silent ⊢
  cases isDeadline : timer.deadline with
  | none => rfl
  | some deadline =>
      by_cases past : deadline ≤ now
      · simp [isDeadline, past] at silent
      · simp [past]

/-- After a turn the deadline of an open timer is to come. -/
theorem lt_deadline_turn
    {timer : Timer}
    {now deadline : Instant}
    (isOpen : timer.closed = false)
    (isDeadline : (timer.turn now).2.deadline = some deadline) :
    now < deadline := by
  rw [turn, isOpen, if_neg Bool.false_ne_true] at isDeadline
  cases current? : timer.deadline with
  | none =>
      rw [current?] at isDeadline
      cases isDeadline
  | some current =>
      rw [current?] at isDeadline
      dsimp only at isDeadline
      split at isDeadline
      next => cases isDeadline
      next notPast =>
        exact Option.some.inj isDeadline ▸ Nat.lt_of_not_le notPast

/-- A deadline that was lowered to what is to come is to come. -/
theorem lt_deadline_armEarlier
    {timer : Timer}
    {now instant deadline : Instant}
    (ahead : ∀ {deadline}, timer.deadline = some deadline → now < deadline)
    (later : now < instant)
    (isDeadline : (timer.armEarlier instant).deadline = some deadline) :
    now < deadline := by
  unfold armEarlier at isDeadline
  split at isDeadline
  next =>
    split at isDeadline
    next => exact ahead isDeadline
    next => exact Option.some.inj isDeadline ▸ later
  next => exact Option.some.inj isDeadline ▸ later

/-- A timer does not fire again at the same instant, unless its deadline is lowered to it. -/
theorem not_fires_armEarlier?_turn
    (timer : Timer)
    {now : Instant}
    {next? : Option Instant}
    (later : ∀ {next}, next? = some next → now < next) :
    (((timer.turn now).2.armEarlier? next?).turn now).1 = false := by
  rw [← Bool.not_eq_true, fires_iff, closed_armEarlier?, closed_turn]
  rintro ⟨isOpen, deadline, isDeadline, past⟩
  refine Nat.not_lt_of_le past ?_
  cases next? with
  | none => exact lt_deadline_turn isOpen isDeadline
  | some next => exact lt_deadline_armEarlier (lt_deadline_turn isOpen) (later rfl) isDeadline

/-- A task that has nothing to do does not wait for the past. -/
theorem lt_of_waitsFor?
    {timer : Timer}
    {now deadline : Instant}
    (atRest : timer.isReady now = false)
    (waits : timer.waitsFor? = some deadline) :
    now < deadline := by
  unfold waitsFor? at waits
  unfold isReady at atRest
  split at waits
  next asleep =>
    cases waits
    rw [asleep, Bool.or_eq_false_iff] at atRest
    exact Nat.lt_of_not_le (of_decide_eq_false atRest.2)
  next => cases waits

/-- The task knows the deadline while it sleeps, unless a call waits for it. -/
structure Sound (timer : Timer) : Prop where
  idle : timer.phase = .idle → timer.called = false → timer.deadline = none
  asleep : ∀ {deadline}, timer.phase = .asleep deadline → timer.called = false →
    timer.deadline = some deadline
  finished : timer.phase = .finished → timer.closed = true

namespace Sound

variable {timer : Timer}

theorem new : Timer.new.Sound :=
  ⟨nofun, nofun, nofun⟩

theorem armEarlier
    (sound : timer.Sound)
    (instant : Instant) :
    (timer.armEarlier instant).Sound := by
  have armed : (timer.arm instant).Sound :=
    ⟨fun _ => nofun, fun _ => nofun, sound.finished⟩
  unfold Timer.armEarlier
  split
  next =>
    split
    next => exact sound
    next => exact armed
  next => exact armed

theorem armEarlier?
    (sound : timer.Sound)
    (instant : Option Instant) :
    (timer.armEarlier? instant).Sound := by
  cases instant with
  | none => exact sound
  | some instant => exact sound.armEarlier instant

theorem close (timer : Timer) : timer.close.Sound :=
  ⟨fun _ => nofun, fun _ => nofun, fun _ => rfl⟩

theorem turn
    (timer : Timer)
    (now : Instant) :
    (timer.turn now).2.Sound := by
  unfold Timer.turn
  split
  next closed => exact ⟨nofun, nofun, fun _ => closed⟩
  next =>
    split
    next none => exact ⟨fun _ _ => none, nofun, nofun⟩
    next deadline isDeadline =>
      split
      next => exact ⟨nofun, nofun, nofun⟩
      next =>
        refine ⟨nofun, fun asleep _ => ?_, nofun⟩
        cases asleep
        exact isDeadline

/-- The task of an open timer that has nothing to do waits for the deadline, which is to come. -/
theorem asleep_of_atRest
    (sound : timer.Sound)
    (isOpen : timer.closed = false)
    {now deadline : Instant}
    (atRest : timer.isReady now = false)
    (isDeadline : timer.deadline = some deadline) :
    timer.phase = .asleep deadline ∧ now < deadline := by
  unfold isReady at atRest
  split at atRest
  next => cases atRest
  next isIdle =>
    rw [sound.idle isIdle atRest] at isDeadline
    cases isDeadline
  next known isAsleep =>
    rw [Bool.or_eq_false_iff] at atRest
    obtain ⟨notCalled, notPast⟩ := atRest
    rw [sound.asleep isAsleep notCalled] at isDeadline
    cases isDeadline
    exact ⟨isAsleep, Nat.lt_of_not_le (of_decide_eq_false notPast)⟩
  next isFinished =>
    rw [sound.finished isFinished] at isOpen
    cases isOpen

end Sound

/--
A timer does not oversleep an instant: it is set for it or earlier, fires then
if it has not before, and its task waits for nothing later.
-/
structure Heeds (timer : Timer) (instant : Instant) : Prop where
  isOpen : timer.closed = false
  deadline : ∃ deadline, timer.deadline = some deadline ∧ deadline ≤ instant
  fires : ∀ {now}, instant ≤ now → (timer.turn now).1 = true
  wakes : ∀ {now}, timer.isReady now = false →
    ∃ deadline, timer.waitsFor? = some deadline ∧ now < deadline ∧ deadline ≤ instant

theorem Sound.heeds
    {timer : Timer}
    (sound : timer.Sound)
    (isOpen : timer.closed = false)
    {instant : Instant}
    (armed : ∃ deadline, timer.deadline = some deadline ∧ deadline ≤ instant) :
    timer.Heeds instant := by
  obtain ⟨deadline, isDeadline, early⟩ := armed
  refine ⟨isOpen, ⟨deadline, isDeadline, early⟩, fun past => ?_, fun atRest => ?_⟩
  · exact fires_iff.mpr ⟨isOpen, deadline, isDeadline, Nat.le_trans early past⟩
  · obtain ⟨asleep, ahead⟩ := sound.asleep_of_atRest isOpen atRest isDeadline
    exact ⟨deadline, by rw [waitsFor?, asleep], ahead, early⟩

end Discovery.Timer
