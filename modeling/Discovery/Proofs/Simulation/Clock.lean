import Discovery.Simulation.World
import Discovery.Table.Lemmas

namespace Discovery.Simulation.World

/-!
# The clock of a world

The clock of a world counts whole milliseconds.  On its way to a target it stops
at the first of them at which some timer is to fire (`nextStop`), so it passes
no timer by a millisecond or more (`nextStop_le_tick`).
-/

section Ticks

variable (instant : Instant)

theorem le_tick : instant ≤ tick instant := by
  have rounded : ∀ number : Nat, number ≤ (number + (1000000 - 1)) / 1000000 * 1000000 := by omega
  exact rounded instant

theorem tick_lt : tick instant < instant + millisecond := by
  have rounded : ∀ number : Nat,
      (number + (1000000 - 1)) / 1000000 * 1000000 < number + 1000000 := by omega
  exact rounded instant

/-- The whole millisecond of a whole millisecond is itself. -/
theorem tick_tick : tick (tick instant) = tick instant := by
  have rounded : ∀ number : Nat, (number * 1000000 + (1000000 - 1)) / 1000000 * 1000000 =
      number * 1000000 := by omega
  exact rounded _

theorem tick_mono
    {earlier later : Instant}
    (before : earlier ≤ later) :
    tick earlier ≤ tick later := by
  have rounded : ∀ first second : Nat, first ≤ second →
      (first + (1000000 - 1)) / 1000000 * 1000000 ≤
        (second + (1000000 - 1)) / 1000000 * 1000000 := by omega
  exact rounded earlier later before

end Ticks

/-- The instant to which time passes first on its way to a target. -/
def nextStop (world : World) (target : Instant) : Instant :=
  match world.nextWake? with
  | some instant => min instant target
  | none => target

section Stops

variable {world : World}

/-- Time passes from stop to stop, and at each the world comes to rest. -/
theorem passWithin_succ
    (world : World)
    (target : Instant)
    (steps : Nat) :
    passWithin target (steps + 1) world =
      let stopped := { world with now := world.nextStop target }.settle
      if world.nextWake?.any fun instant => decide (instant ≤ target) then
        passWithin target steps stopped
      else stopped := by
  rw [passWithin, nextStop]
  cases world.nextWake? with
  | none => rfl
  | some instant =>
      by_cases before : instant ≤ target
      · simp [before]
      · simp [before, Nat.le_of_lt (Nat.lt_of_not_le before)]

/-- The timer of a publisher is among those for which the clock stops. -/
theorem mem_wakes
    {name : String}
    {member : Member}
    (found : world.members.find? name = some member)
    {publisher : Publisher}
    (isPublisher : member.agent.publisher = some publisher)
    {deadline : Instant}
    (waits : publisher.timer.waitsFor? = some deadline) :
    deadline ∈ world.wakes := by
  refine List.mem_append_left _ (List.mem_flatMap.mpr ⟨member, ?_, List.mem_append_left _ ?_⟩)
  · exact List.mem_map_of_mem (Table.find?_eq_some_iff.mp found)
  · refine List.mem_append_left _ ?_
    rw [isPublisher, Option.bind_some, waits]
    exact List.mem_singleton_self deadline

theorem mem_nextWake?
    {instant : Instant}
    (isNext : world.nextWake? = some instant) :
    (∃ deadline ∈ world.wakes, tick deadline = instant) ∧ world.now < instant ∧
      ∀ deadline ∈ world.wakes, world.now < deadline → instant ≤ tick deadline := by
  obtain ⟨member, least⟩ := List.min?_eq_some_iff.mp isNext
  obtain ⟨isTick, ahead⟩ := List.mem_filter.mp member
  refine ⟨List.mem_map.mp isTick, of_decide_eq_true ahead, fun deadline wakes later => ?_⟩
  have past := Nat.lt_of_lt_of_le later (le_tick deadline)
  exact least _ (List.mem_filter.mpr ⟨List.mem_map_of_mem wakes, decide_eq_true past⟩)

/-- The clock stops at the first whole millisecond at which a timer is to fire, or before it. -/
theorem nextStop_le_tick
    {deadline : Instant}
    (wakes : deadline ∈ world.wakes)
    (ahead : world.now < deadline)
    (target : Instant) :
    world.nextStop target ≤ tick deadline := by
  unfold nextStop
  cases isNext : world.nextWake? with
  | some instant =>
      exact Nat.le_trans (Nat.min_le_left ..) ((mem_nextWake? isNext).2.2 deadline wakes ahead)
  | none =>
      have none := List.min?_eq_none_iff.mp isNext
      have past := Nat.lt_of_lt_of_le ahead (le_tick deadline)
      have member : tick deadline ∈ (world.wakes.map tick).filter fun instant =>
          decide (world.now < instant) :=
        List.mem_filter.mpr ⟨List.mem_map_of_mem wakes, decide_eq_true past⟩
      rw [none] at member
      cases member

/-- The clock does not go back. -/
theorem le_nextStop
    {target : Instant}
    (later : world.now ≤ target) :
    world.now ≤ world.nextStop target := by
  unfold nextStop
  cases isNext : world.nextWake? with
  | none => exact later
  | some instant => exact Nat.le_min.mpr ⟨Nat.le_of_lt (mem_nextWake? isNext).2.1, later⟩

/-- The clock stops at whole milliseconds. -/
theorem tick_nextStop
    (world : World)
    {target : Instant}
    (whole : tick target = target) :
    tick (world.nextStop target) = world.nextStop target := by
  unfold nextStop
  cases isNext : world.nextWake? with
  | none => exact whole
  | some instant =>
      obtain ⟨⟨deadline, _, rfl⟩, _⟩ := mem_nextWake? isNext
      rcases Nat.le_total (tick deadline) target with before | after
      · simp only [Nat.min_eq_left before, tick_tick]
      · simp only [Nat.min_eq_right after, whole]

end Stops

end Discovery.Simulation.World
