import Discovery.Proofs.Agent.Diary
import Discovery.Proofs.Convergence.Rest
import Discovery.Proofs.Simulation.Clock

namespace Discovery.Diary

/-!
# The times of announcements

The clock of a world passes when the world is at rest, and stops for every timer
(`Diary.Stops`); that is how a world lets time pass (`Diary.Step.passWithin`).  So
each announcement is made at the first whole millisecond at which it is due, the
first one when the resource is published (`Diary.OnTime`).
-/

/-- The clock of a world to which the agent belongs passes to its next stop. -/
inductive Stops (diary : Diary) : Instant → Prop where
  | stop
      {world : Simulation.World}
      {name : String}
      {member : Simulation.Member}
      {target : Instant}
      (found : world.members.find? name = some member)
      (agent : member.agent = diary.moment.agent)
      (now : world.now = diary.now)
      (atRest : world.AtRest)
      (after : diary.now ≤ target)
      (whole : Simulation.World.tick target = target) :
      Stops diary (world.nextStop target)

/--
Time passes when the timer of announcements has nothing to do, and to a whole
millisecond that is not beyond the first one after its deadline.
-/
structure Paced (diary : Diary) (later : Instant) : Prop where
  atRest : diary.moment.agent.announceReady diary.now = false
  whole : Simulation.World.tick later = later
  wakes : ∀ {publisher deadline}, diary.moment.agent.publisher = some publisher →
    publisher.timer.waitsFor? = some deadline → later ≤ Simulation.World.tick deadline

/-- What a diary says of its agent on the clock of a world. -/
structure Timed (diary : Diary) : Prop where
  whole : Simulation.World.tick diary.now = diary.now
  soon : ∀ {id scheduled}, diary.publisher.owned.find? id = some scheduled →
    diary.now ≤ Simulation.World.tick scheduled.nextAnnounce
  first : ∀ {id scheduled}, diary.publisher.owned.find? id = some scheduled →
    diary.publishedAt? id = some ((diary.hellos id).head?.getD diary.now)

/-- On the clock of a world, announcements are made in time. -/
structure OnTime (diary : Diary) : Prop where
  /-- Time does not pass the first whole millisecond at which an announcement is due. -/
  soon : ∀ {id scheduled}, diary.publisher.owned.find? id = some scheduled →
    diary.now ≤ Simulation.World.tick scheduled.nextAnnounce
  /-- The first announcement is made when the resource is published, and no time passes before. -/
  first : ∀ {id scheduled}, diary.publisher.owned.find? id = some scheduled →
    diary.publishedAt? id = some ((diary.hellos id).head?.getD diary.now)
  /-- Once nothing is due, whatever the agent has published has been announced in this way. -/
  settled : diary.moment.agent.announceReady diary.now = false →
    diary.moment.agent.lifecycle ≠ .disposed → ∀ id ∈ diary.moment.published,
      ∃ published, diary.publishedAt? id = some published ∧
        (diary.hellos id).head? = some published
  /-- When a resource is due again, it is the first whole millisecond after the interval. -/
  again : ∀ {id scheduled last}, diary.publisher.owned.find? id = some scheduled →
    (diary.hellos id).getLast? = some last → scheduled.nextAnnounce ≤ diary.now →
      diary.now = Simulation.World.tick (last + scheduled.interval)

/-- The clock of a world passes to its next stop. -/
theorem Step.stop
    {diary : Diary}
    {world : Simulation.World}
    {name : String}
    {member : Simulation.Member}
    {target : Instant}
    (found : world.members.find? name = some member)
    (agent : member.agent = diary.moment.agent)
    (now : world.now = diary.now)
    (atRest : world.AtRest)
    (after : diary.now ≤ target)
    (whole : Simulation.World.tick target = target) :
    Step Stops diary { diary with now := world.nextStop target } := by
  refine .wait ?_ (.stop found agent now atRest after whole)
  rw [← now] at after ⊢
  exact Simulation.World.le_nextStop after

/--
When time passes in a world at rest, it passes to a stop of the diary of each of
its agents.  There the tasks take their turns, and time passes on from there.
-/
theorem Step.passWithin
    {world : Simulation.World}
    {target : Instant}
    (atRest : world.AtRest)
    (after : world.now ≤ target)
    (whole : Simulation.World.tick target = target)
    (steps : Nat) :
    ∃ instant,
      let stopped := { world with now := instant }.settle
      (world.passWithin target (steps + 1) = stopped ∨
        world.passWithin target (steps + 1) = stopped.passWithin target steps) ∧
      ∀ {name member} {diary : Diary}, world.members.find? name = some member →
        member.agent = diary.moment.agent → world.now = diary.now →
          Step Stops diary { diary with now := instant } := by
  refine ⟨world.nextStop target, ?_, fun found agent now =>
    .stop found agent now atRest (now ▸ after) whole⟩
  rw [Simulation.World.passWithin_succ]
  dsimp only
  split
  next => exact .inr rfl
  next => exact .inl rfl

/-- The clock of a world does not stop before its time, and passes no deadline. -/
theorem Stops.paced
    {diary : Diary}
    {later : Instant}
    (stops : diary.Stops later) :
    diary.Paced later := by
  obtain ⟨found, agent, now, atRest, _, whole⟩ := stops
  refine ⟨?_, Simulation.World.tick_nextStop _ whole, fun isPublisher waits => ?_⟩
  · rw [← agent, ← now]
    exact atRest.announceReady found
  · rw [← agent] at isPublisher
    have notReady := atRest.announceReady found
    rw [Agent.announceReady, isPublisher, Option.any_some] at notReady
    exact Simulation.World.nextStop_le_tick (Simulation.World.mem_wakes found isPublisher waits)
      (Timer.lt_of_waitsFor? notReady waits) _

namespace Timed

variable {diary : Diary}

theorem new
    {start : Instant}
    (whole : Simulation.World.tick start = start)
    (settings : AgentSettings)
    (attempts : List (Option TransportError)) :
    Timed (.new start settings attempts) :=
  ⟨whole, nofun, nofun⟩

/-- When nothing is due, what is owned has been announced as soon as it was published. -/
theorem head?_hellos_of_atRest
    (timed : diary.Timed)
    (kept : diary.Kept)
    (atRest : diary.moment.agent.announceReady diary.now = false)
    {id : ResourceId}
    {scheduled : Scheduled}
    (owned : diary.publisher.owned.find? id = some scheduled) :
    ∃ published, diary.publishedAt? id = some published ∧
      (diary.hellos id).head? = some published := by
  obtain ⟨_, _, ahead, early⟩ := kept.lt_nextAnnounce atRest owned
  have first := timed.first owned
  have due := kept.due owned
  cases known : diary.hellos id with
  | cons earliest rest => exact ⟨earliest, by rw [first, known]; rfl, rfl⟩
  | nil =>
      rw [dueAt?, first, known] at due
      have isNow : diary.now = scheduled.nextAnnounce := Option.some.inj due
      exact absurd (Nat.lt_of_lt_of_le ahead early) (isNow ▸ Nat.lt_irrefl _)

/-- Whatever happens takes no time. -/
theorem act
    (timed : diary.Timed)
    (kept : diary.Kept)
    {occurrence : Occurrence}
    {said : List Outgoing}
    {accepted : List ResourceId}
    (turnover : Turnover diary occurrence said accepted)
    (timely : ∀ {instant}, (diary.moment.occasion occurrence).timely instant →
      instant = diary.now)
    (fresh : ∀ {id}, occurrence.names? = some id → id ∉ diary.moment.published) :
    (diary.after occurrence).Timed := by
  have firstAfter : ∀ {id earlier}, diary.publisher.owned.find? id = some earlier →
      (diary.after occurrence).publishedAt? id =
        some (((diary.after occurrence).hellos id).head?.getD diary.now) := by
    intro id earlier wasOwned
    rw [Kept.publishedAt?_after turnover kept (kept.mem_published wasOwned),
      Kept.head?_hellos_after turnover]
    exact timed.first wasOwned
  refine ⟨timed.whole, fun owned => ?_, fun owned => ?_⟩
  · cases Kept.course turnover kept timely fresh owned with
    | announced _ _ due =>
        rw [due]
        exact Nat.le_trans (Nat.le_add_right ..) (Simulation.World.le_tick _)
    | published _ _ _ due =>
        rw [due]
        exact Simulation.World.le_tick _
    | kept wasOwned _ due _ =>
        rw [due]
        exact timed.soon wasOwned
  · cases Kept.course turnover kept timely fresh owned with
    | announced wasOwned _ _ => exact firstAfter wasOwned
    | published _ entered hellos _ =>
        rw [entered, hellos]
        rfl
    | kept wasOwned _ _ _ => exact firstAfter wasOwned

/-- Time passes no further than to what is due next. -/
theorem wait
    (timed : diary.Timed)
    (kept : diary.Kept)
    {later : Instant}
    (paced : diary.Paced later) :
    Timed { diary with now := later } := by
  refine ⟨paced.whole, fun owned => ?_, fun {id _} owned => ?_⟩
  · obtain ⟨deadline, waits, _, early⟩ := kept.lt_nextAnnounce paced.atRest owned
    exact Nat.le_trans (paced.wakes (Kept.exists_publisher owned) waits)
      (Simulation.World.tick_mono early)
  · obtain ⟨published, entered, first⟩ := timed.head?_hellos_of_atRest kept paced.atRest owned
    have same : diary.publishedAt? id = some ((diary.hellos id).head?.getD later) := by
      rw [entered, first]
      rfl
    exact same

/-- On the clock of a world, a diary stays timed. -/
theorem leads
    {clock : Diary → Instant → Prop}
    (paces : ∀ {earlier later}, clock earlier later → earlier.Paced later)
    {first : Diary}
    (timed : first.Timed)
    (kept : first.Kept)
    (leads : Leads clock first diary) :
    diary.Timed := by
  induction leads with
  | refl => exact timed
  | tail before step stillTimed =>
      have stillKept := kept.leads before
      cases step with
      | act timely fresh =>
          obtain ⟨_, _, turnover⟩ := exists_turnover _ _
          exact stillTimed.act stillKept turnover timely fresh
      | wait _ passes => exact stillTimed.wait stillKept (paces passes)

/-- What is due is due at the first whole millisecond of its time. -/
theorem now_eq_tick
    (timed : diary.Timed)
    {id : ResourceId}
    {scheduled : Scheduled}
    (owned : diary.publisher.owned.find? id = some scheduled)
    (past : scheduled.nextAnnounce ≤ diary.now) :
    diary.now = Simulation.World.tick scheduled.nextAnnounce :=
  Nat.le_antisymm (timed.soon owned) (timed.whole ▸ Simulation.World.tick_mono past)

theorem onTime
    (timed : diary.Timed)
    (kept : diary.Kept) :
    diary.OnTime where
  soon := timed.soon
  first := timed.first
  settled atRest running id published := by
    rcases kept.phase with inService | spent
    · obtain ⟨scheduled, owned⟩ := Option.isSome_iff_exists.mp (inService.holds.owned.mpr published)
      exact timed.head?_hellos_of_atRest kept atRest owned
    · exact absurd spent.disposed running
  again {id scheduled last} owned isLast past := by
    have due := kept.due owned
    rw [dueAt?, isLast] at due
    rw [timed.now_eq_tick owned past, ← Option.some.inj due]

end Timed

/--
However time passes, a resource is to be announced an interval after the last
announcement, and at once if there was none.  A turn of the timer announces what
is due, once each, and nothing else, and nothing that is received changes that.
On the clock of a world every announcement is made at the first whole
millisecond at which it is due, the first one when the resource is published.
-/
theorem keeps_of_leads
    {clock : Diary → Instant → Prop}
    {start : Instant}
    {settings : AgentSettings}
    {attempts : List (Option TransportError)}
    {diary : Diary}
    (leads : Leads clock (.new start settings attempts) diary) :
    diary.Keeps ∧
      ((∀ {earlier later}, clock earlier later → earlier.Stops later) →
        Simulation.World.tick start = start → diary.OnTime) := by
  have kept := (Kept.new start settings attempts).leads leads
  refine ⟨kept.keeps, fun stops whole => ?_⟩
  have timed : diary.Timed :=
    .leads (fun passes => (stops passes).paced) (.new whole settings attempts) (.new ..) leads
  exact timed.onTime kept

/-- A resource with a second to last is announced at once, and again after 450 milliseconds. -/
theorem keeps_of_leads_announced :
    let id : ResourceId := ⟨List.replicate 16 1, List.length_replicate⟩
    let later := 450 * millisecond
    ∃ diary : Diary, Leads Stops (.new 0 ⟨1, 50⟩ []) diary ∧ diary.Keeps ∧ diary.OnTime ∧
      diary.now = later ∧ diary.hellos id = [0, later] := by
  intro id later
  let fresh := Diary.new 0 ⟨1, 50⟩ []
  let published := fresh.after (.errand (.publish 0 id "Room" "here" ∅))
  let announced := published.after (.errand (.announce published.now))
  let asleep := announced.after (.errand (.announce announced.now))
  let member : Simulation.Member := ⟨asleep.moment.agent, none, 0, none, false⟩
  let world : Simulation.World :=
    { Simulation.World.new with members := Table.insert ∅ "a" member }
  let waiting : Diary := { asleep with now := world.nextStop second }
  let again := waiting.after (.errand (.announce waiting.now))
  have publishes : Step Stops fresh published := by
    refine .act ?_ ?_
    · rintro _ ⟨_, ⟨⟩, ⟨⟩⟩
      rfl
    · rintro _ ⟨⟩
      exact List.not_mem_nil
  have turns : ∀ diary : Diary, Step Stops diary (diary.after (.errand (.announce diary.now))) := by
    refine fun diary => .act ?_ nofun
    rintro _ ⟨_, ⟨⟩, ⟨⟩⟩
    rfl
  have waits : Step Stops asleep waiting := by
    have found : world.members.find? "a" = some member :=
      (Table.find?_insert ..).trans (if_pos rfl)
    have now : world.now = asleep.now := by decide +kernel
    have atRest : world.AtRest := by decide +kernel
    have after : asleep.now ≤ second := by decide +kernel
    have agent : member.agent = asleep.moment.agent := by simp only [member]
    exact Step.stop found agent now atRest after (by decide +kernel)
  have leads : Leads Stops fresh again :=
    ((((Relation.ReflTransGen.single publishes).tail (turns published)).tail
      (turns announced)).tail waits).tail (turns waiting)
  obtain ⟨keeps, onTime⟩ := keeps_of_leads leads
  exact ⟨again, leads, keeps, onTime (fun stops => stops) (by decide +kernel),
    by decide +kernel, by decide +kernel⟩

end Discovery.Diary
