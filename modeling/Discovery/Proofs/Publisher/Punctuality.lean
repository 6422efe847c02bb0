import Discovery.Proofs.Publisher.Step

namespace Discovery

/-!
# Announcements without delay

While the timer of a publisher is looked after at once, or at the next whole
millisecond, every resource is announced less than a millisecond after its time
(`Publisher.Punctual`).  An announcement is believed for two intervals and two
milliseconds (`Scheduled.margin`), so the second one after it still comes in time.
-/

/-- An announcement is believed for two intervals, each a millisecond late. -/
theorem Scheduled.margin
    {scheduled : Scheduled}
    (lasting : 1 ≤ scheduled.resource.expiry.toInt) :
    2 * (scheduled.interval + millisecond) ≤ scheduled.lifetime :=
  announceInterval_margin lasting

namespace Publisher

/-- No announcement is a millisecond late. -/
structure Punctual (now : Instant) (publisher : Publisher) : Prop extends Sound now publisher where
  soon : ∀ {id scheduled}, publisher.owned.find? id = some scheduled →
    now < scheduled.nextAnnounce + millisecond

section Steps

variable {occasion : Occasion} {now : Instant} {publisher next : Publisher}
variable {said : List Outgoing} {accepted : List ResourceId}

/-- What may be offered names a resource that is new, and is to last. -/
def Welcomes (publisher : Publisher) (resource : LocalResource) : Prop :=
  resource.id.isNil = false ∧ 1 ≤ resource.expiry.toInt ∧ publisher.resource? resource.id = none

/-- Whatever becomes of a publisher, it speaks of it. -/
theorem Step.utterance
    (step : publisher.Step occasion said accepted next)
    (sound : publisher.Sound now)
    (timely : ∀ {instant}, occasion.timely instant → instant = now)
    (welcomes : ∀ {resource}, occasion.offered resource → publisher.Welcomes resource) :
    ∃ fresh, Utterance now fresh publisher next said := by
  cases step with
  | rest => exact ⟨_, .unchanged sound rfl rfl nofun⟩
  | publish isNow offered published =>
      obtain ⟨real, lasting, fresh⟩ := welcomes offered
      rw [timely isNow] at published
      exact ⟨_, .publish sound real lasting fresh published⟩
  | turn isNow =>
      rw [timely isNow]
      exact ⟨_, .turn sound⟩
  | answer origin category => exact ⟨_, .answer sound origin category⟩
  | commit isNow committed =>
      rw [timely isNow] at committed
      exact ⟨_, .commit sound committed⟩
  | stop => exact ⟨_, .stop sound⟩
  | shuffle front =>
      refine ⟨_, .unchanged (sound.withFront front) ?_ ?_ nofun⟩ <;> rfl

/-- The next announcement of a resource stays where it is, or it is not put into the past. -/
theorem Step.nextAnnounce_cases
    (step : publisher.Step occasion said accepted next)
    (timely : ∀ {instant}, occasion.timely instant → instant = now)
    {id : ResourceId}
    {later : Scheduled}
    (owned : next.owned.find? id = some later) :
    now ≤ later.nextAnnounce ∨
      ∃ earlier, publisher.owned.find? id = some earlier ∧
        earlier.nextAnnounce = later.nextAnnounce := by
  have announced : ∀ {known : Option Scheduled},
      (known.map fun earlier => earlier.announcedAt now) = some later →
        now ≤ later.nextAnnounce := by
    intro known isLater
    obtain ⟨earlier, _, rfl⟩ := Option.map_eq_some_iff.mp isLater
    rw [Scheduled.nextAnnounce_announcedAt]
    exact Nat.le_add_right ..
  cases step with
  | rest | answer | shuffle => exact .inr ⟨later, owned, rfl⟩
  | publish isNow _ published =>
      rw [find?_owned_publish published] at owned
      split at owned
      next =>
        cases owned
        exact .inl (Nat.le_of_eq (timely isNow).symm)
      next => exact .inr ⟨later, owned, rfl⟩
  | turn isNow =>
      rw [timely isNow] at owned
      rcases publisher.turn_cases now with ⟨_, same⟩ | ⟨_, same⟩ <;> rw [same] at owned
      · exact .inr ⟨later, owned, rfl⟩
      · rw [find?_owned_takeDue] at owned
        split at owned
        next => exact .inl (announced owned)
        next => exact .inr ⟨later, owned, rfl⟩
  | commit isNow committed =>
      rw [timely isNow] at committed
      obtain ⟨_, _, _, _, _, _, rfl, rfl⟩ := commit_cases committed
      rw [find?_owned_reschedule] at owned
      split at owned
      next => exact .inl (announced owned)
      next different =>
        rw [find?_owned_amend, if_neg different] at owned
        exact .inr ⟨later, owned, rfl⟩
  | stop =>
      unfold Publisher.stop at owned
      split at owned
      next => exact .inr ⟨later, owned, rfl⟩
      next => cases owned

/-- Until a publisher stops, it owns each resource in the same category and to last as long. -/
theorem Step.remains
    (step : publisher.Step occasion said accepted next)
    (calm : ¬ occasion.stopping)
    {ids : List ResourceId}
    (holds : publisher.Holds ids)
    {fresh : ResourceId → Prop}
    (utterance : Utterance now fresh publisher next said)
    {id : ResourceId}
    {scheduled : Scheduled}
    (owned : publisher.owned.find? id = some scheduled) :
    ∃ later, next.owned.find? id = some later ∧
      later.resource.category = scheduled.resource.category ∧
      later.resource.expiry = scheduled.resource.expiry := by
  obtain ⟨resource, isResource, category, expiry⟩ :=
    utterance.lasting (resource?_of_owned owned)
  have running := (step.holds calm holds).running
  rw [resource?_eq, utterance.sound.inService running, Table.find?_empty,
    Option.or_none] at isResource
  obtain ⟨later, isOwned, rfl⟩ := Option.map_eq_some_iff.mp isResource
  exact ⟨later, isOwned, category, expiry⟩

end Steps

namespace Punctual

variable {now : Instant} {publisher : Publisher}

theorem new (now : Instant) : Punctual now Publisher.new :=
  ⟨.new now, nofun⟩

/-- Whatever becomes of a publisher, it stays punctual. -/
theorem step
    (punctual : publisher.Punctual now)
    {occasion : Occasion}
    {said : List Outgoing}
    {accepted : List ResourceId}
    {next : Publisher}
    (step : publisher.Step occasion said accepted next)
    (timely : ∀ {instant}, occasion.timely instant → instant = now)
    {fresh : ResourceId → Prop}
    (utterance : Utterance now fresh publisher next said) :
    next.Punctual now := by
  refine ⟨utterance.sound, fun {id later} owned => ?_⟩
  rcases step.nextAnnounce_cases timely owned with notPast | ⟨earlier, wasOwned, same⟩
  · exact Nat.lt_of_le_of_lt notPast (Nat.lt_add_of_pos_right (by decide))
  · exact same ▸ punctual.soon wasOwned

/-- Time passes while the timer sleeps, and ends less than a millisecond after it is to wake. -/
theorem wait
    (punctual : publisher.Punctual now)
    (atRest : publisher.timer.isReady now = false)
    {later : Instant}
    (after : now ≤ later)
    (wakes : ∀ {instant}, publisher.timer.waitsFor? = some instant →
      later < instant + millisecond) :
    publisher.Punctual later := by
  refine ⟨punctual.toSound.wait after, fun {id scheduled} owned => ?_⟩
  have isOpen := punctual.running (punctual.notStopped owned)
  obtain ⟨_, waits, _, early⟩ := Armed.waitsFor? punctual.armed punctual.timer isOpen atRest owned
  exact Nat.lt_of_lt_of_le (wakes waits) (Nat.add_le_add_right early _)

end Punctual

end Publisher

end Discovery
