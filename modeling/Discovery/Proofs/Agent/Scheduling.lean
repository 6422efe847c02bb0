import Discovery.Proofs.Agent.Consistency
import Discovery.Proofs.Publisher.Vigilance

namespace Discovery

/-!
# Schedules and timers of an agent

What happens to the publisher of an agent is one step after another, and so is
what happens to its subscriber, also while callbacks run.  So the schedule is in
order at every moment, unless a name is published twice
(`Moment.keepsSchedule_of_operations`), and whatever names there are, no timer
oversleeps an announcement or the end of an entry
(`Moment.wakeful_of_operations`).
-/

/-- The timer does not oversleep the next announcement of any resource. -/
def Publisher.Wakeful (publisher : Publisher) : Prop :=
  ∀ ⦃id scheduled⦄, publisher.owned.find? id = some scheduled →
    publisher.timer.Heeds scheduled.nextAnnounce

/-- The timer does not oversleep the end of any entry, in whatever category it is held. -/
def Subscriber.Wakeful (subscriber : Subscriber) : Prop :=
  ∀ ⦃name id entry⦄, subscriber.Holds name id entry → subscriber.timer.Heeds entry.expiresAt

/-- Neither timer of an agent oversleeps. -/
structure Agent.Wakeful (agent : Agent) : Prop where
  publisher : agent.publisherOrNew.Wakeful
  subscriber : agent.subscriberOrNew.Wakeful

theorem Publisher.Attentive.wakeful
    {publisher : Publisher}
    (attentive : publisher.Attentive) :
    publisher.Wakeful :=
  fun _ _ => attentive.heeds

/-- A subscriber that has stopped holds nothing, and otherwise its timer is set. -/
theorem Subscriber.Concordant.wakeful
    {subscriber : Subscriber}
    (concordant : subscriber.Concordant) :
    subscriber.Wakeful := by
  intro name id entry held
  cases stopped : subscriber.stopped with
  | true =>
      obtain ⟨category, found, _⟩ := held
      rw [(concordant.consistent.cleared stopped).categories] at found
      cases found
  | false =>
      have watchful := concordant.watchful stopped
      exact watchful.timer.heeds watchful.running (watchful.armed (holds_iff.mp held))

namespace Moment

variable {settings : AgentSettings} {attempts : List (Option TransportError)} {moment : Moment}

/-- The timer of the announcements is set at every moment. -/
theorem attentive_leads (reached : Leads (.new settings attempts) moment) :
    moment.agent.publisherOrNew.Attentive := by
  obtain ⟨occurrences, rfl⟩ := reached
  refine List.foldlRecOn
    (motive := fun moment : Moment => moment.agent.publisherOrNew.Attentive)
    occurrences _ .new fun moment attentive occurrence _ => ?_
  obtain ⟨_, _, effect, _⟩ := moment.effect_after occurrence
  exact effect.publisher.attentive attentive

theorem wakeful_leads (reached : Leads (.new settings attempts) moment) :
    moment.agent.Wakeful :=
  ⟨(attentive_leads reached).wakeful, (concordant_leads reached).wakeful⟩

/-- What is owned has been published. -/
theorem mem_published_leads
    (reached : Leads (.new settings attempts) moment)
    {id : ResourceId}
    (owned : (moment.agent.publisherOrNew.owned.find? id).isSome) :
    id ∈ moment.published := by
  obtain ⟨occurrences, rfl⟩ := reached
  revert owned
  refine List.foldlRecOn
    (motive := fun moment : Moment =>
      (moment.agent.publisherOrNew.owned.find? id).isSome → id ∈ moment.published)
    occurrences _ nofun fun moment known occurrence _ owned => ?_
  obtain ⟨_, _, effect, published⟩ := moment.effect_after occurrence
  rw [published, List.mem_append]
  exact (effect.publisher.isSome_or_mem owned).imp_left known

/-- The schedule is in order at every moment, unless a name has been published twice. -/
theorem arranged_leads
    (reached : Leads (.new settings attempts) moment)
    (distinct : moment.published.Nodup) :
    moment.agent.publisherOrNew.Arranged := by
  obtain ⟨occurrences, rfl⟩ := reached
  refine (List.foldlRecOn
    (motive := fun moment : Moment => Leads (.new settings attempts) moment ∧
      (moment.published.Nodup → moment.agent.publisherOrNew.Arranged))
    occurrences _ ⟨.refl _, fun _ => .new⟩ fun moment kept occurrence _ => ?_).2 distinct
  obtain ⟨reached, arranged⟩ := kept
  refine ⟨reached.trans (.step moment occurrence), fun distinct => ?_⟩
  obtain ⟨_, accepted, effect, published⟩ := moment.effect_after occurrence
  rw [published] at distinct
  obtain ⟨before, _, apart⟩ := List.nodup_append.mp distinct
  refine effect.publisher.arranged (arranged before) fun id isAccepted => ?_
  refine Option.eq_none_iff_forall_ne_some.mpr fun scheduled owned => ?_
  have wasPublished := mem_published_leads reached (Option.isSome_of_eq_some owned)
  exact apart id wasPublished id isAccepted rfl

/--
As long as no name is published twice, the schedule lists the resources that are
owned and nothing else, each once at the time of its next announcement, and
begins with the earliest.  What is taken at an instant is what is due, once each;
it is put off by its interval, a tenth of a second at least, and everything else
stays as it is.  This holds after every sequence of operations on a publisher,
and for the publisher of an agent at every moment.
-/
theorem keepsSchedule_of_operations
    (settings : AgentSettings)
    (attempts : List (Option TransportError)) :
    (∀ {operations : List Publisher.Operation},
      (operations.filterMap Publisher.Operation.names?).Nodup →
        (operations.foldl Publisher.carryOut .new).KeepsSchedule) ∧
    ∀ {moment : Moment}, Leads (.new settings attempts) moment → moment.published.Nodup →
      moment.agent.publisherOrNew.KeepsSchedule :=
  ⟨fun fresh => (Publisher.Arranged.new.foldl_carryOut fresh fun _ _ => rfl).keepsSchedule,
    fun reached distinct => (arranged_leads reached distinct).keepsSchedule⟩

/--
A resource whose expiry is zero is announced again after a tenth of a second; the
other one is put off by an edit, which announces it at once.
-/
theorem keepsSchedule_of_operations_announced :
    let lamp : ResourceId := ⟨List.replicate 16 1, List.length_replicate⟩
    let door : ResourceId := ⟨List.replicate 16 2, List.length_replicate⟩
    let offered := LocalResource.new lamp "Room" "here" 30 ∅
    let operations : List Publisher.Operation :=
      [ .publish 0 offered, .publish 5 (.new door "Room" "there" 0 ∅), .turn 5
      , .commit second offered.beginEdit, .turn second ]
    let publisher := operations.foldl Publisher.carryOut .new
    let moment := Moment.after (.new ⟨30, 50⟩ []) (.errand (.publish 0 lamp "Room" "here" ∅))
    publisher.schedule.keys =
        [⟨second + 100 * millisecond, door⟩, ⟨second + 13500 * millisecond, lamp⟩] ∧
      publisher.KeepsSchedule ∧
      moment.published = [lamp] ∧ moment.agent.publisherOrNew.KeepsSchedule := by
  intro lamp door offered operations publisher moment
  obtain ⟨operated, moments⟩ := keepsSchedule_of_operations ⟨30, 50⟩ []
  have published : moment.published = [lamp] := by decide +kernel
  have distinct : moment.published.Nodup := published ▸ List.nodup_singleton lamp
  exact ⟨by decide +kernel, operated (by decide +kernel), published,
    moments (.step _ _) distinct⟩

/--
No timer oversleeps: after every sequence of operations on a publisher or on a
subscriber, at every moment of an agent, and after every sequence of calls, the
timer of the announcements is set for the earliest announcement or before it,
and the timer of the entries for the earliest end of an entry or before it.
-/
theorem wakeful_of_operations
    (settings : AgentSettings)
    (attempts : List (Option TransportError)) :
    (∀ operations : List Publisher.Operation,
      (operations.foldl Publisher.carryOut .new).Wakeful) ∧
    (∀ operations : List Subscriber.Operation,
      (operations.foldl Subscriber.carryOut .new).Wakeful) ∧
    (∀ occurrences : List Occurrence,
      (occurrences.foldl after (.new settings attempts)).agent.Wakeful) ∧
    ∀ made : List Call,
      (made.foldl Tenancy.call (.new settings attempts)).progress.agent.Wakeful := by
  refine ⟨fun operations => ?_, fun operations => ?_, fun occurrences => ?_, fun made => ?_⟩
  · exact (Publisher.attentive_foldl_carryOut operations).wakeful
  · exact (Subscriber.Settled.new.foldl_carryOut operations).1.concordant.wakeful
  · exact wakeful_leads ⟨occurrences, rfl⟩
  · obtain ⟨_, reached⟩ := Leads.calls made (.new settings attempts) []
    exact wakeful_leads reached

/-- An announcement shortens the time for which an entry is held, and the timer is set for it. -/
theorem wakeful_of_operations_shortened :
    let id : ResourceId := ⟨List.replicate 16 1, List.length_replicate⟩
    let operations : List Subscriber.Operation :=
      [ .subscribe "Room", .handle 0 id (.hello ⟨"Room", "here", 30, ∅⟩), .turn 0
      , .handle 1 id (.hello ⟨"Room", "here", 2, ∅⟩) ]
    let subscriber := operations.foldl Subscriber.carryOut .new
    ∃ entry, subscriber.Holds "Room" id entry ∧ entry.expiresAt = 1 + 2 * second ∧
      subscriber.timer.Heeds (1 + 2 * second) := by
  intro id operations subscriber
  have known : (subscriber.known? "Room" id).map (Option.map RemoteEntry.expiresAt) =
      some (some (1 + 2 * second)) := by decide +kernel
  obtain ⟨found?, isKnown, lasts⟩ := Option.map_eq_some_iff.mp known
  obtain ⟨entry, rfl, isEnd⟩ := Option.map_eq_some_iff.mp lasts
  have held := Subscriber.holds_iff.mpr isKnown
  have heeds := (wakeful_of_operations ⟨30, 50⟩ []).2.1 operations held
  exact ⟨entry, held, isEnd, isEnd ▸ heeds⟩

end Moment

end Discovery
