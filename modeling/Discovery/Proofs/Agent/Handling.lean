import Discovery.Proofs.Agent.Editing
import Discovery.Proofs.Agent.Serial

namespace Discovery

/-!
# What a payload touches

Whatever arrives is handled within narrow bounds.  What is no message is passed
over; a query is answered and changes nothing; anything else is noted by the
subscriber, under the identifier that it came with and in the one category that
it concerns.  These bounds hold at every moment of an agent
(`Moment.handles_receive`), before it has a publisher or a subscriber, and after
they have stopped.
-/

/-- The category that a message on a stream concerns, as a subscriber sees it. -/
def Subscriber.concerned? (subscriber : Subscriber) (id : StreamId) : Wire.Message → Option String
  | .query _ => none
  | .hello announcement | .reply announcement => some announcement.category
  | .byeBye => subscriber.index.find? id

/-- A category has changed under one identifier at most. -/
structure Category.Confined (after before : Category) (id : ResourceId) : Prop where
  epoch : after.epoch = before.epoch
  members : after.members = before.members
  resources : ∀ {other}, other ≠ id → after.resources.find? other = before.resources.find? other
  dirty : before.dirty = true → after.dirty = true

/-- A subscriber has changed under one identifier and in one category at most. -/
structure Subscriber.Confined
    (after before : Subscriber)
    (id : ResourceId)
    (name : String) : Prop where
  others : ∀ {other}, other ≠ name →
    after.categories.find? other = before.categories.find? other
  unwatched : before.categories.find? name = none → after.categories.find? name = none
  concerned : ∀ {category}, before.categories.find? name = some category →
    ∃ next, after.categories.find? name = some next ∧ next.Confined category id
  index : ∀ {other}, other ≠ id → after.index.find? other = before.index.find? other
  /-- Only the present life of the category may have another serial number. -/
  serials : ∀ {epoch}, before.epoch? name ≠ some epoch →
    after.serials.find? epoch = before.serials.find? epoch
  subscriptions : after.subscriptions = before.subscriptions
  nextSubscription : after.nextSubscription = before.nextSubscription
  nextEpoch : after.nextEpoch = before.nextEpoch
  stopped : after.stopped = before.stopped
  timer : after.timer = before.timer ∨ ∃ instant, after.timer = before.timer.armEarlier instant
  called : before.called = true → after.called = true

namespace Subscriber

/-- To carry a revision out changes nothing else than what it concerns. -/
theorem confined_revise
    (subscriber : Subscriber)
    (revision : Revision) :
    (subscriber.revise revision).Confined subscriber revision.id revision.category where
  others different := by simp [revise, different]
  unwatched unwatched := by simp [revise, unwatched]
  concerned {category} found := by
    refine ⟨revision.onCategory category, by simp [revise, found], rfl, rfl, ?_, ?_⟩
    · intro other different
      simp [Revision.onCategory, different]
    · intro dirty
      simp [Revision.onCategory, dirty]
  index different := by simp [revise, different]
  serials {epoch} isOther := by
    unfold revise advances?
    cases revision.visible with
    | false => rfl
    | true =>
        cases present : subscriber.epoch? revision.category with
        | none => simp [advanceSerial]
        | some current =>
            have different : epoch ≠ current := fun same => isOther (same ▸ present)
            simp [advanceSerial, different]
  subscriptions := rfl
  nextSubscription := rfl
  nextEpoch := rfl
  stopped := rfl
  timer := by
    unfold revise
    cases revision.lapses with
    | none => exact Or.inl rfl
    | some instant => exact Or.inr ⟨instant, rfl⟩
  called called := by simp [revise, called]

/-- What a message revises is under its identifier and in the category that it concerns. -/
theorem revision?_concerns
    {subscriber : Subscriber}
    {now : Instant}
    {id : StreamId}
    {message : Wire.Message}
    {revision : Revision}
    (revises : subscriber.revision? now id message = some revision) :
    revision.id = id ∧ subscriber.concerned? id message = some revision.category ∧
      subscriber.stopped = false := by
  have heard : ∀ {announcement}, subscriber.heard? now id announcement = some revision →
      revision.id = id ∧ announcement.category = revision.category ∧
        subscriber.stopped = false := by
    intro announcement heard
    obtain ⟨counts, heard⟩ := Option.ite_none_left_eq_some.mp heard
    obtain ⟨held, _, rfl⟩ := Option.map_eq_some_iff.mp heard
    simp only [not_or, Bool.not_eq_true] at counts
    cases held <;> exact ⟨rfl, rfl, counts.2.1⟩
  cases message with
  | query category => cases revises
  | hello announcement | reply announcement =>
      obtain ⟨isId, isCategory, running⟩ := heard revises
      exact ⟨isId, congrArg some isCategory, running⟩
  | byeBye =>
      obtain ⟨running, withdrawn⟩ := Option.ite_none_left_eq_some.mp revises
      obtain ⟨name, indexed, rfl⟩ := Option.map_eq_some_iff.mp withdrawn
      exact ⟨rfl, indexed, Bool.eq_false_iff.mpr running⟩

/-- A subscriber that handles a message changes within its bounds, or stays as it is. -/
theorem confined_handle
    (subscriber : Subscriber)
    (now : Instant)
    (id : StreamId)
    (message : Wire.Message) :
    subscriber.handle now (id, message) = subscriber ∨
      subscriber.stopped = false ∧ ∃ name, subscriber.concerned? id message = some name ∧
        (subscriber.handle now (id, message)).Confined subscriber id name := by
  rw [handle_eq_revise]
  cases revises : subscriber.revision? now id message with
  | none => exact Or.inl rfl
  | some revision =>
      obtain ⟨rfl, concerns, running⟩ := revision?_concerns revises
      exact Or.inr ⟨running, revision.category, concerns, subscriber.confined_revise revision⟩

end Subscriber

namespace Progress

variable {before after : Progress}

/-- A query has been answered, once for each resource of the category, and has changed nothing. -/
structure Answered (before after : Progress) (origin : Origin) (category : String) : Prop where
  agent : after.agent = before.agent
  outputs : after.outputs = before.outputs ++
    (before.agent.localResources.filter fun resource => resource.category == category).map
      fun resource =>
        .sent (.reply origin resource.id (Wire.Message.reply resource.announcement).encode)

/-- A message has been noted by the subscriber at most, within its bounds there. -/
structure Noted (before after : Progress) (id : StreamId) (message : Wire.Message) : Prop where
  outputs : after.outputs = before.outputs
  settings : after.agent.settings = before.agent.settings
  link : after.agent.link = before.agent.link
  users : after.agent.users = before.agent.users
  lifecycle : after.agent.lifecycle = before.agent.lifecycle
  publisher : after.agent.publisher = before.agent.publisher
  unheard : before.agent.subscriber = none → after.agent.subscriber = none
  confined : ∀ {subscriber}, before.agent.subscriber = some subscriber →
    ∃ next, after.agent.subscriber = some next ∧
      (next = subscriber ∨ subscriber.stopped = false ∧
        ∃ name, subscriber.concerned? id message = some name ∧ next.Confined subscriber id name)

/-- A payload has been handled within its bounds. -/
def Handled (before after : Progress) (delivery : Delivery) : Prop :=
  match Wire.Message.decode delivery.contents with
  | .error _ => after = before
  | .ok (.query category) => before.Answered after delivery.origin category
  | .ok message => before.Noted after delivery.stream message

/-- A query is answered with what is owned. -/
theorem answered_receive
    (progress : Progress)
    (now : Instant)
    {delivery : Delivery}
    {category : String}
    (decodes : Wire.Message.decode delivery.contents = .ok (.query category)) :
    progress.Answered (progress.receive now delivery) delivery.origin category := by
  unfold receive
  rw [decodes]
  dsimp only
  cases known : progress.agent.publisher with
  | none => exact ⟨rfl, by simp [Agent.localResources, known]⟩
  | some publisher =>
      refine ⟨rfl, ?_⟩
      rw [Agent.localResources, known]
      exact congrArg (progress.outputs ++ ·) (List.map_map ..)

/-- What the subscriber alone handles, nobody else notices. -/
theorem Noted.of_handle
    (now : Instant)
    {id : StreamId}
    {message : Wire.Message}
    (handled : after = { before with
      agent := { before.agent with
        subscriber := before.agent.subscriber.map (·.handle now (id, message)) } }) :
    before.Noted after id message := by
  subst handled
  refine ⟨rfl, rfl, rfl, rfl, rfl, rfl, fun none => by simp [none], fun {subscriber} known => ?_⟩
  exact ⟨subscriber.handle now (id, message), by simp [known],
    subscriber.confined_handle now id message⟩

/-- Every payload is handled within its bounds. -/
theorem handled_receive
    (progress : Progress)
    (now : Instant)
    (delivery : Delivery) :
    progress.Handled (progress.receive now delivery) delivery := by
  unfold Handled
  cases decodes : Wire.Message.decode delivery.contents with
  | error cause =>
      unfold receive
      rw [decodes]
  | ok message =>
      cases message with
      | query category => exact progress.answered_receive now decodes
      | hello announcement | reply announcement | byeBye =>
          refine .of_handle now ?_
          unfold receive
          rw [decodes]
          obtain ⟨⟨_, _, _, _, _, subscriber?⟩, _⟩ := progress
          cases subscriber? <;> rfl

end Progress

/-- What an agent owns is known by its identifiers, and is its publisher's while that runs. -/
structure Agent.Stocked (agent : Agent) : Prop where
  distinct : (agent.localResources.map LocalResource.id).Nodup
  current : ∀ {resource}, resource ∈ agent.localResources →
    agent.localResource? resource.id = some resource
  running : agent.localResources ≠ [] →
    ∃ publisher, agent.publisher = some publisher ∧ publisher.stopped = false

namespace Moment

/-- At every moment what is owned is known by its identifiers. -/
theorem Situation.stocked
    {moment : Moment}
    (situation : moment.Situation) :
    moment.agent.Stocked := by
  cases situation with
  | ended spent =>
      have nothing : moment.agent.localResources = [] :=
        moment.agent.localResources_eq.trans (Publisher.resources_of_empty spent.nothing)
      exact ⟨by simp [nothing], by simp [nothing], fun some => absurd nothing some⟩
  | serving inService _ =>
      refine ⟨?_, fun {resource} owned => ?_, fun some => ?_⟩
      · have keys : moment.agent.localResources.map LocalResource.id =
            moment.agent.publisherOrNew.owned.shuffledKeys
              moment.agent.publisherOrNew.front := by
          rw [Agent.localResources_eq, Publisher.resources, Table.shuffledValues, List.map_map,
            List.map_map]
          refine List.map_congr_left fun entry listed => ?_
          exact inService.holds.named (Table.find?_eq_some_iff.mpr (Table.mem_shuffled.mp listed))
        rw [keys]
        exact Table.nodup_shuffledKeys _ _
      · rw [Agent.localResources_eq] at owned
        obtain ⟨id, scheduled, found, rfl⟩ := Publisher.mem_resources.mp owned
        rw [Agent.localResource?_eq, Publisher.resource?_eq, inService.holds.named found, found]
        rfl
      · cases known : moment.agent.publisher with
        | none =>
            refine absurd ?_ some
            rw [Agent.localResources, known]
            rfl
        | some publisher =>
            have running := inService.holds.running
            rw [Agent.publisherOrNew, known, Option.getD_some] at running
            exact ⟨publisher, rfl, running⟩

theorem Situation.leads
    {first last : Moment}
    (situation : first.Situation)
    (leads : Leads first last) :
    last.Situation := by
  obtain ⟨occurrences, rfl⟩ := leads
  exact List.foldlRecOn occurrences _ situation
    fun _ situation occurrence _ => situation.after occurrence

/--
At every moment of an agent a payload is handled within its bounds, whatever it
is and wherever it came from.  A query is answered once for each resource that
is owned, which is none unless the publisher runs; and as each category has a
life of its own, the serial number that a message advances is no other's.
-/
theorem handles_receive
    (settings : AgentSettings)
    (attempts : List (Option TransportError))
    {moment : Moment}
    (reached : Leads (.new settings attempts) moment)
    (now : Instant)
    (delivery : Delivery) :
    moment.progress.Handled (moment.progress.receive now delivery) delivery ∧
      moment.agent.Stocked ∧ moment.agent.subscriberOrNew.Distinct :=
  ⟨moment.progress.handled_receive now delivery,
    ((Situation.new settings attempts).leads reached).stocked,
    ((Orderly.new settings attempts).leads reached).subscriber.distinct⟩

/-- A query is answered with the one resource of its category, and another one is left alone. -/
theorem handles_receive_queried :
    let lamp : ResourceId := ⟨List.replicate 16 1, List.length_replicate⟩
    let door : ResourceId := ⟨List.replicate 16 2, List.length_replicate⟩
    let moment : Moment :=
      [ .errand (.publish 0 lamp "Lamp" "attic" ∅), .errand (.publish 0 door "Door" "cellar" ∅)
      , .errand (.subscribe "Lamp") ].foldl Moment.after (.new ⟨30, 50⟩ [])
    let delivery : Delivery := ⟨.nil, (Wire.Message.query "Lamp").encode, .endpoint 7⟩
    (moment.progress.receive 3 delivery).outputs = moment.outputs ++
        [.sent (.reply (.endpoint 7) lamp
          (Wire.Message.reply ⟨"Lamp", "attic", 30, ∅⟩).encode)] ∧
      moment.progress.Handled (moment.progress.receive 3 delivery) delivery ∧
      moment.agent.Stocked ∧ moment.agent.subscriberOrNew.Distinct := by
  intro lamp door moment delivery
  exact ⟨by decide +kernel, handles_receive ⟨30, 50⟩ [] ⟨_, rfl⟩ 3 delivery⟩

end Moment

end Discovery
