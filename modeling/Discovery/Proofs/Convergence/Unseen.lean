import Discovery.Proofs.Agent.Effects
import Discovery.Proofs.Convergence.Scene
import Discovery.Proofs.Publisher.Utterance
import Discovery.Proofs.Subscriber.Upkeep

namespace Discovery

/-!
# What others see of an operation

Much of what an agent does is seen by nobody else: it reads lists, signals
changes and marks subscriptions (`Progress.Unseen`).  And whatever else it
does, only publishing, committing an edit and disposing the agent change what
it offers.
-/

namespace Agent

/-- The resource that an agent offers under an identifier. -/
def offer? (agent : Agent) (id : ResourceId) : Option LocalResource :=
  (agent.posted? id).map Scheduled.resource

theorem offer?_eq_none_iff
    {agent : Agent}
    {id : ResourceId} :
    agent.offer? id = none ↔ agent.posted? id = none :=
  Option.map_eq_none_iff

/-- What an agent offers is its publisher's. -/
theorem offer?_of_publisher
    {first second : Agent}
    (same : first.publisher = second.publisher)
    (id : ResourceId) :
    first.offer? id = second.offer? id := by
  rw [offer?, posted?, same, offer?, posted?]

/-- What an agent offers does not depend on which of its resources come first. -/
theorem posted?_shuffle
    (agent : Agent)
    (categories : List String)
    (resources : List ResourceId)
    (id : ResourceId) :
    (agent.shuffle categories resources).posted? id = agent.posted? id := by
  unfold shuffle posted?
  cases agent.publisher <;> rfl

theorem offer?_shuffle
    (agent : Agent)
    (categories : List String)
    (resources : List ResourceId)
    (id : ResourceId) :
    (agent.shuffle categories resources).offer? id = agent.offer? id :=
  congrArg (Option.map Scheduled.resource) (agent.posted?_shuffle categories resources id)

end Agent

/-- An agent without a publisher offers as much as one with a new publisher. -/
theorem Agent.posted?_eq
    (agent : Agent)
    (id : ResourceId) :
    agent.posted? id = (agent.publisher.getD .new).owned.find? id := by
  rw [Agent.posted?]
  cases agent.publisher <;> rfl

/-- A resource after an edit that took effect. -/
def Editor.edited (editor : Editor) (resource : LocalResource) : LocalResource :=
  { resource with
    attributes := editor.changes.apply resource.attributes
    editSerial := resource.editSerial + 1 }

namespace Progress

/-- What happened in between is seen by nobody else. -/
structure Unseen (next progress : Progress) : Prop where
  outputs : next.outputs = progress.outputs
  users : next.agent.users = progress.agent.users
  publisher : next.agent.publisher = progress.agent.publisher
  known : ∀ category id, next.agent.known? category id = progress.agent.known? category id
  indexed : ∀ id, next.agent.indexed? id = progress.agent.indexed? id
  tidy : ∀ {subscriber}, next.agent.subscriber = some subscriber → subscriber.Silent

namespace Unseen

variable {progress next : Progress}

theorem refl
    (tidy : ∀ {subscriber}, progress.agent.subscriber = some subscriber → subscriber.Silent) :
    Unseen progress progress :=
  ⟨rfl, rfl, rfl, fun _ _ => rfl, fun _ => rfl, tidy⟩

theorem trans
    {first second third : Progress}
    (later : Unseen third second)
    (earlier : Unseen second first) :
    Unseen third first :=
  ⟨later.outputs.trans earlier.outputs, later.users.trans earlier.users,
    later.publisher.trans earlier.publisher,
    fun category id => (later.known category id).trans (earlier.known category id),
    fun id => (later.indexed id).trans (earlier.indexed id), later.tidy⟩

/-- A subscriber that knows the same takes the place of another. -/
theorem enterSubscriber
    {subscriber after : Subscriber}
    (isSubscriber : progress.agent.subscriber = some subscriber)
    (tidy : after.Silent)
    (known : ∀ category id, after.known? category id = subscriber.known? category id)
    (index : after.index = subscriber.index) :
    Unseen (progress.enterSubscriber after) progress := by
  refine ⟨rfl, rfl, rfl, fun category id => ?_, fun id => ?_, fun isAfter =>
    Option.some.inj isAfter ▸ tidy⟩
  · rw [Agent.known?, Agent.known?, isSubscriber]
    exact known category id
  · rw [Agent.indexed?, Agent.indexed?, isSubscriber]
    exact congrArg (fun known => known.find? id) index

/-- Neither the lifecycle nor the transport's state is seen by others. -/
theorem ofAgent
    {agent : Agent}
    (users : agent.users = progress.agent.users)
    (publisher : agent.publisher = progress.agent.publisher)
    (subscriber : agent.subscriber = progress.agent.subscriber)
    (tidy : ∀ {subscriber}, progress.agent.subscriber = some subscriber → subscriber.Silent) :
    Unseen { progress with agent := agent } progress := by
  refine ⟨rfl, users, publisher, fun category id => ?_, fun id => ?_, fun isSubscriber =>
    tidy (subscriber ▸ isSubscriber)⟩
  · rw [Agent.known?, subscriber, Agent.known?]
  · rw [Agent.indexed?, subscriber, Agent.indexed?]

/-- A new subscriber knows as much as none. -/
theorem enterNew
    (tidy : ∀ {subscriber}, progress.agent.subscriber = some subscriber → subscriber.Silent) :
    Unseen (progress.activate.enterSubscriber (progress.agent.subscriber.getD .new)) progress := by
  refine ⟨rfl, rfl, rfl, fun category id => ?_, fun id => ?_, fun isEntered => ?_⟩
  · simp only [Agent.known?, Progress.enterSubscriber, Option.bind_some]
    cases progress.agent.subscriber <;> rfl
  · simp only [Agent.indexed?, Progress.enterSubscriber, Option.bind_some]
    cases progress.agent.subscriber <;> rfl
  · obtain rfl := Option.some.inj isEntered
    cases isSubscriber : progress.agent.subscriber with
    | none => exact .new _
    | some subscriber => exact tidy isSubscriber

section Silently

variable (tidy : ∀ {subscriber}, progress.agent.subscriber = some subscriber → subscriber.Silent)

include tidy

theorem read
    (sound : ∀ {subscriber}, progress.agent.subscriber = some subscriber → subscriber.Sound)
    (subscription : Nat) :
    Unseen { progress with agent := (progress.agent.read subscription).2 } progress := by
  unfold Agent.read
  split
  next => exact .refl tidy
  next subscriber isSubscriber =>
    obtain ⟨stillTidy, known, index⟩ :=
      Subscriber.tidy_read (tidy isSubscriber) (sound isSubscriber) subscription
    exact .enterSubscriber isSubscriber stillTidy known index

/-- A subscription without callbacks that is told of a change signals it, and that is all. -/
theorem notify
    (now : Instant)
    (subscription : Nat) :
    Unseen (notify now progress subscription) progress := by
  unfold Progress.notify
  split
  next => exact .refl tidy
  next known found =>
    split
    next => exact .refl tidy
    next =>
      obtain ⟨subscriber, isSubscriber, isKnown⟩ := Option.bind_eq_some_iff.mp found
      have noCallbacks := (tidy isSubscriber).listening isKnown
      simp only [noCallbacks, List.length_nil, List.range_zero, List.foldl_nil]
      have told : Unseen
          (progress.enterSubscriber (subscriber.update subscription fun current =>
            current.notice (progress.agent.serial subscription)))
          progress :=
        .enterSubscriber isSubscriber
          (Subscriber.tidy_update (tidy isSubscriber) subscription fun _ =>
            ⟨rfl, rfl, rfl, fun noCallbacks => noCallbacks, fun isOpen => isOpen⟩)
          (fun _ _ => rfl) rfl
      rw [Progress.enterSubscriber] at told
      rwa [Agent.updateSubscriber, isSubscriber, Option.map_some]

theorem deliver (now : Instant) : Unseen (progress.deliver now) progress := by
  unfold Progress.deliver
  split
  next => exact .refl tidy
  next subscriber isSubscriber =>
    obtain ⟨stillTidy, known, index⟩ := Subscriber.tidy_collect (tidy isSubscriber)
    have collected := Unseen.enterSubscriber isSubscriber stillTidy known index
    refine List.foldlRecOn (motive := fun current => Unseen current progress) _ _ collected ?_
    exact fun current unseen id _ => (notify unseen.tidy now id).trans unseen

theorem conclude
    (now : Instant)
    (count subscription : Nat) :
    Unseen (conclude now (count, progress) subscription).2 progress := by
  have told := notify tidy now subscription
  unfold Progress.conclude
  dsimp only
  split
  next => exact told
  next subscriber isSubscriber =>
    obtain ⟨stillTidy, known, index⟩ :=
      Subscriber.tidy_markDisposed (told.tidy isSubscriber) subscription
    exact (enterSubscriber isSubscriber stillTidy known index).trans told

theorem foldl_conclude
    (now : Instant)
    (targets : List Nat)
    (count : Nat) :
    Unseen (targets.foldl (Progress.conclude now) (count, progress)).2 progress := by
  refine List.foldlRecOn (motive := fun (state : Nat × Progress) => Unseen state.2 progress) _ _
    (.refl tidy) ?_
  exact fun state unseen id _ => (conclude unseen.tidy now state.1 id).trans unseen

end Silently

end Unseen

/-- Nothing is offered after the publisher has stopped. -/
theorem posted?_stopPublisher
    {progress : Progress}
    {now : Instant}
    (sound : ∀ {publisher}, progress.agent.publisher = some publisher → publisher.Sound now)
    (id : ResourceId) :
    progress.stopPublisher.agent.posted? id = none := by
  unfold stopPublisher
  split
  next absent => rw [Agent.posted?, absent]; rfl
  next publisher known =>
    change publisher.stop.2.owned.find? id = none
    unfold Publisher.stop
    split
    next stopped => rw [(sound known).ended stopped, Table.find?_empty]
    next => exact Table.find?_empty id

theorem subscriber_stopPublisher (progress : Progress) :
    progress.stopPublisher.agent.subscriber = progress.agent.subscriber := by
  unfold stopPublisher
  split <;> rfl

theorem send_nil (progress : Progress) : progress.send [] = progress := by
  rw [send, List.map_nil, List.append_nil]

section Offers

variable (progress : Progress)

/-- Announcing changes when resources are announced next, and not what they are. -/
theorem offer?_announce
    (now : Instant)
    (id : ResourceId) :
    (progress.announce now).agent.offer? id = progress.agent.offer? id := by
  unfold announce
  split
  next => rfl
  next publisher known =>
    rw [Agent.offer?, Agent.offer?, Agent.posted?, Agent.posted?, known]
    exact publisher.resource_owned_turn now id

/-- A refused request to publish changes nothing, and an accepted one offers the resource. -/
theorem offer?_publish
    (now : Instant)
    (id : ResourceId)
    (category connection : String)
    (attributes : Attributes)
    (sought : ResourceId) :
    (progress.publish now id category connection attributes).2.agent.offer? sought =
      match (progress.publish now id category connection attributes).1 with
      | .ok () =>
          if sought = id then
            some (.new id category connection progress.agent.settings.wireExpiry attributes)
          else progress.agent.offer? sought
      | .error _ => progress.agent.offer? sought := by
  obtain ⟨settings, same⟩ := progress.obtainPublisher_keeps
  have isOffer : progress.obtainPublisher.2.agent.offer? sought = progress.agent.offer? sought := by
    rw [Agent.offer?, Agent.offer?, Agent.posted?_eq, Agent.posted?_eq, same]
  unfold publish
  split
  next refused => rwa [refused] at isOffer
  next publisher obtained success =>
    have known := publisher_obtainPublisher success
    rw [success] at isOffer settings
    dsimp only at isOffer settings ⊢
    split
    next => exact isOffer
    next after published =>
      have owned := Publisher.find?_owned_publish published sought
      change after.owned.find? sought = if sought = id then _ else _ at owned
      rw [← isOffer, ← settings, Agent.offer?, Agent.posted?, Agent.offer?, Agent.posted?, known]
      change (after.owned.find? sought).map Scheduled.resource = if sought = id then _ else _
      rw [owned]
      split <;> rfl

/-- An edit that takes effect changes the attributes of one resource that is offered. -/
theorem offer?_commit
    (now : Instant)
    (editor : Editor)
    (sound : ∀ {publisher}, progress.agent.publisher = some publisher → publisher.Sound now)
    (sought : ResourceId) :
    (progress.commit now editor).2.agent.offer? sought =
      match (progress.commit now editor).1 with
      | .ok () =>
          (progress.agent.offer? sought).map fun resource =>
            if sought = editor.resource then editor.edited resource else resource
      | .error _ => progress.agent.offer? sought := by
  unfold commit
  split
  next => rfl
  next publisher known =>
    split
    next => rfl
    next outgoing after committed =>
      obtain ⟨scheduled, later, edit⟩ := Publisher.commit_ok (sound known) committed
      rw [Agent.offer?, Agent.posted?, Agent.offer?, Agent.posted?, known]
      change (after.owned.find? sought).map _ = _
      by_cases isEdited : sought = editor.resource
      · rw [isEdited, edit.after, Option.bind_some, edit.before]
        simp only [Option.map_some, if_true, (Publisher.edit_ok edit.success).1, Editor.edited]
      · simp only [edit.others isEdited, Option.bind_some, isEdited, if_false, Option.map_id']

/-- Only a resource that is offered is edited. -/
theorem offered_of_commit
    {now : Instant}
    {editor : Editor}
    (committed : (progress.commit now editor).1 = .ok ()) :
    (progress.agent.offer? editor.resource).isSome := by
  unfold commit at committed
  split at committed
  next => cases committed
  next publisher known =>
    split at committed
    next => cases committed
    next outgoing after success =>
      obtain ⟨_, _, _, owned, _⟩ := Publisher.commit_cases success
      rw [Agent.offer?, Agent.posted?, known, Option.bind_some, owned]
      rfl

theorem publisher_stopSubscriber
    (now : Instant)
    (tidy : ∀ {subscriber}, progress.agent.subscriber = some subscriber → subscriber.Silent) :
    (progress.stopSubscriber now).agent.publisher = progress.agent.publisher := by
  unfold stopSubscriber
  split
  next => rfl
  next subscriber known =>
    have stillTidy := (Subscriber.faded_shut (tidy known) now).2
    have entered : ∀ {after}, (progress.enterSubscriber subscriber.shut.2).agent.subscriber =
        some after → after.Silent := fun isAfter => Option.some.inj isAfter ▸ stillTidy
    have concluded := Unseen.foldl_conclude entered now subscriber.shut.1 0
    exact (sameRoles_releaseMany _ _).publisher.trans concluded.publisher

/-- An agent whose disposal begins offers nothing any more. -/
theorem offer?_beginDispose
    (now : Instant)
    (sound : ∀ {publisher}, progress.agent.publisher = some publisher → publisher.Sound now)
    (tidy : ∀ {subscriber}, progress.agent.subscriber = some subscriber → subscriber.Silent)
    (id : ResourceId) :
    (progress.beginDispose now).2.agent.offer? id =
      if progress.agent.lifecycle = .disposed then progress.agent.offer? id else none := by
  unfold beginDispose
  split
  next => rfl
  next =>
    have silent : ∀ {begun : Progress}, begun.agent.publisher = progress.agent.publisher →
        begun.stopPublisher.agent.posted? id = none :=
      fun same => posted?_stopPublisher (fun known => sound (same ▸ known)) id
    rw [Agent.offer?, Agent.posted?, publisher_stopSubscriber]
    · exact Option.map_eq_none_iff.mpr (silent rfl)
    · rw [subscriber_stopPublisher]
      exact tidy

end Offers

end Progress

end Discovery
