import Discovery.Proofs.Convergence.Operation
import Discovery.Proofs.Convergence.Unseen

namespace Discovery

/-!
# Operations are sustained

An operation of an agent is made of the few steps that keep it sustained, and
of others that nobody sees.  A release is in order because the users of the
transport are accounted for: the last of them leaves nothing behind that is
offered or watched.
-/

/-- An agent without open subscriptions watches nothing. -/
theorem Progress.Balanced.unwatched
    {start paid spare : Nat}
    {progress : Progress}
    (balanced : Balanced start paid spare progress)
    (noneOpen : progress.agent.openSubscriptions = 0)
    (category : String)
    (id : ResourceId) :
    progress.agent.known? category id = none := by
  rw [Agent.openSubscriptions] at noneOpen
  rw [Agent.known?]
  cases known : progress.agent.subscriber with
  | none => rfl
  | some subscriber =>
      rw [known] at noneOpen
      exact Subscriber.unwatched_of_openCount (balanced.sound known) noneOpen category id

/-- An agent whose users are all spare offers and watches nothing. -/
theorem Progress.Balanced.nothing
    {start spare : Nat}
    {progress : Progress}
    (balanced : Balanced start 0 spare progress)
    (users : progress.agent.users ≤ spare) :
    (∀ id, progress.agent.posted? id = none) ∧
      ∀ category id, progress.agent.known? category id = none := by
  have counted := balanced.users
  have noPublisher : progress.agent.publisher = none := by
    have publishers : progress.agent.publishers = 0 := by omega
    unfold Agent.publishers at publishers
    cases isPublisher : progress.agent.publisher with
    | none => rfl
    | some publisher =>
        rw [isPublisher] at publishers
        cases publishers
  refine ⟨fun id => by rw [Agent.posted?, noPublisher]; rfl, balanced.unwatched ?_⟩
  omega

namespace Simulation.Sustained

open Progress (Unseen Running Closing Balanced)

variable {world : World} {name : String} {number : Nat} {progress next : Progress}

theorem unseen
    (sustained : Sustained world name number progress)
    (unseen : Unseen next progress) :
    Sustained world name number next := by
  have publisher := unseen.publisher
  refine sustained.alike ?_ ?_ ?_ (fun id => ?_) (fun id => ?_) unseen.known unseen.indexed
    (fun known => sustained.publisher (publisher ▸ known)) unseen.tidy
  · rw [World.networkAfter, unseen.outputs, World.networkAfter]
  · rw [unseen.outputs]
    exact sustained.plain
  · rw [unseen.users]
  · rw [Agent.posted?, publisher, Agent.posted?]
  · rw [Agent.localResource?, publisher, Agent.localResource?]

/-- In which order an agent goes through what it has is seen by nobody. -/
theorem shuffle
    (sustained : Sustained world name number progress)
    (categories : List String)
    (resources : List ResourceId) :
    Sustained world name number (progress.run (.shuffle categories resources)) := by
  refine sustained.alike rfl sustained.plain Iff.rfl
    (progress.agent.posted?_shuffle categories resources) (fun id => ?_) (fun category id => ?_)
    (fun id => ?_) (fun known => ?_) fun known => ?_
  · rw [Agent.localResource?_eq, Agent.localResource?_eq]
    exact progress.agent.resource?_shuffle categories resources id
  · change (progress.agent.subscriber.map _).bind _ = _
    rw [Option.bind_map]
    rfl
  · change (progress.agent.subscriber.map _).bind _ = _
    rw [Option.bind_map]
    rfl
  · obtain ⟨publisher, isPublisher, rfl⟩ := Option.map_eq_some_iff.mp known
    exact (sustained.publisher isPublisher).withFront resources
  · obtain ⟨subscriber, isSubscriber, rfl⟩ := Option.map_eq_some_iff.mp known
    exact Subscriber.tidy_shuffle (sustained.tidy isSubscriber) categories

/-- Whoever offers something can be reached, and so its transport has users. -/
theorem busy_of_posted
    (sustained : Sustained world name number progress)
    (address : world.view.address name = some number)
    {id : ResourceId}
    (posted : (progress.agent.posted? id).isSome) :
    0 < progress.agent.users := by
  have isPosted : ((world.viewDuring name number progress).posted name id).isSome := by
    rwa [posted_viewDuring]
  have reached := sustained.coherent.ownerReached isPosted
  change ((world.view.address name).bind
    (world.networkAfter number progress).queue?).isSome at reached
  rw [address, Option.bind_some, sustained.online] at reached
  exact of_decide_eq_true reached

/-- The publisher speaks of what it has spoken of before. -/
theorem utter
    (sustained : Sustained world name number progress)
    (wired : Wired world)
    (address : world.view.address name = some number)
    {publisher after : Publisher}
    {outgoing : List Outgoing}
    (known : progress.agent.publisher = some publisher)
    (utterance : publisher.Utterance world.now (fun _ => False) after outgoing) :
    Sustained world name number ((progress.enterPublisher after).send outgoing) := by
  refine sustained.speak wired address known utterance (fun fresh => fresh.elim)
    fun {about} owned => ?_
  have posted : (progress.agent.posted? about).isSome := by
    rw [Agent.posted?, known]
    exact (utterance.owned_before owned).resolve_left id
  exact sustained.busy_of_posted address posted

theorem announce
    (sustained : Sustained world name number progress)
    (wired : Wired world)
    (address : world.view.address name = some number) :
    Sustained world name number (progress.announce world.now) := by
  unfold Progress.announce
  split
  next => exact sustained
  next publisher known =>
    exact sustained.utter wired address known (.turn (sustained.publisher known))

theorem commit
    (sustained : Sustained world name number progress)
    (wired : Wired world)
    (address : world.view.address name = some number)
    (editor : Editor) :
    Sustained world name number (progress.commit world.now editor).2 := by
  unfold Progress.commit
  split
  next => exact sustained
  next publisher known =>
    split
    next => exact sustained
    next outgoing after committed =>
      exact sustained.utter wired address known (.commit (sustained.publisher known) committed)

theorem stopPublisher
    (sustained : Sustained world name number progress)
    (wired : Wired world)
    (address : world.view.address name = some number) :
    Sustained world name number progress.stopPublisher := by
  unfold Progress.stopPublisher
  split
  next => exact sustained
  next publisher known =>
    exact sustained.utter wired address known (.stop (sustained.publisher known))

theorem expire (sustained : Sustained world name number progress) :
    Sustained world name number (progress.expire world.now) := by
  unfold Progress.expire
  split
  next => exact sustained
  next subscriber known =>
    obtain ⟨faded, tidy⟩ := Subscriber.faded_turn (sustained.tidy known) world.now
    exact sustained.fade known faded tidy

/-- The transport is released after its last user left nothing behind. -/
theorem releaseSpare
    (sustained : Sustained world name number progress)
    (wired : Wired world)
    (address : world.view.address name = some number)
    {start : Nat}
    (balanced : Balanced start 0 1 progress) :
    Sustained world name number progress.release :=
  sustained.release wired address fun isLast => balanced.nothing (Nat.le_of_eq isLast)

theorem subscribe
    (sustained : Sustained world name number progress)
    (wired : Wired world)
    (address : world.view.address name = some number)
    {start : Nat}
    (balanced : Balanced start 0 0 progress)
    (category : String) :
    Sustained world name number (progress.subscribe category).2 := by
  have acquired := sustained.acquire wired address
  have ends := progress.subscribes_subscribe category
  generalize (progress.subscribe category).2 = next at ends ⊢
  cases ends with
  | disposed => exact sustained
  | notStarted refused => rwa [refused] at acquired
  | refused success =>
      rw [success] at acquired
      have entered := acquired.unseen (.enterNew acquired.tidy)
      exact entered.releaseSpare wired address (balanced.acquire success).enterNew
  | @joined joining id isFirst joined success isJoined =>
      rw [success] at acquired
      have entered := acquired.unseen (.enterNew acquired.tidy)
      have tidy := entered.tidy rfl
      have watching := Subscriber.watching_subscribe tidy rfl isJoined
      have busy : 0 < joining.agent.users := by
        have counted := (balanced.acquire success).users
        omega
      cases isFirst with
      | true =>
          exact entered.ask wired address (fun _ _ => rfl) (fun _ => rfl) watching busy
      | false =>
          have further := @Unseen.enterSubscriber
            (joining.activate.enterSubscriber (joining.agent.subscriber.getD .new)) _ joined rfl
            watching.tidy (watching.further rfl) watching.index
          exact entered.unseen further

theorem dispose
    (sustained : Sustained world name number progress)
    (wired : Wired world)
    (address : world.view.address name = some number)
    {start : Nat}
    (balanced : Balanced start 0 0 progress)
    (id : Nat) :
    Sustained world name number (progress.dispose id) := by
  have ends := progress.disposes_dispose id
  generalize progress.dispose id = next at ends ⊢
  cases ends with
  | unchanged => exact sustained
  | left known disposed struck =>
      obtain ⟨faded, tidy⟩ := Subscriber.faded_dispose (sustained.tidy known) world.now id
      rw [disposed] at faded tidy
      exact (sustained.fade known faded tidy).releaseSpare wired address
        (balanced.enterDisposed known disposed struck)

/-- A new publisher offers as much as none. -/
theorem obtainPublisher
    (sustained : Sustained world name number progress)
    (wired : Wired world)
    (address : world.view.address name = some number) :
    Sustained world name number progress.obtainPublisher.2 := by
  have acquired := sustained.acquire wired address
  have roles := Progress.sameRoles_acquire progress
  have ends := progress.obtains_obtainPublisher
  generalize progress.obtainPublisher = obtained at ends ⊢
  cases ends with
  | disposed => exact sustained
  | notStarted refused => rwa [refused] at acquired
  | found => exact sustained
  | @made joining absent success =>
      rw [success] at acquired roles
      have noPublisher : joining.agent.publisher = none := roles.publisher.trans absent
      refine acquired.alike rfl acquired.plain .rfl (fun id => ?_) (fun id => ?_) (fun _ _ => rfl)
        (fun _ => rfl) (fun isNew => ?_) acquired.tidy
      · rw [Agent.posted?, Agent.posted?, noPublisher]
        rfl
      · rw [Agent.localResource?, Agent.localResource?, noPublisher]
        rfl
      · exact Option.some.inj isNew ▸ .new world.now

/-- A resource is published under an identifier that nobody has used. -/
theorem publish
    (sustained : Sustained world name number progress)
    (wired : Wired world)
    (address : world.view.address name = some number)
    {start : Nat}
    (balanced : Balanced start 0 0 progress)
    (lasting : 1 ≤ progress.agent.settings.resourceExpiry.toNat)
    {id : ResourceId}
    (real : id.isNil = false)
    (fresh : progress.agent.localResource? id = none)
    (unheard : ∀ other, other ≠ name → world.view.ever other id = none)
    (category connection : String)
    (attributes : Attributes) :
    Sustained world name number
      (progress.publish world.now id category connection attributes).2 := by
  have obtained := sustained.obtainPublisher wired address
  have counted := balanced.obtainPublisher.users
  obtain ⟨settings, sameResources⟩ := progress.obtainPublisher_keeps
  rw [Agent.localResource?_eq, Agent.publisherOrNew] at fresh
  unfold Progress.publish
  split
  next refused => rwa [refused] at obtained
  next publisher obtained' success =>
    have known := Progress.publisher_obtainPublisher success
    rw [success] at obtained counted settings sameResources
    dsimp only at counted settings sameResources ⊢
    rw [known, Option.getD_some] at sameResources
    rw [← sameResources] at fresh
    split
    next => exact obtained
    next after published =>
      have utterance := Publisher.Utterance.publish (obtained.publisher known) real
        (settings ▸ AgentSettings.one_le_wireExpiry lasting) fresh published
      have busy : 0 < obtained'.agent.users := by
        rw [Agent.publishers, known, Option.isSome_some, if_pos rfl] at counted
        omega
      have spoken := obtained.speak wired address known utterance (fun isId => isId ▸ unheard)
        fun _ => busy
      rwa [Progress.send_nil] at spoken

/-- An agent that offers nothing shuts its subscriber down. -/
theorem stopSubscriber
    (sustained : Sustained world name number progress)
    (wired : Wired world)
    (address : world.view.address name = some number)
    (offersNothing : ∀ id, progress.agent.posted? id = none)
    (sound : ∀ {subscriber}, progress.agent.subscriber = some subscriber → subscriber.Sound) :
    Sustained world name number (progress.stopSubscriber world.now) := by
  unfold Progress.stopSubscriber
  split
  next => exact sustained
  next subscriber known =>
    obtain ⟨faded, tidy⟩ := Subscriber.faded_shut (sustained.tidy known) world.now
    have unwatched := Subscriber.unwatched_shut (sound known)
    dsimp only
    generalize subscriber.shut.2 = after at faded tidy unwatched ⊢
    have entered := sustained.fade known faded tidy
    have concluded := Unseen.foldl_conclude entered.tidy world.now subscriber.shut.1 0
    refine (entered.unseen concluded).releaseMany wired address (fun id => ?_)
      (fun category id => ?_) _
    · rw [Agent.posted?, concluded.publisher]
      exact offersNothing id
    · rw [concluded.known]
      exact unwatched category id

theorem beginDispose
    (sustained : Sustained world name number progress)
    (wired : Wired world)
    (address : world.view.address name = some number)
    (sound : ∀ {subscriber}, progress.agent.subscriber = some subscriber → subscriber.Sound) :
    Sustained world name number (progress.beginDispose world.now).2 := by
  unfold Progress.beginDispose
  split
  next => exact sustained
  next =>
    have disposed : Sustained world name number
        { progress with agent := { progress.agent with lifecycle := .disposed } } :=
      sustained.unseen (.ofAgent rfl rfl rfl sustained.tidy)
    refine (disposed.stopPublisher wired address).stopSubscriber wired address
      (Progress.posted?_stopPublisher disposed.publisher) fun known => sound ?_
    rwa [Progress.subscriber_stopPublisher] at known

end Simulation.Sustained

end Discovery
