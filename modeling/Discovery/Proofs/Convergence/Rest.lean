import Discovery.Proofs.Convergence.Agreement

namespace Discovery.Simulation

/-!
# Worlds at rest

A world is at rest when no task has anything to do.  Then nothing waits in a
queue and no announcement is due, so what every reader knows is what the others
offer (`View.Coherent.agreement`), and that is what the registry holds.
-/

/-- No task of a world has anything to do. -/
def World.AtRest (world : World) : Prop :=
  ∀ task ∈ world.tasks, world.isReady task = false

instance (world : World) : Decidable world.AtRest :=
  inferInstanceAs (Decidable (∀ task ∈ world.tasks, world.isReady task = false))

/-- Every run leaves a world that converges and whose registry is faithful. -/
theorem Run.faithful
    {world : World}
    {registry : Registry}
    (run : Run world registry) :
    Faithful world registry := by
  induction run with
  | new =>
      refine ⟨⟨⟨Nat.one_pos, nofun, nofun, nofun, nofun⟩, ?_, nofun⟩, fun id posting => ?_⟩
      · exact ⟨nofun, nofun, nofun, nofun, nofun, nofun, nofun, nofun, nofun, nofun, nofun⟩
      · exact ⟨nofun, nofun⟩
  | move _ move faithful => exact faithful.move move

namespace World.AtRest

variable {world : World} {name : String} {member : Member}

/-- Nothing waits at an endpoint. -/
theorem queue?_eq_nil
    (atRest : world.AtRest)
    {number : Nat}
    {queue : List Delivery}
    (waiting : world.network.queue? number = some queue) :
    queue = [] := by
  obtain ⟨endpoint, found, isQueue⟩ := Option.bind_eq_some_iff.mp waiting
  have isTask : Task.pump number ∈ world.tasks := by
    refine List.mem_append_left _ (List.mem_append_left _ (List.mem_map_of_mem ?_))
    exact List.mem_map_of_mem (Table.find?_eq_some_iff.mp found)
  have notReady : world.network.isReady number = false := atRest _ isTask
  rw [Network.isReady, found, Option.any_some, isQueue, Option.any_some, Bool.or_eq_false_iff,
    Bool.not_eq_false', List.isEmpty_iff] at notReady
  exact notReady.2

/-- No timer of announcements has anything to do. -/
theorem announceReady
    (atRest : world.AtRest)
    (found : world.members.find? name = some member) :
    member.agent.announceReady world.now = false := by
  have isTask : Task.announce name ∈ world.tasks := by
    refine List.mem_append_left _ (List.mem_append_right _ (List.mem_flatMap.mpr ⟨name, ?_, ?_⟩))
    · exact List.mem_map_of_mem (Table.find?_eq_some_iff.mp found)
    · exact List.mem_cons_self
  have notReady := atRest _ isTask
  rwa [isReady, found, Option.any_some] at notReady

end World.AtRest

namespace Faithful

variable {world : World} {registry : Registry} {reader : String} {member : Member}

/-- While a world is at rest, no announcement of what is offered is due. -/
theorem lt_nextAnnounce
    (faithful : Faithful world registry)
    (atRest : world.AtRest)
    {owner : String}
    {id : ResourceId}
    {scheduled : Scheduled}
    (posted : world.view.posted owner id = some scheduled) :
    world.now < scheduled.nextAnnounce := by
  obtain ⟨known, found, isPosted⟩ := Option.bind_eq_some_iff.mp posted
  obtain ⟨publisher, isPublisher, owned⟩ := Option.bind_eq_some_iff.mp isPosted
  refine ((faithful.fit found).publisher isPublisher).lt_nextAnnounce ?_ owned
  have notReady := atRest.announceReady found
  rwa [Agent.announceReady, isPublisher, Option.any_some] at notReady

/-- What is known in a category that is watched is what the registry shows the reader. -/
theorem known_iff
    (faithful : Faithful world registry)
    (atRest : world.AtRest)
    {category : String}
    {id : ResourceId}
    {known : Option RemoteEntry}
    (knows : world.view.knows reader category id = some known)
    (resource : RemoteResource) :
    known.map RemoteEntry.resource = some resource ↔
      ∃ posting, registry.find? id = some posting ∧ posting.owner ≠ reader ∧
        posting.category = category ∧ resource = posting.remote id := by
  have still : ∀ {name queue}, world.view.queue name = some queue → queue = [] := by
    intro name queue waiting
    obtain ⟨number, _, isQueue⟩ := Option.bind_eq_some_iff.mp waiting
    exact atRest.queue?_eq_nil isQueue
  rw [faithful.coherent.agreement still (faithful.lt_nextAnnounce atRest) knows]
  constructor
  · rintro ⟨owner, scheduled, different, posted, isCategory, rfl⟩
    refine ⟨scheduled.resource.posting owner, ?_, different, isCategory, rfl⟩
    refine (faithful.registered id _).mpr ⟨scheduled.resource, ?_, rfl⟩
    exact Option.map_eq_some_iff.mpr ⟨scheduled, posted, rfl⟩
  · rintro ⟨posting, isPosting, different, isCategory, rfl⟩
    obtain ⟨resource, offered, same⟩ := (faithful.registered id posting).mp isPosting
    obtain ⟨scheduled, posted, rfl⟩ := Option.map_eq_some_iff.mp offered
    refine ⟨posting.owner, scheduled, different, posted, ?_, ?_⟩
    · rw [← isCategory, same]
      rfl
    · rw [same]
      rfl

/-- An open subscription belongs to a subscriber that has not stopped. -/
theorem running_of_open
    (faithful : Faithful world registry)
    (found : world.members.find? reader = some member)
    {subscriber : Subscriber}
    (isSubscriber : member.agent.subscriber = some subscriber)
    {id : Nat}
    {subscription : Subscription}
    (isKnown : subscriber.subscriptions.find? id = some subscription)
    (isOpen : subscription.disposed = false) :
    subscriber.stopped = false := by
  cases (faithful.fit found).phase with
  | running running => exact running.inService isSubscriber
  | closed closing =>
      have opened : subscriber.isOpen id = true := by
        rw [Subscriber.isOpen, Subscriber.find?_roll, isKnown]
        simp [Subscription.standing, isOpen]
      have remains := closing.covers isSubscriber opened
      cases remains

end Faithful

/--
While the world is at rest, every open subscription shows what has been
published in its category by other agents whose disposal has not begun.
-/
theorem Run.shownTo_of_atRest
    {world : World}
    {registry : Registry}
    (run : Run world registry)
    (atRest : world.AtRest)
    {reader : String}
    {member : Member}
    (found : world.members.find? reader = some member)
    {id : Nat}
    {subscription : Subscription}
    (isKnown : member.agent.subscription? id = some subscription)
    (isOpen : subscription.disposed = false) :
    registry.ShownTo reader subscription.category (member.agent.read id).1.resources := by
  have faithful := run.faithful
  obtain ⟨subscriber, isSubscriber, isSubscription⟩ := Option.bind_eq_some_iff.mp isKnown
  have fit := faithful.fit found
  have tidy := fit.tidy isSubscriber
  have running := faithful.running_of_open found isSubscriber isSubscription isOpen
  obtain ⟨category, isCategory, isListing⟩ :=
    Subscriber.resources_read tidy (fit.phase.sound isSubscriber) running isSubscription isOpen
  have isRead : (member.agent.read id).1.resources = category.listing := by
    rw [Agent.read, isSubscriber]
    exact isListing
  have named : ∀ {id entry}, category.resources.find? id = some entry →
      entry.resource.id = id := by
    intro id entry isEntry
    have isKnown : subscriber.known? subscription.category id = some (some entry) := by
      rw [Subscriber.known?, isCategory, Option.map_some, isEntry]
    exact (tidy.named isKnown).1
  rw [isRead]
  refine ⟨Category.ascending_listing named, fun resource => ?_⟩
  have knows : world.view.knows reader subscription.category resource.id =
      some (category.resources.find? resource.id) := by
    rw [World.knows_view found, Agent.known?, isSubscriber, Option.bind_some, Subscriber.known?,
      isCategory, Option.map_some]
  rw [Category.mem_listing named]
  exact faithful.known_iff atRest knows resource

/-- Tasks take turns one after another. -/
theorem Run.turns
    {world : World}
    {registry : Registry}
    (run : Run world registry)
    {tasks : List Task}
    (notDisposal : ∀ task ∈ tasks, task.isDisposal = false) :
    Run (tasks.foldl World.turn world) registry :=
  List.foldlRecOn (motive := fun world => Run world registry) tasks World.turn run
    fun _ run task member => run.move (.turn (notDisposal task member))

/-- A resource is published, its category is subscribed elsewhere, and every task has its turns. -/
theorem Run.shownTo_of_atRest_published :
    let id : ResourceId := ⟨List.replicate 16 1, List.length_replicate⟩
    ∃ world registry member subscription,
      Run world registry ∧ world.AtRest ∧ world.members.find? "b" = some member ∧
        member.agent.subscription? 1 = some subscription ∧ subscription.disposed = false ∧
          registry.ShownTo "b" subscription.category (member.agent.read 1).1.resources ∧
            (member.agent.read 1).1.resources = [⟨id, "Room", "here", ∅⟩] := by
  intro id
  let alone := (World.new.createAgent "a" ⟨30, 50⟩ true []).2
  let created := (alone.createAgent "b" ⟨30, 50⟩ true []).2
  let published := (created.performWith "a" fun progress =>
    progress.publish created.now id "Room" "here" ∅).get (by decide +kernel)
  let subscribed := (published.2.performWith "b" fun progress =>
    progress.subscribe "Room").get (by decide +kernel)
  let tasks : List Task :=
    [ .announce "a", .announce "a", .expire "b", .pump 1, .pump 2, .expire "b", .deliver "b" ]
  let owner := (created.members.find? "a").get (by decide +kernel)
  have unused : ∀ entry ∈ created.members.entries, entry.2.agent.localResource? id = none := by
    decide +kernel
  have fresh : ∀ {other known}, created.members.find? other = some known →
      known.agent.localResource? id = none :=
    fun found => unused _ (Table.find?_eq_some_iff.mp found)
  have isOwner : created.members.find? "a" = some owner := (Option.some_get _).symm
  have runAlone : Run alone ∅ := Run.new.move (.create (by decide +kernel))
  have runCreated : Run created ∅ := runAlone.move (.create (by decide +kernel))
  have isPublished : (created.performWith "a" fun progress =>
      progress.publish created.now id "Room" "here" ∅) = some published :=
    (Option.some_get _).symm
  have isSubscribed : (published.2.performWith "b" fun progress =>
      progress.subscribe "Room") = some subscribed :=
    (Option.some_get _).symm
  have runPublished : Run published.2 (Registry.publish ∅ "a" id "Room" "here" ∅ published.1) :=
    runCreated.move
      (.publish isOwner (by decide +kernel) (by decide +kernel) fresh isPublished)
  have runSubscribed : Run subscribed.2 _ := runPublished.move (.subscribe isSubscribed)
  have reached : ∃ world registry, Run world registry ∧ world.AtRest ∧
      (world.members.find? "b").any (fun member =>
        (member.agent.subscription? 1).any fun subscription =>
          !subscription.disposed &&
            (member.agent.read 1).1.resources == [⟨id, "Room", "here", ∅⟩]) = true :=
    ⟨tasks.foldl World.turn subscribed.2, _, runSubscribed.turns (by decide), by decide +kernel,
      by decide +kernel⟩
  obtain ⟨world, registry, run, atRest, shows⟩ := reached
  obtain ⟨member, found, subscribes⟩ := (Option.any_eq_true ..).mp shows
  obtain ⟨subscription, isKnown, listed⟩ := (Option.any_eq_true ..).mp subscribes
  rw [Bool.and_eq_true, Bool.not_eq_true', beq_iff_eq] at listed
  obtain ⟨isOpen, listed⟩ := listed
  exact ⟨world, registry, member, subscription, run, atRest, found, isKnown, isOpen,
    run.shownTo_of_atRest atRest found isKnown isOpen, listed⟩

end Discovery.Simulation
