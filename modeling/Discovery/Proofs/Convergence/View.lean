import Discovery.Proofs.Publisher.Schedule
import Discovery.Subscriber.Basic
import Discovery.Wire.Decode

namespace Discovery

/-!
# What everyone knows of everyone's resources

Whether the participants come to agree does not depend on how each of them
keeps its tables.  A `View` is what matters: what each one has posted and what
it knows, what waits in its queue, and the time.  `View.Coherent` is the
invariant.  The last thing said of a resource in a queue is what is true of it;
if nothing is said, what its reader knows is true.  And a reader that does not
know a resource of a category that it watches is about to be told: its question
is under way, or an answer is, or the next announcement is due.
-/

/-- What a payload says of the resource of its stream; nothing means that it is withdrawn. -/
def Delivery.word? (delivery : Delivery) : Option (ResourceId × Option Wire.Announcement) :=
  match Wire.Message.decode delivery.contents with
  | .ok (.hello announcement) | .ok (.reply announcement) =>
      some (delivery.stream, some announcement)
  | .ok .byeBye => some (delivery.stream, none)
  | .ok (.query _) | .error _ => none

/-- Who asks for the resources of which category with a payload. -/
def Delivery.question? (delivery : Delivery) : Option (Origin × String) :=
  match Wire.Message.decode delivery.contents with
  | .ok (.query category) => some (delivery.origin, category)
  | .ok _ | .error _ => none

/-- What some payloads say of one resource, one after another. -/
def saidOf (id : ResourceId) (queue : List Delivery) : List (Option Wire.Announcement) :=
  queue.filterMap fun delivery =>
    delivery.word?.bind fun word => if word.1 = id then some word.2 else none

theorem saidOf_append
    (id : ResourceId)
    (first second : List Delivery) :
    saidOf id (first ++ second) = saidOf id first ++ saidOf id second :=
  List.filterMap_append

theorem mem_saidOf
    {id : ResourceId}
    {queue : List Delivery}
    {said : Option Wire.Announcement} :
    said ∈ saidOf id queue ↔ ∃ delivery ∈ queue, delivery.word? = some (id, said) := by
  unfold saidOf
  rw [List.mem_filterMap]
  refine exists_congr fun delivery => and_congr_right fun _ => ?_
  cases delivery.word? with
  | none => simp
  | some word =>
      obtain ⟨about, what⟩ := word
      by_cases same : about = id <;> simp [same]

/-- What matters of the participants, by their names. -/
@[ext]
structure View where
  now : Instant
  address : String → Option Nat
  /-- The resources that a participant offers at present. -/
  posted : String → ResourceId → Option Scheduled
  /-- The resources that a participant has ever offered. -/
  ever : String → ResourceId → Option LocalResource
  /-- What a participant knows of a resource in a category; nothing if it does not watch it. -/
  knows : String → String → ResourceId → Option (Option RemoteEntry)
  /-- The category under which a participant looks a resource up. -/
  indexed : String → ResourceId → Option String
  /-- What waits to be handed over to a participant, while it can be reached. -/
  queue : String → Option (List Delivery)

namespace View

/-- What a reader should be told of a resource last. -/
def Current (view : View) (reader : String) (id : ResourceId) :
    Option Wire.Announcement → Prop
  | some announcement =>
      ∃ owner scheduled, owner ≠ reader ∧ view.posted owner id = some scheduled ∧
        scheduled.resource.announcement = announcement
  | none => ∀ owner, view.posted owner id = none

/-- Why a reader will not miss a resource that it watches. -/
inductive Covered
    (view : View)
    (owner reader : String)
    (id : ResourceId)
    (scheduled : Scheduled)
    (known : Option RemoteEntry) : Prop where
  /-- The owner has yet to answer a question. -/
  | asked
      {queue : List Delivery}
      {query : Delivery}
      {number : Nat}
      (waiting : view.queue owner = some queue)
      (inQueue : query ∈ queue)
      (asks : query.question? = some (.endpoint number, scheduled.resource.category))
      (address : view.address reader = some number)
  /-- An announcement is under way. -/
  | told
      {queue : List Delivery}
      {announcement : Wire.Announcement}
      (waiting : view.queue reader = some queue)
      (said : some announcement ∈ saidOf id queue)
  /-- The resource is known for longer than until its next announcement. -/
  | fresh
      {entry : RemoteEntry}
      (isKnown : known = some entry)
      (lasts : scheduled.nextAnnounce + scheduled.lifetime ≤
        entry.expiresAt + scheduled.interval)
  /-- The next announcement is due. -/
  | due (reached : scheduled.nextAnnounce ≤ view.now)

/-- Whatever is known or said of a resource comes from its owner. -/
def Stems
    (view : View)
    (reader : String)
    (id : ResourceId)
    (holds : String → LocalResource → Prop) : Prop :=
  ∃ owner resource, owner ≠ reader ∧ view.ever owner id = some resource ∧ holds owner resource

/-- A word about a resource agrees with what never changes of it. -/
def Permits
    (view : View)
    (id : ResourceId)
    (said : Option Wire.Announcement)
    (owner : String)
    (resource : LocalResource) : Prop :=
  match said with
  | some announcement =>
      announcement.category = resource.category ∧ announcement.expiry = resource.expiry
  | none => view.posted owner id = none

/-- The participants will come to agree. -/
structure Coherent (view : View) : Prop where
  /-- A resource that is offered has been offered by the same owner ever since. -/
  offered : ∀ {owner id scheduled}, view.posted owner id = some scheduled →
    view.ever owner id = some scheduled.resource
  /-- The next announcement comes in time. -/
  timely : ∀ {owner id scheduled}, view.posted owner id = some scheduled →
    scheduled.nextAnnounce ≤ view.now + scheduled.interval ∧
      scheduled.interval ≤ scheduled.lifetime
  /-- Nobody else has offered a resource. -/
  alone : ∀ {first second id},
    (view.ever first id).isSome → (view.ever second id).isSome → first = second
  /-- Owners and readers can be reached. -/
  ownerReached : ∀ {owner id}, (view.posted owner id).isSome → (view.queue owner).isSome
  readerReached : ∀ {reader category id},
    (view.knows reader category id).isSome → (view.queue reader).isSome
  /-- What is known can be looked up. -/
  filed : ∀ {reader category id entry}, view.knows reader category id = some (some entry) →
    view.indexed reader id = some category
  /-- A resource is looked up under its own category. -/
  indexStems : ∀ {reader category id}, view.indexed reader id = some category →
    view.Stems reader id fun _ resource => resource.category = category
  wordStems : ∀ {reader queue delivery id said}, view.queue reader = some queue →
    delivery ∈ queue → delivery.word? = some (id, said) →
      view.Stems reader id (view.Permits id said)
  /-- What is said last is true. -/
  lastWord : ∀ {reader queue id said}, view.queue reader = some queue →
    (saidOf id queue).getLast? = some said → view.Current reader id said
  /-- What is known is true unless something is said. -/
  knowledge : ∀ {reader queue category id entry}, view.queue reader = some queue →
    saidOf id queue = [] → view.knows reader category id = some (some entry) →
      ∃ announcement, view.Current reader id (some announcement) ∧
        entry.resource = .ofAnnouncement id announcement
  covered : ∀ {owner reader id scheduled known}, view.posted owner id = some scheduled →
    owner ≠ reader → view.knows reader scheduled.resource.category id = some known →
      view.Covered owner reader id scheduled known

namespace Coherent

variable {view : View}

/-- A resource that was offered at some time has one owner. -/
theorem owner_eq
    (coherent : view.Coherent)
    {first second : String}
    {id : ResourceId}
    {firstResource secondResource : LocalResource}
    (byFirst : view.ever first id = some firstResource)
    (bySecond : view.ever second id = some secondResource) :
    first = second ∧ firstResource = secondResource := by
  have same : first = second :=
    coherent.alone (by rw [byFirst]; rfl) (by rw [bySecond]; rfl)
  subst same
  rw [byFirst] at bySecond
  exact ⟨rfl, Option.some.inj bySecond⟩

/-- Time passes. -/
theorem wait
    (coherent : view.Coherent)
    {instant : Instant}
    (later : view.now ≤ instant) :
    { view with now := instant }.Coherent := by
  refine { coherent with timely := fun posted => ?_, covered := fun posted different knows => ?_ }
  · obtain ⟨soon, short⟩ := coherent.timely posted
    exact ⟨Nat.le_trans soon (Nat.add_le_add_right later _), short⟩
  · cases coherent.covered posted different knows with
    | asked waiting inQueue asks address => exact .asked waiting inQueue asks address
    | told waiting said => exact .told waiting said
    | fresh isKnown lasts => exact .fresh isKnown lasts
    | due reached => exact .due (Nat.le_trans reached later)

end Coherent

/-- What covers a reader goes on covering it if questions and words stay where they are. -/
theorem Covered.mono
    {view next : View}
    {owner reader : String}
    {id : ResourceId}
    {scheduled : Scheduled}
    {known : Option RemoteEntry}
    (covered : view.Covered owner reader id scheduled known)
    (now : next.now = view.now)
    (address : next.address = view.address)
    (questions : ∀ {queue query}, view.queue owner = some queue → query ∈ queue →
      query.question?.isSome → ∃ later, next.queue owner = some later ∧ query ∈ later)
    (words : ∀ {queue said}, view.queue reader = some queue → said ∈ saidOf id queue →
      ∃ later, next.queue reader = some later ∧ said ∈ saidOf id later) :
    next.Covered owner reader id scheduled known := by
  cases covered with
  | asked waiting inQueue asks isAddress =>
      obtain ⟨later, stillWaiting, stillThere⟩ :=
        questions waiting inQueue (by rw [asks]; rfl)
      exact .asked stillWaiting stillThere asks (by rw [address, isAddress])
  | told waiting said =>
      obtain ⟨later, stillWaiting, stillSaid⟩ := words waiting said
      exact .told stillWaiting stillSaid
  | fresh isKnown lasts => exact .fresh isKnown lasts
  | due reached => exact .due (by rw [now]; exact reached)

namespace Coherent

variable {view : View}

/-- A participant that could not be reached, and so has no part in anything, can be reached. -/
theorem opened
    (coherent : view.Coherent)
    {name : String}
    (unreached : view.queue name = none) :
    { view with
      queue := fun other => if other = name then some [] else view.queue other }.Coherent := by
  have noOwner : ∀ {id}, (view.posted name id).isSome → False := by
    intro id posted
    have reached := coherent.ownerReached posted
    rw [unreached] at reached
    cases reached
  have noReader : ∀ {category id}, (view.knows name category id).isSome → False := by
    intro category id knows
    have reached := coherent.readerReached knows
    rw [unreached] at reached
    cases reached
  refine
    { coherent with
      ownerReached := ?_, readerReached := ?_, wordStems := ?_, lastWord := ?_, knowledge := ?_
      covered := ?_ }
  · intro owner id posted
    dsimp only
    split
    · rfl
    · exact coherent.ownerReached posted
  · intro reader category id knows
    dsimp only
    split
    · rfl
    · exact coherent.readerReached knows
  · intro reader queue delivery id said waiting inQueue word
    dsimp only at waiting
    split at waiting
    · cases waiting
      cases inQueue
    · exact coherent.wordStems waiting inQueue word
  · intro reader queue id said waiting isLast
    dsimp only at waiting
    split at waiting
    · cases waiting
      cases isLast
    · exact coherent.lastWord waiting isLast
  · intro reader queue category id entry waiting silent knows
    dsimp only at waiting
    split at waiting
    next isName =>
      subst isName
      exact (noReader (by rw [knows]; rfl)).elim
    next => exact coherent.knowledge waiting silent knows
  · intro owner reader id scheduled known posted different knows
    have otherOwner : owner ≠ name := by
      rintro rfl
      exact noOwner (by rw [posted]; rfl)
    have otherReader : reader ≠ name := by
      rintro rfl
      exact noReader (by rw [knows]; rfl)
    refine (coherent.covered posted different knows).mono rfl rfl ?_ ?_
    · intro queue query waiting inQueue _
      exact ⟨queue, (if_neg otherOwner).trans waiting, inQueue⟩
    · intro queue said waiting isSaid
      exact ⟨queue, (if_neg otherReader).trans waiting, isSaid⟩

/-- The address of a participant that watches nothing does not matter. -/
theorem moved
    (coherent : view.Coherent)
    {name : String}
    (watchesNothing : ∀ category id, view.knows name category id = none)
    {address : String → Option Nat}
    (others : ∀ {other}, other ≠ name → address other = view.address other) :
    { view with address := address }.Coherent := by
  refine { coherent with covered := ?_ }
  intro owner reader id scheduled known posted different knows
  have otherReader : reader ≠ name := by
    rintro rfl
    rw [watchesNothing] at knows
    cases knows
  cases coherent.covered posted different knows with
  | asked waiting inQueue asks isAddress =>
      exact .asked waiting inQueue asks ((others otherReader).trans isAddress)
  | told waiting said => exact .told waiting said
  | fresh isKnown lasts => exact .fresh isKnown lasts
  | due reached => exact .due reached

/-- A participant that offers nothing and watches nothing need not be reached. -/
theorem closed
    (coherent : view.Coherent)
    {name : String}
    (offersNothing : ∀ id, view.posted name id = none)
    (watchesNothing : ∀ category id, view.knows name category id = none) :
    { view with
      queue := fun other => if other = name then none else view.queue other }.Coherent := by
  have otherOwner : ∀ {owner id}, (view.posted owner id).isSome → owner ≠ name := by
    rintro owner id posted rfl
    rw [offersNothing] at posted
    cases posted
  have otherReader : ∀ {reader category id},
      (view.knows reader category id).isSome → reader ≠ name := by
    rintro reader category id knows rfl
    rw [watchesNothing] at knows
    cases knows
  refine
    { coherent with
      ownerReached := ?_, readerReached := ?_, wordStems := ?_, lastWord := ?_, knowledge := ?_
      covered := ?_ }
  · intro owner id posted
    dsimp only
    rw [if_neg (otherOwner posted)]
    exact coherent.ownerReached posted
  · intro reader category id knows
    dsimp only
    rw [if_neg (otherReader knows)]
    exact coherent.readerReached knows
  · intro reader queue delivery id said waiting inQueue word
    dsimp only at waiting
    split at waiting
    · cases waiting
    · exact coherent.wordStems waiting inQueue word
  · intro reader queue id said waiting isLast
    dsimp only at waiting
    split at waiting
    · cases waiting
    · exact coherent.lastWord waiting isLast
  · intro reader queue category id entry waiting silent knows
    dsimp only at waiting
    split at waiting
    · cases waiting
    · exact coherent.knowledge waiting silent knows
  · intro owner reader id scheduled known posted different knows
    refine (coherent.covered posted different knows).mono rfl rfl ?_ ?_
    · intro queue query waiting inQueue _
      exact ⟨queue, (if_neg (otherOwner (by rw [posted]; rfl))).trans waiting, inQueue⟩
    · intro queue said waiting isSaid
      exact ⟨queue, (if_neg (otherReader (by rw [knows]; rfl))).trans waiting, isSaid⟩

/--
When nothing waits anywhere and no announcement is due, a reader knows of each
category that it watches exactly what the others offer in it.
-/
theorem agreement
    (coherent : view.Coherent)
    (still : ∀ {name queue}, view.queue name = some queue → queue = [])
    (notDue : ∀ {owner id scheduled}, view.posted owner id = some scheduled →
      view.now < scheduled.nextAnnounce)
    {reader category : String}
    {id : ResourceId}
    {known : Option RemoteEntry}
    (knows : view.knows reader category id = some known)
    (resource : RemoteResource) :
    known.map RemoteEntry.resource = some resource ↔
      ∃ owner scheduled, owner ≠ reader ∧ view.posted owner id = some scheduled ∧
        scheduled.resource.category = category ∧
        resource = .ofAnnouncement id scheduled.resource.announcement := by
  obtain ⟨queue, waiting⟩ :=
    Option.isSome_iff_exists.mp (coherent.readerReached (by rw [knows]; rfl))
  have isEmpty := still waiting
  subst isEmpty
  have ofEntry : ∀ {entry}, known = some entry →
      ∃ owner scheduled, owner ≠ reader ∧ view.posted owner id = some scheduled ∧
        scheduled.resource.category = category ∧
        entry.resource = .ofAnnouncement id scheduled.resource.announcement := by
    intro entry isEntry
    subst isEntry
    obtain ⟨announcement, ⟨owner, scheduled, different, posted, rfl⟩, same⟩ :=
      coherent.knowledge waiting rfl knows
    obtain ⟨source, resource, _, isEver, isCategory⟩ := coherent.indexStems (coherent.filed knows)
    obtain ⟨_, rfl⟩ := coherent.owner_eq isEver (coherent.offered posted)
    exact ⟨owner, scheduled, different, posted, isCategory, same⟩
  constructor
  · intro isKnown
    obtain ⟨entry, isEntry, rfl⟩ := Option.map_eq_some_iff.mp isKnown
    exact ofEntry isEntry
  · rintro ⟨owner, scheduled, different, posted, rfl, rfl⟩
    cases coherent.covered posted different knows with
    | asked isWaiting inQueue _ _ =>
        rw [still isWaiting] at inQueue
        cases inQueue
    | told isWaiting isSaid =>
        rw [still isWaiting] at isSaid
        cases isSaid
    | due reached => exact absurd reached (Nat.not_le_of_lt (notDue posted))
    | @fresh entry isEntry _ =>
        obtain ⟨other, otherScheduled, _, otherPosted, _, same⟩ := ofEntry isEntry
        obtain ⟨isOwner, sameResource⟩ :=
          coherent.owner_eq (coherent.offered posted) (coherent.offered otherPosted)
        rw [isEntry, Option.map_some, same, sameResource]

end Coherent

end View

end Discovery
