import Discovery.Proofs.Subscriber.Holding

namespace Discovery.Subscriber

/-!
# Consistent tables

The categories say what is held of each resource and which subscriptions are
registered; the index repeats in which category each resource is held, and the
subscriptions repeat to which category each belongs.  Every step of a subscriber
keeps it `Concordant`, and a concordant subscriber is `Consistent`: none of the
tables says more or less than the others.  `consistent_foldl_carryOut` says so
for every sequence of complete operations, stopping among them.
-/

/-- A category is present and holds an entry for a resource. -/
def Holds
    (subscriber : Subscriber)
    (name : String)
    (id : ResourceId)
    (entry : RemoteEntry) : Prop :=
  ∃ category, subscriber.categories.find? name = some category ∧
    category.resources.find? id = some entry

/-- A category is present and a subscription is one of its members. -/
def Registered (subscriber : Subscriber) (name : String) (id : Nat) : Prop :=
  ∃ category, subscriber.categories.find? name = some category ∧ id ∈ category.members

/-- A subscription to a category is open. -/
def OpenIn (subscriber : Subscriber) (name : String) (id : Nat) : Prop :=
  ∃ known, subscriber.subscriptions.find? id = some known ∧ known.id = id ∧
    known.category = name ∧ known.disposed = false

/-- The members of all categories. -/
def registrations (subscriber : Subscriber) : List Nat :=
  subscriber.categories.values.flatMap Category.members

/-- There are no categories, and nothing is indexed. -/
structure Cleared (subscriber : Subscriber) : Prop where
  categories : subscriber.categories = ∅
  index : subscriber.index = ∅

/-- The tables of a subscriber agree with one another. -/
structure Consistent (subscriber : Subscriber) : Prop where
  indexed : ∀ {id name},
    subscriber.index.find? id = some name ↔ ∃ entry, subscriber.Holds name id entry
  /-- A resource is held in one category at most. -/
  sole : ∀ {id first second entry other},
    subscriber.Holds first id entry → subscriber.Holds second id other → first = second
  named : ∀ {name id entry}, subscriber.Holds name id entry →
    entry.resource.id = id ∧ entry.resource.category = name ∧ id.isNil = false
  present : ∀ {name},
    subscriber.categories.contains name = true ↔ ∃ id, subscriber.Registered name id
  registered : ∀ {name id},
    subscriber.Registered name id ↔ subscriber.stopped = false ∧ subscriber.OpenIn name id
  /-- No subscription is registered twice, in one category or in several. -/
  distinct : subscriber.registrations.Nodup
  cleared : subscriber.stopped = true → subscriber.Cleared

section Views

variable {subscriber : Subscriber}

theorem holds_iff
    {name : String}
    {id : ResourceId}
    {entry : RemoteEntry} :
    subscriber.Holds name id entry ↔ subscriber.known? name id = some (some entry) :=
  Option.map_eq_some_iff.symm

theorem registered_iff
    {name : String}
    {id : Nat} :
    subscriber.Registered name id ↔
      ∃ epoch members, subscriber.enrolment.find? name = some (epoch, members) ∧ id ∈ members := by
  simp only [Registered, find?_enrolment, Option.map_eq_some_iff, Prod.mk.injEq]
  constructor
  · rintro ⟨category, found, member⟩
    exact ⟨category.epoch, category.members, ⟨category, found, rfl, rfl⟩, member⟩
  · rintro ⟨_, _, ⟨category, found, rfl, rfl⟩, member⟩
    exact ⟨category, found, member⟩

theorem openIn_iff
    (sound : subscriber.Sound)
    {name : String}
    {id : Nat} :
    subscriber.OpenIn name id ↔
      ∃ standing, subscriber.roll.find? id = some standing ∧ standing.category = name ∧
        standing.disposed = false := by
  constructor
  · rintro ⟨known, found, _, isCategory, isOpen⟩
    exact ⟨known.standing, by rw [find?_roll, found, Option.map_some], isCategory, isOpen⟩
  · rintro ⟨standing, rolled, isCategory, isOpen⟩
    have isId := (sound.numbered rolled).1
    rw [find?_roll] at rolled
    obtain ⟨known, found, rfl⟩ := Option.map_eq_some_iff.mp rolled
    exact ⟨known, found, isId, isCategory, isOpen⟩

theorem registrations_eq : subscriber.registrations =
    subscriber.enrolment.values.flatMap Prod.snd := by
  simp only [registrations, enrolment, Table.values, Table.map, List.map_map, List.flatMap_map]
  rfl

end Views

/-- What is held is about a resource that has an identifier. -/
def Identified (subscriber : Subscriber) : Prop :=
  ∀ ⦃category id entry⦄, subscriber.known? category id = some (some entry) → id.isNil = false

/-- No subscription is a member of a category twice. -/
def Unrepeated (subscriber : Subscriber) : Prop :=
  ∀ ⦃name epoch members⦄, subscriber.enrolment.find? name = some (epoch, members) → members.Nodup

namespace Step

variable {occasion : Occasion} {before after : Subscriber}

/-- Only an announcement makes something known, and only of a resource with an identifier. -/
theorem identified
    (step : before.Step occasion after)
    (readable : before.Readable)
    (identified : before.Identified) :
    after.Identified := by
  have ⟨sound, tidy, _⟩ := readable
  intro category id entry isKnown
  cases step with
  | rest => exact identified isKnown
  | @subscribe name _ =>
      rcases joined : before.subscribe name with ⟨_ | ⟨subscription, isFirst⟩, next⟩ <;>
        rw [joined] at isKnown
      · rw [subscribe_error joined] at isKnown
        exact identified isKnown
      have watching := watching_subscribe tidy trivial joined
      exact identified (watching.known?_iff.mp isKnown)
  | dispose subscription => exact identified ((faded_dispose tidy 0 subscription).1.kept isKnown)
  | conclude subscription =>
      obtain ⟨_, known, _⟩ := tidy_markDisposed tidy subscription
      exact identified ((known _ _).symm.trans isKnown)
  | @hear now _ stream _ announcement =>
      rcases readable.hear_cases now stream announcement with same | ⟨real, _, taught⟩
      · rw [same] at isKnown
        exact identified isKnown
      · by_cases isStream : id = stream
        · rwa [isStream]
        · exact identified ((taught.others isStream).symm.trans isKnown)
  | @forget stream _ =>
      have taught := (taught_forget tidy sound 0 stream).2
      by_cases isStream : id = stream
      · obtain ⟨_, said, _⟩ := taught.learnt (isStream ▸ isKnown)
        cases said
      · exact identified ((taught.others isStream).symm.trans isKnown)
  | @turn now _ => exact identified ((faded_turn tidy now).1.kept isKnown)
  | collect =>
      obtain ⟨_, known, _⟩ := tidy_collect tidy
      exact identified ((known _ _).symm.trans isKnown)
  | read subscription =>
      obtain ⟨_, known, _⟩ := tidy_read tidy sound subscription
      exact identified ((known _ _).symm.trans isKnown)
  | notice | register | shuffle => exact identified isKnown
  | shut => exact identified ((faded_shut tidy 0).1.kept isKnown)

/-- A new member is entered under a fresh number, and otherwise members only leave. -/
theorem unrepeated
    (step : before.Step occasion after)
    (sound : before.Sound)
    (unrepeated : before.Unrepeated) :
    after.Unrepeated := by
  have kept : ∀ {next : Subscriber}, next.enrolment = before.enrolment → next.Unrepeated :=
    fun same _ _ _ found => unrepeated (same ▸ found)
  cases step with
  | rest => exact unrepeated
  | @subscribe name _ =>
      rcases joined : before.subscribe name with ⟨_ | ⟨id, isFirst⟩, next⟩
      · rwa [subscribe_error joined]
      obtain ⟨epoch, isJoined⟩ := subscribe_ok joined
      obtain ⟨others, wasThere, enrolment⟩ := isJoined.enrolment
      intro sought life members found
      rw [enrolment, Table.find?_insert] at found
      split at found
      next =>
        cases found
        rcases wasThere with known | ⟨_, rfl⟩
        · refine List.nodup_append.mpr
            ⟨unrepeated known, by simp, fun other isOther new isNew => ?_⟩
          rw [List.mem_singleton.mp isNew]
          rintro rfl
          exact isJoined.not_mem sound known isOther
        · simp
      next => exact unrepeated found
  | dispose id =>
      rcases before.dispose_cases id with ⟨_, same⟩ | ⟨standing, next, disposed, _, enrolment⟩
      · rwa [same]
      rw [disposed]
      intro sought life members found
      rw [enrolment] at found
      split at found
      next =>
        obtain ⟨⟨_, others⟩, known, left⟩ := Option.bind_eq_some_iff.mp found
        dsimp only [remaining] at left
        split at left
        next => cases left
        next =>
          cases left
          exact (unrepeated known).filter _
      next => exact unrepeated found
  | conclude id =>
      rcases before.markDisposed_cases id with ⟨_, same⟩ | ⟨_, next, marked, _, enrolment⟩
      · rwa [same]
      · rw [marked]
        exact kept enrolment
  | @hear now _ id _ announcement =>
      exact kept (before.sameMembership_hear now id announcement).enrolment
  | @forget id _ => exact kept (before.sameMembership_forget id).enrolment
  | @turn now _ => exact kept (before.sameMembership_turn now).enrolment
  | collect => exact kept before.sameMembership_collect.enrolment
  | read id => exact kept (before.sameMembership_read id).enrolment
  | notice | register | shuffle => exact kept rfl
  | shut =>
      rcases before.shut_cases with ⟨_, same⟩ | ⟨_, _, _, shut, _, none, _⟩
      · rwa [same]
      · rw [shut]
        intro name epoch members found
        rw [none] at found
        cases found

/-- Nothing is indexed anew in a subscriber that is shut. -/
theorem index_of_stopped
    (step : before.Step occasion after)
    (readable : before.Readable)
    (stopped : before.stopped = true)
    {id : ResourceId}
    {name : String}
    (indexed : after.index.find? id = some name) :
    before.index.find? id = some name := by
  obtain ⟨sound, tidy, _⟩ := readable
  cases step with
  | rest => exact indexed
  | @subscribe name _ =>
      rcases joined : before.subscribe name with ⟨_ | ⟨subscription, isFirst⟩, next⟩
      · rw [joined, subscribe_error joined] at indexed
        exact indexed
      · obtain ⟨_, isJoined⟩ := subscribe_ok joined
        exact absurd stopped (Bool.eq_false_iff.mp isJoined.running)
  | dispose subscription => exact (faded_dispose tidy 0 subscription).1.index indexed
  | conclude subscription => exact (tidy_markDisposed tidy subscription).2.2 ▸ indexed
  | hear =>
      rw [Subscriber.hear, if_pos (.inr (.inl stopped))] at indexed
      exact indexed
  | forget =>
      rw [Subscriber.forget, if_pos stopped] at indexed
      exact indexed
  | @turn now _ => exact (faded_turn tidy now).1.index indexed
  | collect => exact (tidy_collect tidy).2.2 ▸ indexed
  | read subscription => exact (tidy_read tidy sound subscription).2.2 ▸ indexed
  | notice | register | shuffle => exact indexed
  | shut => exact (faded_shut tidy 0).1.index indexed

end Step

/-- The tables agree, in service and out of service. -/
structure Concordant (subscriber : Subscriber) : Prop where
  readable : subscriber.Readable
  watchful : subscriber.stopped = false → subscriber.Watchful
  unindexed : subscriber.stopped = true → subscriber.index = ∅
  identified : subscriber.Identified
  unrepeated : subscriber.Unrepeated

namespace Concordant

variable {occasion : Occasion} {subscriber after : Subscriber}

theorem new : Concordant Subscriber.new :=
  ⟨.new, fun _ => .new, nofun, nofun, nofun⟩

/-- Every step keeps a subscriber concordant. -/
theorem step
    (concordant : subscriber.Concordant)
    (step : subscriber.Step occasion after)
    (ended : occasion.concluding → subscriber.stopped = true) :
    after.Concordant := by
  obtain ⟨readable, watchful, unindexed, identified, unrepeated⟩ := concordant
  refine ⟨readable.step step ended, fun running => ?_, fun stopped => ?_,
    step.identified readable identified, step.unrepeated readable.sound unrepeated⟩
  · have wasRunning : subscriber.stopped = false := by
      rw [← Bool.not_eq_true]
      intro stopped
      exact absurd (step.stopped stopped) (Bool.eq_false_iff.mp running)
    exact (watchful wasRunning).stays readable wasRunning step ended running
  · cases wasStopped : subscriber.stopped with
    | true =>
        apply Table.ext_find?
        intro id
        refine Option.eq_none_iff_forall_ne_some.mpr fun name indexed => ?_
        have wasIndexed := step.index_of_stopped readable wasStopped indexed
        rw [unindexed wasStopped] at wasIndexed
        cases wasIndexed
    | false =>
        rcases step.stopped_cases with same | ⟨_, rfl⟩
        · exact absurd (same.symm.trans stopped) (Bool.eq_false_iff.mp wasStopped)
        · rw [shut, wasStopped, if_neg Bool.false_ne_true]

/-- Each category has members, and no subscription is a member of two. -/
theorem nodup_registrations (concordant : subscriber.Concordant) :
    subscriber.registrations.Nodup := by
  have enrolled : ∀ {entry}, entry ∈ subscriber.enrolment.entries →
      subscriber.enrolment.find? entry.1 = some (entry.2.1, entry.2.2) :=
    fun listed => Table.find?_eq_some_iff.mpr listed
  rw [registrations_eq]
  refine List.pairwise_flatMap.mpr ⟨fun enrolled isListed => ?_, ?_⟩
  · obtain ⟨entry, listed, rfl⟩ := List.mem_map.mp isListed
    exact concordant.unrepeated (enrolled listed)
  · refine List.pairwise_map.mpr ?_
    refine subscriber.enrolment.ascending.imp_of_mem
      fun {first second} isFirst isSecond before => ?_
    rintro id inFirst _ inSecond rfl
    have rolled := concordant.readable.sound.rolled (enrolled isFirst) inFirst
    rw [concordant.readable.sound.rolled (enrolled isSecond) inSecond] at rolled
    have self : byteOrder first.1 first.1 = .eq := Std.ReflCmp.compare_self
    rw [show second.1 = first.1 from congrArg Standing.category (Option.some.inj rolled), self]
      at before
    cases before

theorem consistent (concordant : subscriber.Concordant) : subscriber.Consistent := by
  obtain ⟨sound, tidy, _⟩ := concordant.readable
  have filed : ∀ {id name entry}, subscriber.Holds name id entry →
      subscriber.index.find? id = some name := fun held => tidy.filed (holds_iff.mp held)
  refine ⟨⟨fun indexed => ?_, fun ⟨_, held⟩ => filed held⟩, fun held other => ?_, fun held => ?_,
    ⟨fun present => ?_, fun ⟨id, member⟩ => ?_⟩, ⟨fun member => ?_, fun ⟨running, isOpen⟩ => ?_⟩,
    concordant.nodup_registrations, fun stopped => ⟨?_, concordant.unindexed stopped⟩⟩
  · cases stopped : subscriber.stopped with
    | true =>
        rw [concordant.unindexed stopped] at indexed
        cases indexed
    | false =>
        obtain ⟨entry, isKnown⟩ := (concordant.watchful stopped).held indexed
        exact ⟨entry, holds_iff.mpr isKnown⟩
  · exact Option.some.inj ((filed held).symm.trans (filed other))
  · obtain ⟨isId, isCategory⟩ := tidy.named (holds_iff.mp held)
    exact ⟨isId, isCategory, concordant.identified (holds_iff.mp held)⟩
  · obtain ⟨category, found⟩ := Option.isSome_iff_exists.mp present
    have some := sound.inhabited (by rw [find?_enrolment, found, Option.map_some])
    obtain ⟨id, member⟩ := List.exists_mem_of_ne_nil _ some
    exact ⟨id, category, found, member⟩
  · obtain ⟨category, found, _⟩ := member
    rw [Table.contains, found, Option.isSome_some]
  · obtain ⟨epoch, members, enrolled, member⟩ := registered_iff.mp member
    refine ⟨?_, (openIn_iff sound).mpr ⟨_, sound.rolled enrolled member, rfl, rfl⟩⟩
    rw [← Bool.not_eq_true]
    intro stopped
    rw [sound.ended stopped] at enrolled
    cases enrolled
  · obtain ⟨standing, rolled, rfl, notDisposed⟩ := (openIn_iff sound).mp isOpen
    obtain ⟨members, enrolled, member⟩ := sound.enrolled running rolled notDisposed
    exact registered_iff.mpr ⟨_, members, enrolled, member⟩
  · exact Table.ext_find? fun name => noCategory sound stopped name

end Concordant

/-- What can be done to a subscriber. -/
inductive Operation where
  | subscribe (category : String)
  | dispose (id : Nat)
  /-- A message arrives on a stream. -/
  | handle (now : Instant) (id : StreamId) (message : Wire.Message)
  /-- The timer of the entries that lapse takes a turn. -/
  | turn (now : Instant)
  | read (id : Nat)
  /-- The delivery task takes a turn. -/
  | deliver
  | stop
  /-- Other categories come first when all of them are gone through. -/
  | shuffle (front : List String)

/-- Signal the serial number of its category to a subscription, unless it is disposed. -/
def tell (subscriber : Subscriber) (id : Nat) : Subscriber :=
  match subscriber.subscriptions.find? id with
  | none => subscriber
  | some known =>
      if known.disposed then subscriber
      else subscriber.update id fun current => current.notice (subscriber.serial known.epoch)

/-- Tell a subscription for the last time and dispose it. -/
def conclude (subscriber : Subscriber) (id : Nat) : Subscriber :=
  ((subscriber.tell id).markDisposed id).2

/-- Carry out an operation to its end. -/
def carryOut (subscriber : Subscriber) : Operation → Subscriber
  | .subscribe category => (subscriber.subscribe category).2
  | .dispose id => (subscriber.dispose id).2
  | .handle now id message => subscriber.handle now (id, message)
  | .turn now => subscriber.turn now
  | .read id => (subscriber.read id).2
  | .deliver => subscriber.collect.1.foldl tell subscriber.collect.2
  | .stop => subscriber.shut.1.foldl conclude subscriber.shut.2
  | .shuffle front => { subscriber with front := front }

section Telling

variable (subscriber : Subscriber)

theorem step_tell (id : Nat) : subscriber.Step .service (subscriber.tell id) := by
  unfold tell
  split
  next => exact .rest
  next known found =>
    split
    next => exact .rest
    next isOpen => exact .notice trivial found (Bool.eq_false_iff.mpr isOpen)

theorem sameMembership_tell (id : Nat) : SameMembership (subscriber.tell id) subscriber := by
  unfold tell
  split
  next => exact .refl subscriber
  next =>
    split
    next => exact .refl subscriber
    next => exact subscriber.sameMembership_update id fun _ => rfl

/-- Concluding disposes the subscription itself and no other. -/
theorem isOpen_conclude
    {id other : Nat}
    (isOpen : (subscriber.conclude id).isOpen other = true) :
    other ≠ id ∧ subscriber.isOpen other = true := by
  rw [← (subscriber.sameMembership_tell id).isOpen other]
  rcases (subscriber.tell id).markDisposed_cases id with
    ⟨closed, same⟩ | ⟨_, _, marked, struck, _⟩
  · rw [conclude, same] at isOpen
    refine ⟨?_, isOpen⟩
    rintro rfl
    exact absurd isOpen (Bool.eq_false_iff.mp closed)
  · rw [conclude, marked] at isOpen
    exact (struck.isOpen_iff other).mp isOpen

theorem isOpen_foldl_conclude
    {ids : List Nat}
    {other : Nat}
    (isOpen : (ids.foldl conclude subscriber).isOpen other = true) :
    other ∉ ids ∧ subscriber.isOpen other = true := by
  induction ids generalizing subscriber with
  | nil => exact ⟨List.not_mem_nil, isOpen⟩
  | cons id rest inductionHypothesis =>
      obtain ⟨notRest, wasOpen⟩ := inductionHypothesis (subscriber.conclude id) isOpen
      obtain ⟨different, isOpen⟩ := subscriber.isOpen_conclude wasOpen
      exact ⟨List.not_mem_cons_of_ne_of_not_mem different notRest, isOpen⟩

end Telling

/-- Whatever the steps in service keep is kept by every operation but stopping. -/
theorem carryOut_induction
    {motive : Subscriber → Prop}
    {subscriber : Subscriber}
    (operation : Operation)
    (start : motive subscriber)
    (step : ∀ {before after}, motive before → before.Step .service after → motive after) :
    operation = .stop ∨ motive (subscriber.carryOut operation) := by
  cases operation with
  | subscribe => exact .inr (step start (.subscribe trivial))
  | dispose id => exact .inr (step start (.dispose id))
  | handle now id message =>
      cases message with
      | query => exact .inr start
      | hello announcement | reply announcement =>
          exact .inr (step start (.hear trivial trivial announcement))
      | byeBye => exact .inr (step start (.forget trivial))
  | turn => exact .inr (step start (.turn trivial))
  | read id => exact .inr (step start (.read id))
  | deliver =>
      refine .inr (List.foldlRecOn _ _ (step start (.collect trivial)) ?_)
      exact fun next kept id _ => step kept (next.step_tell id)
  | stop => exact .inl rfl
  | shuffle front => exact .inr (step start (.shuffle front))

/-- Between operations: the tables agree, and no subscription outlasts its subscriber. -/
structure Settled (subscriber : Subscriber) : Prop where
  concordant : subscriber.Concordant
  closed : subscriber.stopped = true → ∀ id, subscriber.isOpen id = false

namespace Settled

variable {subscriber : Subscriber}

theorem new : Settled Subscriber.new :=
  ⟨.new, nofun⟩

/-- A subscriber in service is not stopped by what it does, and one that is shut stands still. -/
theorem step
    {after : Subscriber}
    (settled : subscriber.Settled)
    (step : subscriber.Step .service after) :
    after.Settled := by
  refine ⟨settled.concordant.step step nofun, fun stopped id => ?_⟩
  have wasStopped : subscriber.stopped = true := by
    rcases step.stopped_cases with same | ⟨due, _⟩
    · exact same.symm.trans stopped
    · exact due.elim
  have frozen := Frozen.step step settled.concordant.readable.sound wasStopped
  have wasClosed := settled.closed wasStopped id
  rw [← Bool.not_eq_true, isOpen, Option.any_eq_true] at wasClosed ⊢
  rintro ⟨standing, rolled, isOpen⟩
  rw [find?_roll] at rolled
  obtain ⟨later, found, rfl⟩ := Option.map_eq_some_iff.mp rolled
  obtain ⟨earlier, wasFound, _, _, wasOpen⟩ := frozen.lists found
  refine wasClosed ⟨earlier.standing, by rw [find?_roll, wasFound, Option.map_some], ?_⟩
  simpa [Subscription.standing] using wasOpen (by simpa [Subscription.standing] using isOpen)

/-- Stopping takes a subscriber out of service, and disposes every subscription. -/
theorem stop
    (settled : subscriber.Settled) :
    (subscriber.carryOut .stop).Settled ∧ (subscriber.carryOut .stop).stopped = true := by
  have ⟨concordant, closed⟩ := settled
  change (subscriber.shut.1.foldl conclude subscriber.shut.2).Settled ∧
    (subscriber.shut.1.foldl conclude subscriber.shut.2).stopped = true
  have shut : subscriber.Step { Occasion.service with stopping := True } subscriber.shut.2 :=
    .shut trivial
  obtain ⟨ends, stays⟩ : (subscriber.shut.1.foldl conclude subscriber.shut.2).Concordant ∧
      (subscriber.shut.1.foldl conclude subscriber.shut.2).stopped = true := by
    refine List.foldlRecOn
      (motive := fun next : Subscriber => next.Concordant ∧ next.stopped = true)
      _ _ ⟨concordant.step shut nofun, Step.stopped_shut subscriber⟩ fun next kept id _ => ?_
    have told := next.step_tell id
    have concluded :
        (next.tell id).Step { Occasion.service with concluding := True } (next.conclude id) :=
      .conclude id trivial
    have still := told.stopped kept.2
    exact ⟨(kept.1.step told nofun).step concluded fun _ => still, concluded.stopped still⟩
  refine ⟨⟨ends, fun _ id => ?_⟩, stays⟩
  rw [← Bool.not_eq_true]
  intro isOpen
  obtain ⟨notTarget, wasOpen⟩ := subscriber.shut.2.isOpen_foldl_conclude isOpen
  rw [Subscriber.isOpen, roll, subscriptions_shut] at wasOpen
  cases stopped : subscriber.stopped with
  | true => exact absurd wasOpen (Bool.eq_false_iff.mp (closed stopped id))
  | false => exact notTarget (mem_shut concordant.readable.sound stopped wasOpen)

theorem carryOut
    (settled : subscriber.Settled)
    (operation : Operation) :
    (subscriber.carryOut operation).Settled := by
  rcases carryOut_induction operation settled Settled.step with rfl | kept
  · exact settled.stop.1
  · exact kept

/-- Any number of operations leaves a subscriber settled, and out of service if it was stopped. -/
theorem foldl_carryOut
    (settled : subscriber.Settled)
    (operations : List Operation) :
    (operations.foldl Subscriber.carryOut subscriber).Settled ∧
      (subscriber.stopped = true ∨ .stop ∈ operations →
        (operations.foldl Subscriber.carryOut subscriber).stopped = true) := by
  induction operations generalizing subscriber with
  | nil => exact ⟨settled, fun stopped => stopped.resolve_right List.not_mem_nil⟩
  | cons operation rest inductionHypothesis =>
      obtain ⟨ends, stays⟩ := inductionHypothesis (settled.carryOut operation)
      refine ⟨ends, fun stopped => stays ?_⟩
      rcases stopped with stopped | isStopped
      · have kept := carryOut_induction (motive := fun next => next.stopped = true)
          operation stopped fun stopped step => step.stopped stopped
        refine .inl (kept.elim ?_ id)
        rintro rfl
        exact settled.stop.2
      · rcases List.mem_cons.mp isStopped with rfl | inRest
        · exact .inl settled.stop.2
        · exact .inr inRest

/-- Between operations a subscription is registered as long as it is open. -/
theorem registered_iff_openIn
    (settled : subscriber.Settled)
    {name : String}
    {id : Nat} :
    subscriber.Registered name id ↔ subscriber.OpenIn name id := by
  refine settled.concordant.consistent.registered.trans ⟨And.right, fun isOpen => ⟨?_, isOpen⟩⟩
  rw [← Bool.not_eq_true]
  intro stopped
  obtain ⟨known, found, _, _, notDisposed⟩ := isOpen
  exact absurd (isOpen_of_find? found notDisposed)
    (Bool.eq_false_iff.mp (settled.closed stopped id))

end Settled

/-- Whatever is done to a subscriber leaves its tables consistent. -/
theorem consistent_foldl_carryOut (operations : List Operation) :
    let subscriber := operations.foldl carryOut new
    subscriber.Consistent ∧
      (∀ {name id}, subscriber.Registered name id ↔ subscriber.OpenIn name id) ∧
      (.stop ∈ operations → subscriber.Cleared) := by
  obtain ⟨settled, stops⟩ := Settled.new.foldl_carryOut operations
  have consistent := settled.concordant.consistent
  exact ⟨consistent, settled.registered_iff_openIn,
    fun stopped => consistent.cleared (stops (.inr stopped))⟩

end Discovery.Subscriber
