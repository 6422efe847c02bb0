import Discovery.Proofs.Convergence.Exchange
import Discovery.Proofs.Simulation.Clock
import Discovery.Proofs.Subscriber.Holding

namespace Discovery

/-!
# One lost announcement

An announcement is believed until the second one after it is due, so a resource
stays known although every other announcement is lost.  `Exchange.Orderly` holds
of every exchange; `Exchange.Enduring` says that what is known outlasts the next
announcement that arrives, and it holds from the first announcement that is heard
for as long as its category is watched (`Exchange.lists_of_heard`).
-/

/-- Whether an agent that is not disposed has an open subscription to a category. -/
def Agent.Watches (agent : Agent) (category : String) : Prop :=
  agent.lifecycle ≠ .disposed ∧ ∃ id known, agent.subscription? id = some known ∧
    known.category = category ∧ known.disposed = false

theorem Agent.watches_of_any
    {agent : Agent}
    {category : String}
    (id : Nat)
    (running : agent.lifecycle ≠ .disposed)
    (isOpen : ((agent.subscription? id).any fun known =>
      decide (known.category = category) && !known.disposed) = true) :
    agent.Watches category := by
  obtain ⟨known, found, looks⟩ := (Option.any_eq_true ..).mp isOpen
  simp only [Bool.and_eq_true, decide_eq_true_eq, Bool.not_eq_true'] at looks
  exact ⟨running, id, known, found, looks⟩

/-- A subscriber is shut only when its agent is disposed. -/
theorem Moment.disposed_after
    {moment : Moment}
    (disposed : moment.agent.subscriberOrNew.stopped = true → moment.agent.lifecycle = .disposed)
    (occurrence : Occurrence)
    (stopped : (moment.after occurrence).agent.subscriberOrNew.stopped = true) :
    (moment.after occurrence).agent.lifecycle = .disposed := by
  obtain ⟨_, _, effect, _⟩ := moment.effect_after occurrence
  refine effect.lifecycle.mpr ?_
  rcases effect.subscriber.stopped_cases with same | ⟨stopping, _⟩
  · exact .inl (disposed (same.symm.trans stopped))
  · exact .inr stopping

namespace Scheduled

/--
Until when an announcement must be believed so that the next one that arrives
comes in time: that is the next one, or the one after it if the next may be lost.
-/
def horizon (scheduled : Scheduled) (lost : Bool) : Instant :=
  scheduled.nextAnnounce + millisecond + if lost then 0 else scheduled.interval + millisecond

/-- An announcement that has just been heard is believed long enough. -/
theorem horizon_le_lifetime
    {scheduled : Scheduled}
    (lasting : 1 ≤ scheduled.resource.expiry.toInt)
    {now : Instant}
    (timely : scheduled.nextAnnounce ≤ now + scheduled.interval)
    (lost : Bool) :
    scheduled.horizon lost ≤ now + scheduled.lifetime := by
  have longest : ∀ {next interval lifetime present unit : Nat}, next ≤ present + interval →
      2 * (interval + unit) ≤ lifetime →
        next + unit + (if lost then 0 else interval + unit) ≤ present + lifetime := by
    intro next interval lifetime present unit soon long
    split <;> omega
  exact longest timely (margin lasting)

/-- If an announcement is lost that was not late, what was believed long enough still is. -/
theorem horizon_le_of_lost
    {before after : Scheduled}
    (same : after.interval = before.interval)
    {now : Instant}
    (soon : now < before.nextAnnounce + millisecond)
    (timely : after.nextAnnounce ≤ now + after.interval) :
    after.horizon true ≤ before.horizon false := by
  have later : ∀ {next following interval present unit : Nat}, present < next + unit →
      following ≤ present + interval → following + unit + 0 ≤ next + unit + (interval + unit) := by
    omega
  exact later soon (same ▸ timely)

end Scheduled

namespace Exchange

open Relation (ReflTransGen)

/-- The owner is punctual and says only what is so, and the reader is readable. -/
structure Orderly (id : ResourceId) (exchange : Exchange) : Prop where
  lasting : 1 ≤ exchange.owner.agent.settings.resourceExpiry.toNat
  inService : exchange.owner.InService
  punctual : exchange.owner.agent.publisherOrNew.Punctual exchange.now
  told : ∀ {outgoing}, .sent outgoing ∈ exchange.owner.outputs → outgoing.stream = id →
    exchange.owner.agent.publisherOrNew.Announces id outgoing.payload
  sent : ∀ {payload}, payload ∈ exchange.arriving →
    .sent (.broadcast id payload) ∈ exchange.owner.outputs
  readable : exchange.reader.Readable
  disposed : exchange.reader.agent.subscriberOrNew.stopped = true →
    exchange.reader.agent.lifecycle = .disposed
  indexed : ∀ {category}, exchange.reader.agent.subscriberOrNew.index.find? id = some category →
    ∃ scheduled, exchange.owner.agent.publisherOrNew.owned.find? id = some scheduled ∧
      scheduled.resource.category = category

namespace Orderly

variable {id : ResourceId} {exchange : Exchange}

theorem new
    (now : Instant)
    {owner : AgentSettings}
    (lasting : 1 ≤ owner.resourceExpiry.toNat)
    (reader : AgentSettings)
    (attempts readerAttempts : List (Option TransportError)) :
    Orderly id (.new now (.new owner attempts) (.new reader readerAttempts)) :=
  ⟨lasting, .new owner attempts, .new now, nofun, nofun, .new reader readerAttempts, nofun, nofun⟩

/-- The owner announces what it owns, and what it owned before. -/
theorem announces_of_acts
    {before after : Moment}
    {now : Instant}
    (acts : Moment.Acts now id before after)
    {payload : Bytes}
    (announces : before.agent.publisherOrNew.Announces id payload) :
    after.agent.publisherOrNew.Announces id payload := by
  obtain ⟨scheduled, announcement, owned, word, category, expiry⟩ := announces
  obtain ⟨later, isLater, sameCategory, sameExpiry⟩ := acts.remains owned
  exact ⟨later, announcement, isLater, word, category.trans sameCategory.symm,
    expiry.trans sameExpiry.symm⟩

/-- The reader hears an announcement of the resource, and knows it if it watches its category. -/
theorem hear
    (orderly : exchange.Orderly id)
    (real : id.isNil = false)
    {payload : Bytes}
    (announces : exchange.owner.agent.publisherOrNew.Announces id payload)
    (origin : Origin) :
    (exchange.hear id payload origin).Orderly id ∧
      ∃ scheduled, exchange.owner.agent.publisherOrNew.owned.find? id = some scheduled ∧
        (((exchange.hear id payload origin).reader.agent.subscriberOrNew.known?
            scheduled.resource.category id).isSome →
          ∃ entry, (exchange.hear id payload origin).reader.agent.subscriberOrNew.known?
              scheduled.resource.category id = some (some entry) ∧
            entry.expiresAt = exchange.now + scheduled.lifetime) := by
  obtain ⟨scheduled, announcement, owned, word, category, expiry⟩ := announces
  have heard : (exchange.hear id payload origin).reader.agent.subscriberOrNew =
      exchange.reader.agent.subscriberOrNew.hear exchange.now id announcement :=
    exchange.reader.progress.subscriberOrNew_receive exchange.now (word origin)
  have own : ∀ {name}, exchange.reader.agent.subscriberOrNew.index.find? id = some name →
      name = announcement.category := by
    intro name indexed
    obtain ⟨same, isSame, rfl⟩ := orderly.indexed indexed
    rw [owned] at isSame
    cases isSame
    exact category.symm
  obtain ⟨_, taught⟩ := Subscriber.taught_hear orderly.readable.subscriber.tidy
    orderly.readable.subscriber.sound exchange.now real own
  let receipt : Occurrence := .errand (.receive exchange.now ⟨id, payload, origin⟩)
  refine ⟨⟨orderly.lasting, orderly.inService, orderly.punctual, orderly.told, orderly.sent,
    orderly.readable.after receipt, Moment.disposed_after orderly.disposed receipt,
    fun {name} indexed => ?_⟩, scheduled, owned, fun watched => ?_⟩
  · rw [heard] at indexed
    rcases taught.index indexed with wasIndexed | ⟨_, isSaid, isCategory⟩
    · exact orderly.indexed wasIndexed
    · cases isSaid
      exact ⟨scheduled, owned, category.symm.trans isCategory⟩
  · rw [heard] at watched ⊢
    obtain ⟨known, isKnown⟩ := Option.isSome_iff_exists.mp watched
    obtain ⟨entry, rfl, lasts⟩ := taught.known rfl (category ▸ isKnown)
    refine ⟨entry, isKnown, ?_⟩
    rw [lasts, lapse, expiry, Scheduled.lifetime]

/-- Whatever happens keeps an exchange orderly. -/
theorem step
    (orderly : exchange.Orderly id)
    (real : id.isNil = false)
    {next : Exchange}
    (step : exchange.Step id next) :
    next.Orderly id := by
  cases step with
  | @act occurrence timely running fresh arriving lost passage =>
      have acts := orderly.inService.acts orderly.punctual orderly.lasting timely running fresh real
      obtain ⟨said, accepted, effect, _⟩ := exchange.owner.effect_after occurrence
      obtain ⟨more, outputs, _⟩ := effect.outputs
      have grown : (exchange.owner.after occurrence).outputs = exchange.owner.outputs ++ more :=
        outputs
      refine ⟨effect.settings ▸ orderly.lasting, orderly.inService.after running, acts.punctual,
        fun sent onStream => ?_, fun {payload} arrives => ?_, orderly.readable, orderly.disposed,
        fun {category} indexed => ?_⟩
      · rcases acts.told sent onStream with before | announces
        · exact announces_of_acts acts (orderly.told before onStream)
        · exact announces
      · rw [grown, List.drop_left] at passage
        rw [grown]
        refine List.mem_append.mpr ((List.mem_append.mp arrives).imp orderly.sent ?_)
        exact passage.sent_of_mem
      · obtain ⟨scheduled, owned, rfl⟩ := orderly.indexed indexed
        obtain ⟨later, isLater, same, _⟩ := acts.remains owned
        exact ⟨later, isLater, same⟩
  | arrive arrives origin =>
      have sent := orderly.sent (arrives ▸ List.mem_cons_self)
      have heard := (orderly.hear real (orderly.told sent rfl) origin).1
      exact { heard with
        sent := fun later => orderly.sent (arrives ▸ List.mem_cons_of_mem _ later) }
  | stray sent onStream origin => exact (orderly.hear real (orderly.told sent onStream) origin).1
  | @attend occurrence timely elsewhere =>
      obtain ⟨_, _, effect, _⟩ := exchange.reader.effect_after occurrence
      have spared := Subscriber.Spared.step orderly.readable.subscriber effect.subscriber timely
        elsewhere
      exact { orderly with
        readable := orderly.readable.after occurrence
        disposed := Moment.disposed_after orderly.disposed occurrence
        indexed := fun indexed => orderly.indexed (spared.index indexed) }
  | @wait _ atRest later after wakes =>
      refine { orderly with punctual := ?_ }
      cases isPublisher : exchange.owner.agent.publisher with
      | none =>
          rw [show exchange.owner.agent.publisherOrNew = .new by
            rw [Agent.publisherOrNew, isPublisher, Option.getD_none]]
          exact .new later
      | some publisher =>
          have same : exchange.owner.agent.publisherOrNew = publisher := by
            rw [Agent.publisherOrNew, isPublisher, Option.getD_some]
          have punctual := orderly.punctual
          rw [same] at punctual ⊢
          rw [Agent.announceReady, isPublisher, Option.any_some] at atRest
          exact punctual.wait atRest after fun waits =>
            Nat.lt_of_le_of_lt (wakes isPublisher waits) (Simulation.World.tick_lt _)

theorem leads
    (orderly : exchange.Orderly id)
    (real : id.isNil = false)
    {last : Exchange}
    (leads : Leads id exchange last) :
    last.Orderly id := by
  induction leads with
  | refl => exact orderly
  | tail _ step inductionHypothesis => exact inductionHypothesis.step real step

/-- Who watches a category knows of each resource whether it is there. -/
theorem isSome_known?
    (orderly : exchange.Orderly id)
    {category : String}
    (watches : exchange.reader.agent.Watches category) :
    (exchange.reader.agent.subscriberOrNew.known? category id).isSome := by
  obtain ⟨running, subscription, known, found, rfl, isOpen⟩ := watches
  rw [Agent.subscription?_eq] at found
  have inService : exchange.reader.agent.subscriberOrNew.stopped = false :=
    Bool.eq_false_iff.mpr fun stopped => running (orderly.disposed stopped)
  obtain ⟨category, isCategory, _⟩ := Subscriber.category_of_open
    orderly.readable.subscriber.sound inService found isOpen
  rw [Subscriber.known?, isCategory]
  rfl

end Orderly

/-- What the reader knows of the resource outlasts the next announcement that arrives. -/
structure Enduring
    (id : ResourceId)
    (scheduled : Scheduled)
    (entry : RemoteEntry)
    (exchange : Exchange) : Prop where
  owned : exchange.owner.agent.publisherOrNew.owned.find? id = some scheduled
  known : exchange.reader.agent.subscriberOrNew.known? scheduled.resource.category id =
    some (some entry)
  lasts : exchange.now < entry.expiresAt
  ahead : exchange.arriving = [] → scheduled.horizon exchange.lost ≤ entry.expiresAt

namespace Enduring

variable {id : ResourceId} {exchange : Exchange}

/-- Whoever watches the category of a resource and hears of it knows it for long enough. -/
theorem hear
    (orderly : exchange.Orderly id)
    (real : id.isNil = false)
    {payload : Bytes}
    (announces : exchange.owner.agent.publisherOrNew.Announces id payload)
    (origin : Origin) :
    ∃ scheduled, exchange.owner.agent.publisherOrNew.owned.find? id = some scheduled ∧
      ((exchange.hear id payload origin).reader.agent.Watches scheduled.resource.category →
        ∃ entry, ∀ rest : List Bytes,
          Enduring id scheduled entry
            { exchange.hear id payload origin with arriving := rest }) := by
  obtain ⟨stillOrderly, scheduled, owned, knows⟩ := orderly.hear real announces origin
  refine ⟨scheduled, owned, fun watches => ?_⟩
  obtain ⟨entry, known, lasts⟩ := knows (stillOrderly.isSome_known? watches)
  have lasting := orderly.punctual.lasting owned
  have positive : 0 < scheduled.lifetime :=
    Nat.lt_of_lt_of_le (Nat.mul_pos Nat.two_pos (Nat.lt_add_left _ (by decide)))
      (Scheduled.margin lasting)
  refine ⟨entry, fun rest => ⟨owned, known, ?_, fun _ => ?_⟩⟩
  · rw [lasts]
    exact Nat.lt_add_of_pos_right positive
  · rw [lasts]
    exact Scheduled.horizon_le_lifetime lasting (orderly.punctual.timely owned) _

/-- Whatever happens, what the reader knows endures while it watches the category. -/
theorem step
    {scheduled : Scheduled}
    {entry : RemoteEntry}
    (enduring : Enduring id scheduled entry exchange)
    (orderly : exchange.Orderly id)
    (real : id.isNil = false)
    {next : Exchange}
    (step : exchange.Step id next)
    (watches : next.reader.agent.Watches scheduled.resource.category) :
    ∃ later renewed, later.resource.category = scheduled.resource.category ∧
      Enduring id later renewed next := by
  have stillOrderly := orderly.step real step
  have renew : ∀ {payload : Bytes} {origin : Origin} {rest : List Bytes},
      exchange.owner.agent.publisherOrNew.Announces id payload →
        next = { exchange.hear id payload origin with arriving := rest } →
          ∃ later renewed, later.resource.category = scheduled.resource.category ∧
            Enduring id later renewed next := by
    rintro payload origin rest announces rfl
    obtain ⟨same, owned, endures⟩ := Enduring.hear orderly real announces origin
    cases enduring.owned.symm.trans owned
    obtain ⟨renewed, endures⟩ := endures watches
    exact ⟨scheduled, renewed, rfl, endures rest⟩
  cases step with
  | @act occurrence timely running fresh arriving lost passage =>
      have acts := orderly.inService.acts orderly.punctual orderly.lasting timely running fresh real
      obtain ⟨later, isLater, sameCategory, sameExpiry⟩ := acts.remains enduring.owned
      refine ⟨later, entry, sameCategory, isLater, ?_, enduring.lasts, fun nothing => ?_⟩
      · rw [sameCategory]
        exact enduring.known
      obtain ⟨before, rfl⟩ := List.append_eq_nil_iff.mp nothing
      rcases passage.nothing_arrives with ⟨silent, rfl⟩ | ⟨notLost, rfl⟩
      · have same := acts.silent silent (by rw [enduring.owned]; rfl)
        rw [enduring.owned, isLater] at same
        cases same
        exact enduring.ahead before
      · have sameInterval : later.interval = scheduled.interval := by
          rw [Scheduled.interval, sameExpiry, Scheduled.interval]
        have ahead := enduring.ahead before
        rw [notLost] at ahead
        exact Nat.le_trans (Scheduled.horizon_le_of_lost sameInterval
          (orderly.punctual.soon enduring.owned) (acts.punctual.timely isLater)) ahead
  | arrive arrives origin =>
      exact renew (orderly.told (orderly.sent (arrives ▸ List.mem_cons_self)) rfl) rfl
  | stray sent onStream origin =>
      exact renew (orderly.told sent onStream) rfl
  | @attend occurrence timely elsewhere =>
      obtain ⟨_, _, effect, _⟩ := exchange.reader.effect_after occurrence
      have spared := Subscriber.Spared.step orderly.readable.subscriber effect.subscriber timely
        elsewhere
      have known := spared.kept enduring.known enduring.lasts (stillOrderly.isSome_known? watches)
      exact ⟨scheduled, entry, rfl, { enduring with known := known }⟩
  | wait arrived atRest after wakes =>
      have lasts := Nat.lt_of_lt_of_le (stillOrderly.punctual.soon enduring.owned)
        (Nat.le_trans (Nat.le_add_right ..) (enduring.ahead arrived))
      exact ⟨scheduled, entry, rfl, { enduring with lasts := lasts }⟩

end Enduring

/-- A resource is known and has not lapsed, and everyone who looks finds it in its category. -/
structure Lists (id : ResourceId) (category : String) (exchange : Exchange) : Prop where
  known : ∃ entry, exchange.reader.agent.subscriberOrNew.known? category id = some (some entry) ∧
    exchange.now < entry.expiresAt
  listed : ∀ {subscription known},
    exchange.reader.agent.subscription? subscription = some known → known.category = category →
      known.disposed = false →
        ∃ resource ∈ (exchange.reader.agent.read subscription).1.resources,
          resource.id = id ∧ resource.category = category

/-- What endures is listed. -/
theorem Enduring.lists
    {id : ResourceId}
    {scheduled : Scheduled}
    {entry : RemoteEntry}
    {exchange : Exchange}
    (enduring : Enduring id scheduled entry exchange)
    (orderly : exchange.Orderly id) :
    exchange.Lists id scheduled.resource.category := by
  refine ⟨⟨entry, enduring.known, enduring.lasts⟩, fun {subscription known} found same isOpen => ?_⟩
  obtain ⟨isId, isCategory⟩ := orderly.readable.subscriber.tidy.named enduring.known
  have isKnown := enduring.known
  rw [← same, ← isId] at isKnown
  exact ⟨entry.resource, ((orderly.readable.readsPresent found isOpen).known _).mpr
    ⟨entry, isKnown, rfl⟩, isId, isCategory⟩

/-- Something happens, and the reader watches a category afterwards. -/
def Attended (id : ResourceId) (category : String) (first second : Exchange) : Prop :=
  first.Step id second ∧ second.reader.agent.Watches category

/--
From the first announcement that a reader hears while it watches the category of
a resource, it lists the resource for as long as it watches the category and the
owner is not disposed, although announcements are lost, as long as no two of them
in a row are.
-/
theorem lists_of_heard
    {owner : AgentSettings}
    (lasting : 1 ≤ owner.resourceExpiry.toNat)
    {reader : AgentSettings}
    {attempts readerAttempts : List (Option TransportError)}
    {now : Instant}
    {id : ResourceId}
    (real : id.isNil = false)
    {exchange : Exchange}
    (reached : Leads id (.new now (.new owner attempts) (.new reader readerAttempts)) exchange)
    {payload : Bytes}
    {rest : List Bytes}
    (arrives : exchange.arriving = payload :: rest)
    {origin : Origin}
    {heard : Exchange}
    (isHeard : heard = { exchange.hear id payload origin with arriving := rest }) :
    ∃ resource, heard.owner.agent.localResource? id = some resource ∧
      (heard.reader.agent.Watches resource.category →
        ∀ {last : Exchange}, ReflTransGen (Attended id resource.category) heard last →
          last.Lists id resource.category) := by
  subst isHeard
  have orderly := (Orderly.new now lasting reader attempts readerAttempts).leads real reached
  have announces := orderly.told (orderly.sent (arrives ▸ List.mem_cons_self)) rfl
  obtain ⟨scheduled, owned, endures⟩ := Enduring.hear orderly real announces origin
  refine ⟨scheduled.resource, ?_, fun watches last attended => ?_⟩
  · exact (Agent.localResource?_eq _ _).trans (Publisher.resource?_of_owned owned)
  obtain ⟨entry, endures⟩ := endures watches
  suffices holds : last.Orderly id ∧ ∃ later renewed,
      later.resource.category = scheduled.resource.category ∧ Enduring id later renewed last by
    obtain ⟨stillOrderly, later, renewed, same, enduring⟩ := holds
    exact same ▸ enduring.lists stillOrderly
  induction attended with
  | refl =>
      exact ⟨orderly.step real (.arrive arrives origin), scheduled, entry, rfl, endures rest⟩
  | tail _ attended inductionHypothesis =>
      obtain ⟨step, stillWatches⟩ := attended
      obtain ⟨stillOrderly, later, renewed, same, enduring⟩ := inductionHypothesis
      obtain ⟨next, entry, sameCategory, endures⟩ :=
        enduring.step stillOrderly real step (same.symm ▸ stillWatches)
      exact ⟨stillOrderly.step real step, next, entry, sameCategory.trans same, endures⟩

/-- The owner runs an errand now. -/
theorem Step.run
    {id : ResourceId}
    {now : Instant}
    {owner reader : Moment}
    {before : List Bytes}
    {wasLost : Bool}
    (errand : Errand)
    (timely : ∀ {instant}, errand.now? = some instant → instant = now)
    (fresh : ∀ {named}, (Occurrence.errand errand).names? = some named →
      named.isNil = false ∧ named ∉ owner.published)
    {sent : List Output}
    (outputs : (owner.run errand).outputs = owner.outputs ++ sent)
    {arriving : List Bytes}
    {lost : Bool}
    (passage : Passage id wasLost sent arriving lost) :
    Step id ⟨now, owner, reader, before, wasLost⟩
      ⟨now, owner.run errand, reader, before ++ arriving, lost⟩ := by
  refine @Step.act id ⟨now, owner, reader, before, wasLost⟩ (.errand errand) ?_ nofun fresh
    arriving lost ?_
  · rintro instant ⟨_, ⟨⟩, isNow⟩
    exact timely isNow
  · rwa [show (owner.after (.errand errand)).outputs = _ from outputs, List.drop_left]

/-- The second announcement is lost; when the third one is due, the resource is still listed. -/
theorem lists_of_heard_lost :
    let id : ResourceId := ⟨List.replicate 16 1, List.length_replicate⟩
    ∃ heard last : Exchange,
      Leads id (.new 0 (.new ⟨1, 50⟩ []) (.new ⟨1, 50⟩ [])) heard ∧
        ReflTransGen (Attended id "Room") heard last ∧ last.now = 900 * millisecond ∧
        last.lost = true ∧ last.Lists id "Room" := by
  intro id
  let fresh := Moment.new ⟨1, 50⟩ []
  let payload := (Wire.Message.hello ⟨"Room", "here", 1, ∅⟩).encode
  let later := 450 * millisecond
  let published := fresh.run (.publish 0 id "Room" "here" ∅)
  let announced := published.run (.announce 0)
  let asleep := announced.run (.announce 0)
  let again := asleep.run (.announce later)
  let resting := again.run (.announce later)
  let subscribed := fresh.run (.subscribe "Room")
  let told := subscribed.run (.receive 0 ⟨id, payload, .endpoint 1⟩)
  have starts : Passage id false [.started] [] false := .other nofun (.done false)
  have now : ∀ {present instant : Instant}, some present = some instant → instant = present :=
    fun same => (Option.some.inj same).symm
  have reached : Leads id (.new 0 fresh fresh) ⟨0, announced, subscribed, [payload], false⟩ := by
    have publishes : (Exchange.new 0 fresh fresh).Step id ⟨0, published, fresh, [], false⟩ := by
      refine .run (.publish 0 id "Room" "here" ∅) now ?_ (by decide +kernel) starts
      rintro named ⟨⟩
      exact ⟨rfl, List.not_mem_nil⟩
    have subscribes : Step id ⟨0, published, fresh, [], false⟩
        ⟨0, published, subscribed, [], false⟩ := by
      refine @Step.attend id _ (.errand (.subscribe "Room")) ?_ ?_
      · rintro _ ⟨_, ⟨⟩, ⟨⟩⟩
      · rintro ⟨_, _, ⟨⟩, _⟩
    have announces : Step id ⟨0, published, subscribed, [], false⟩
        ⟨0, announced, subscribed, [payload], false⟩ :=
      .run (.announce 0) now nofun (by decide +kernel) (.arrives payload (.done false))
    exact ((Relation.ReflTransGen.single publishes).tail subscribes).tail announces
  have listens : told.agent.Watches "Room" := by
    refine Agent.watches_of_any 1 ?_ ?_ <;> decide +kernel
  have quiet : ∀ (present : Instant) (owner : Moment) (lost : Bool),
      (owner.run (.announce present)).outputs = owner.outputs →
        Attended id "Room" ⟨present, owner, told, [], lost⟩
          ⟨present, owner.run (.announce present), told, [], lost⟩ := by
    intro present owner lost same
    exact ⟨.run (.announce present) now nofun (same.trans (List.append_nil _).symm) (.done lost),
      listens⟩
  have waits : ∀ {present deadline : Instant} {owner : Moment} (lost : Bool), present ≤ deadline →
      owner.agent.announceReady present = false →
        (owner.agent.publisher.bind fun publisher => publisher.timer.waitsFor?) = some deadline →
          Attended id "Room" ⟨present, owner, told, [], lost⟩
            ⟨deadline, owner, told, [], lost⟩ := by
    intro present deadline owner lost after atRest sleeps
    refine ⟨.wait rfl atRest after fun {publisher instant} isPublisher isWaiting => ?_, listens⟩
    rw [isPublisher, Option.bind_some, isWaiting] at sleeps
    exact Option.some.inj sleeps ▸ Simulation.World.le_tick instant
  have loses : Attended id "Room" ⟨later, asleep, told, [], false⟩
      ⟨later, again, told, [], true⟩ :=
    ⟨.run (.announce later) now nofun (by decide +kernel) (.lost payload (.done true)), listens⟩
  have expires : Attended id "Room" ⟨900 * millisecond, resting, told, [], true⟩
      ⟨900 * millisecond, resting, told.run (.expire (900 * millisecond)), [], true⟩ := by
    refine ⟨@Step.attend id _ (.errand (.expire (900 * millisecond))) ?_ ?_,
      Agent.watches_of_any 1 (by decide +kernel) (by decide +kernel)⟩
    · rintro instant ⟨_, ⟨⟩, isNow⟩
      exact now isNow
    · rintro ⟨_, _, ⟨⟩, _⟩
  have run : ReflTransGen (Attended id "Room") ⟨0, announced, told, [], false⟩
      ⟨900 * millisecond, resting, told.run (.expire (900 * millisecond)), [], true⟩ := by
    refine .tail (.tail (.tail (.tail (.tail (.single (quiet 0 announced false ?_))
      (waits false ?_ ?_ ?_)) loses) (quiet later again true ?_)) (waits true ?_ ?_ ?_)) expires
    all_goals decide +kernel
  obtain ⟨resource, offered, lists⟩ :=
    lists_of_heard (by decide) rfl reached rfl
      (show (⟨0, announced, told, [], false⟩ : Exchange) = _ from rfl)
  have isRoom : resource.category = "Room" := by
    have category : (announced.agent.localResource? id).map LocalResource.category =
        some "Room" := by decide +kernel
    rw [offered] at category
    exact Option.some.inj category
  rw [isRoom] at lists
  exact ⟨_, _, reached.tail (.arrive rfl (.endpoint 1)), run, rfl, rfl, lists listens run⟩

end Exchange

end Discovery
