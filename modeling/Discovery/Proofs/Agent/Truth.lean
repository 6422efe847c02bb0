import Discovery.Proofs.Agent.Farewell

namespace Discovery

/-!
# Whatever an agent sends is true

A resource that is owned is the one that was published under its identifier, but
for its attributes, and others accept its announcement (`LocalResource.Genuine`).
A `Ledger` keeps what was published in the course of a run.  Whatever is sent at
some moment can be read, and it asks for a category that is watched, tells of a
resource as it is at this moment, or bids farewell to one that was published
(`Moment.truthful_of_sent`).
-/

/-- A resource is as it was published but for its attributes, and others accept it. -/
structure LocalResource.Genuine (first resource : LocalResource) : Prop where
  id : resource.id = first.id
  category : resource.category = first.category
  connection : resource.connection = first.connection
  expiry : resource.expiry = first.expiry
  valid : Publisher.checkResource resource = .ok ()

namespace Publisher

open LocalResource (Genuine)

variable {occasion : Occasion} {publisher next : Publisher}
variable {said : List Outgoing} {accepted : List ResourceId}

/-- Nothing is accepted but what is offered. -/
theorem Step.accepts (step : publisher.Step occasion said accepted next) :
    accepted = [] ∨ ∃ resource, accepted = [resource.id] ∧ occasion.offered resource := by
  cases step with
  | rest | turn | answer | commit | stop | shuffle => exact .inl rfl
  | @publish _ _ resource offered => exact .inr ⟨resource, rfl, offered⟩

/-- An edit keeps a resource genuine. -/
theorem Edited.genuine
    {editor : Editor}
    {scheduled : Scheduled}
    {edited first : LocalResource}
    (isEdited : Edited editor publisher next scheduled edited)
    (genuine : Genuine first scheduled.resource) :
    Genuine first edited := by
  obtain ⟨same, valid⟩ := edit_ok isEdited.success
  obtain ⟨validCategory, validConnection, _⟩ := checkResource_eq_ok_iff.mp genuine.valid
  have checked : checkResource edited = .ok () := by
    refine checkResource_eq_ok_iff.mpr ⟨?_, ?_, valid⟩ <;> rwa [same]
  subst same
  exact ⟨genuine.id, genuine.category, genuine.connection, genuine.expiry, checked⟩

/-- What is owned was owned before and is as genuine as it was, or it has just been accepted. -/
theorem Step.genuine
    (step : publisher.Step occasion said accepted next)
    {id : ResourceId}
    {later : Scheduled}
    (owned : next.owned.find? id = some later) :
    (id ∉ accepted ∧ ∃ earlier, publisher.owned.find? id = some earlier ∧
        ∀ {first}, Genuine first earlier.resource → Genuine first later.resource) ∨
      accepted = [id] ∧ occasion.offered later.resource ∧
        Genuine later.resource later.resource ∧ later.resource.id = id := by
  have kept : (next.owned.find? id).map Scheduled.resource =
      (publisher.owned.find? id).map Scheduled.resource →
        ∃ earlier, publisher.owned.find? id = some earlier ∧
          ∀ {first}, Genuine first earlier.resource → Genuine first later.resource := by
    intro same
    rw [owned, Option.map_some] at same
    obtain ⟨earlier, wasOwned, sameResource⟩ := Option.map_eq_some_iff.mp same.symm
    exact ⟨earlier, wasOwned, fun genuine => sameResource ▸ genuine⟩
  cases step with
  | rest | answer | shuffle => exact .inl ⟨List.not_mem_nil, kept rfl⟩
  | @publish now _ resource offered _ published =>
      have valid := (publish_cases published).1
      rw [find?_owned_publish published] at owned
      split at owned
      next isNew =>
        cases owned
        exact .inr ⟨by rw [isNew], offered, ⟨rfl, rfl, rfl, rfl, valid⟩, isNew.symm⟩
      next notNew =>
        exact .inl ⟨List.mem_singleton.not.mpr notNew, later, owned, fun genuine => genuine⟩
  | @turn now _ => exact .inl ⟨List.not_mem_nil, kept (resource_owned_turn publisher now id)⟩
  | commit _ committed =>
      refine .inl ⟨List.not_mem_nil, ?_⟩
      obtain ⟨scheduled, edited, _, isEdited⟩ := edited_commit committed
      have resources := isEdited.resources id
      split at resources
      next isId =>
        rw [owned, Option.map_some] at resources
        cases resources
        exact ⟨scheduled, isId ▸ isEdited.before, isEdited.genuine⟩
      next => exact kept resources
  | stop =>
      refine .inl ⟨List.not_mem_nil, ?_⟩
      unfold Publisher.stop at owned
      split at owned
      next => exact ⟨later, owned, fun genuine => genuine⟩
      next => cases owned

end Publisher

/-- Whoever subscribes to a category watches it, and others accept its name. -/
theorem Subscriber.watches_of_subscribe
    {subscriber next : Subscriber}
    {category : String}
    {id : Nat}
    {isFirst : Bool}
    (joined : subscriber.subscribe category = (.ok (id, isFirst), next)) :
    Wire.checkText category = .ok () ∧ ∃ known, next.subscriptions.find? id = some known ∧
      known.category = category ∧ known.disposed = false := by
  have ends := subscriber.subscribes_subscribe category
  rw [joined] at ends
  cases ends with
  | further valid | first valid =>
      exact ⟨valid, _, (Table.find?_insert ..).trans (if_pos rfl), rfl, rfl⟩

/-- The resource that an occurrence would publish. -/
def Occurrence.names? : Occurrence → Option ResourceId
  | .errand (.publish _ id _ _ _) => some id
  | _ => none

/-- What is owned is listed. -/
theorem Agent.mem_localResources
    {agent : Agent}
    {id : ResourceId}
    {scheduled : Scheduled}
    (owned : agent.publisherOrNew.owned.find? id = some scheduled) :
    scheduled.resource ∈ agent.localResources := by
  rw [localResources_eq]
  exact Publisher.mem_resources.mpr ⟨id, scheduled, owned, rfl⟩

namespace Moment

/-- The resource that is published when something happens, as it is published. -/
def publication? (moment : Moment) : Occurrence → Option LocalResource
  | .errand (.publish now id category connection attributes) =>
      match (moment.progress.publish now id category connection attributes).1 with
      | .ok () => some (.new id category connection moment.agent.settings.wireExpiry attributes)
      | .error _ => none
  | _ => none

/-- What is accepted is what is published. -/
theorem effect_publication
    (moment : Moment)
    (occurrence : Occurrence) :
    ∃ said, Progress.Effect (moment.occasion occurrence) said
      ((moment.publication? occurrence).toList.map LocalResource.id) moment.progress
      (moment.after occurrence).progress := by
  obtain ⟨said, accepted, effect, published⟩ := moment.effect_after occurrence
  refine ⟨said, ?_⟩
  suffices same : accepted = (moment.publication? occurrence).toList.map LocalResource.id from
    same ▸ effect
  by_cases publishes : ∃ now id category connection attributes,
      occurrence = .errand (.publish now id category connection attributes)
  · obtain ⟨now, id, category, connection, attributes, rfl⟩ := publishes
    change (moment.run _).published = _ at published
    unfold run at published
    unfold publication?
    dsimp only at published ⊢
    cases result : (moment.progress.publish now id category connection attributes).1 with
    | ok =>
        rw [result] at published
        exact (List.append_cancel_left published).symm
    | error =>
        rw [result] at published
        exact (List.self_eq_append_right.mp published)
  · have none : moment.publication? occurrence = none := by
      cases occurrence with
      | errand errand =>
          cases errand with
          | publish => exact absurd ⟨_, _, _, _, _, rfl⟩ publishes
          | subscribe | commit | listen | read | disposeSubscription | receive | announce | expire
          | deliver | shuffle => rfl
      | dispose | release | report | ask | proceed => rfl
    rw [none]
    refine effect.publisher.accepts.resolve_right ?_
    rintro ⟨_, _, _, now, id, category, connection, attributes, isPublish, _⟩
    exact publishes ⟨now, id, category, connection, attributes, isPublish⟩

/-- What is published is what is offered. -/
theorem eq_of_offered
    {moment : Moment}
    {occurrence : Occurrence}
    {offered published : LocalResource}
    (isOffered : (moment.occasion occurrence).offered offered)
    (isPublished : moment.publication? occurrence = some published) :
    published = offered := by
  obtain ⟨_, now, id, category, connection, attributes, rfl, rfl⟩ := isOffered
  unfold publication? at isPublished
  dsimp only at isPublished
  split at isPublished
  next => exact (Option.some.inj isPublished).symm
  next => cases isPublished

theorem names?_of_publication?
    {moment : Moment}
    {occurrence : Occurrence}
    {published : LocalResource}
    (isPublished : moment.publication? occurrence = some published) :
    occurrence.names? = some published.id := by
  unfold publication? at isPublished
  split at isPublished
  next =>
    split at isPublished
    next =>
      cases isPublished
      rfl
    next => cases isPublished
  next => cases isPublished

end Moment

/-- An agent at a moment, and the resources published by then, as they were published. -/
structure Ledger where
  moment : Moment
  published : Table ResourceId LocalResource
  deriving Repr

namespace Ledger

open LocalResource (Genuine)

/-- A new agent has published nothing. -/
def new (settings : AgentSettings) (attempts : List (Option TransportError)) : Ledger :=
  ⟨.new settings attempts, ∅⟩

/-- The ledger after something has happened. -/
def after (ledger : Ledger) (occurrence : Occurrence) : Ledger where
  moment := ledger.moment.after occurrence
  published :=
    match ledger.moment.publication? occurrence with
    | none => ledger.published
    | some resource => ledger.published.insert resource.id resource

/-- What has been published stays in the ledger. -/
theorem isSome_after
    {ledger : Ledger}
    {id : ResourceId}
    (published : (ledger.published.find? id).isSome)
    (occurrence : Occurrence) :
    ((ledger.after occurrence).published.find? id).isSome := by
  unfold after
  dsimp only
  split
  next => exact published
  next =>
    rw [Table.find?_insert]
    split
    next => rfl
    next => exact published

/-- What an agent owns is what it published, and it names only what exists. -/
structure Faithful (settings : AgentSettings) (ledger : Ledger) : Prop where
  configured : ledger.moment.agent.settings = settings
  owned : ∀ {id scheduled}, ledger.moment.agent.publisherOrNew.owned.find? id = some scheduled →
    scheduled.resource.id = id ∧ ∃ first, ledger.published.find? id = some first ∧
      first.expiry = settings.wireExpiry ∧ Genuine first scheduled.resource
  real : ∀ {id first}, ledger.published.find? id = some first → id.isNil = false

namespace Faithful

variable {settings : AgentSettings} {ledger : Ledger}

theorem new (settings : AgentSettings) (attempts : List (Option TransportError)) :
    Faithful settings (.new settings attempts) :=
  ⟨rfl, nofun, nofun⟩

/-- Whatever happens, what an agent owns is what it published. -/
theorem after
    (faithful : Faithful settings ledger)
    {occurrence : Occurrence}
    (real : ∀ {id}, occurrence.names? = some id → id.isNil = false) :
    Faithful settings (ledger.after occurrence) := by
  obtain ⟨said, effect⟩ := ledger.moment.effect_publication occurrence
  refine ⟨effect.settings.trans faithful.configured, fun {id later} owned => ?_, ?_⟩
  · rcases effect.publisher.genuine owned with
      ⟨notNew, earlier, wasOwned, kept⟩ | ⟨accepted, offered, genuine, named⟩
    · obtain ⟨named, first, isFirst, expiry, genuine⟩ := faithful.owned wasOwned
      have stillGenuine := kept genuine
      refine ⟨?_, first, ?_, expiry, stillGenuine⟩
      · rw [stillGenuine.id, ← genuine.id, named]
      unfold Ledger.after
      dsimp only
      split
      next => exact isFirst
      next resource isPublished =>
        rw [isPublished] at notNew
        have different : id ≠ resource.id := fun isNew =>
          notNew (isNew ▸ List.mem_singleton_self resource.id)
        rw [Table.find?_insert, if_neg different]
        exact isFirst
    · refine ⟨named, later.resource, ?_, ?_, genuine⟩
      · unfold Ledger.after
        dsimp only
        split
        next none =>
          rw [none] at accepted
          cases accepted
        next resource isPublished =>
          rw [Moment.eq_of_offered offered isPublished, named, Table.find?_insert, if_pos rfl]
      · obtain ⟨_, _, _, _, _, _, _, isNew⟩ := offered
        rw [isNew, ← faithful.configured]
        rfl
  · intro id first isFirst
    unfold Ledger.after at isFirst
    dsimp only at isFirst
    split at isFirst
    next => exact faithful.real isFirst
    next resource isPublished =>
      rw [Table.find?_insert] at isFirst
      split at isFirst
      next isNew => exact real (isNew ▸ Moment.names?_of_publication? isPublished)
      next => exact faithful.real isFirst

end Faithful

/-- A resource that is owned, and is what was published under its identifier. -/
structure Offers (settings : AgentSettings) (ledger : Ledger) (resource : LocalResource) :
    Prop where
  owned : resource ∈ ledger.moment.agent.localResources
  real : resource.id.isNil = false
  published : ∃ first, ledger.published.find? resource.id = some first ∧
    resource.category = first.category ∧ resource.connection = first.connection
  expiry : resource.expiry.toInt = min settings.resourceExpiry.toNat 0x7FFFFFFF

/--
What is sent is true: it asks everyone for a category that is watched, tells of a
resource as it is now, or bids farewell to one that was published.
-/
inductive Truthful (settings : AgentSettings) (ledger : Ledger) : Outgoing → Prop where
  | query
      {id : Nat}
      {known : Subscription}
      (found : ledger.moment.agent.subscription? id = some known)
      (isOpen : known.disposed = false)
      {payload : Bytes}
      (read : Wire.Message.decode payload = .ok (.query known.category)) :
      Truthful settings ledger (.broadcast .nil payload)
  | hello
      {resource : LocalResource}
      (offers : Offers settings ledger resource)
      {payload : Bytes}
      (read : Wire.Message.decode payload = .ok (.hello resource.announcement)) :
      Truthful settings ledger (.broadcast resource.id payload)
  | reply
      {resource : LocalResource}
      (offers : Offers settings ledger resource)
      (origin : Origin)
      {payload : Bytes}
      (read : Wire.Message.decode payload = .ok (.reply resource.announcement)) :
      Truthful settings ledger (.reply origin resource.id payload)
  | byeBye
      {id : ResourceId}
      (published : (ledger.published.find? id).isSome)
      {payload : Bytes}
      (read : Wire.Message.decode payload = .ok .byeBye) :
      Truthful settings ledger (.broadcast id payload)

namespace Faithful

variable {settings : AgentSettings} {ledger : Ledger}

/-- What is owned is offered, and others accept its announcement. -/
theorem offers
    (faithful : Faithful settings ledger)
    {id : ResourceId}
    {scheduled : Scheduled}
    (owned : ledger.moment.agent.publisherOrNew.owned.find? id = some scheduled) :
    Offers settings ledger scheduled.resource ∧
      scheduled.resource.announcement.validate = .ok () := by
  obtain ⟨named, first, isFirst, isExpiry, genuine⟩ := faithful.owned owned
  have expiry : scheduled.resource.expiry.toInt =
      min settings.resourceExpiry.toNat 0x7FFFFFFF := by
    rw [genuine.expiry, isExpiry, settings.toInt_wireExpiry]
  refine ⟨⟨?_, ?_, ⟨first, ?_, genuine.category, genuine.connection⟩, expiry⟩,
    Publisher.validate_announcement genuine.valid (by rw [expiry]; omega)⟩
  · exact Agent.mem_localResources owned
  · rw [named]
    exact faithful.real isFirst
  · rw [named, isFirst]

/-- Whatever is sent when something happens is true afterwards. -/
theorem truthful
    (faithful : Faithful settings ledger)
    {occurrence : Occurrence}
    (real : ∀ {id}, occurrence.names? = some id → id.isNil = false) :
    ∃ more, (ledger.after occurrence).moment.outputs = ledger.moment.outputs ++ more ∧
      ∀ {outgoing}, .sent outgoing ∈ more →
        Truthful settings (ledger.after occurrence) outgoing := by
  have faithfulAfter := faithful.after real
  obtain ⟨said, effect⟩ := ledger.moment.effect_publication occurrence
  obtain ⟨more, outputs, follows⟩ := effect.outputs
  refine ⟨more, outputs, fun {outgoing} sent => ?_⟩
  rcases (follows _ sent).sent with isSaid | ⟨_, category, ⟨_, id, asked⟩, rfl⟩
  · cases effect.publisher.spoken isSaid with
    | hello owned =>
        obtain ⟨offers, valid⟩ := faithfulAfter.offers owned
        exact .hello offers (@Wire.Message.decode_encode (.hello _) valid)
    | answer owned origin =>
        obtain ⟨offers, valid⟩ := faithfulAfter.offers owned
        exact .reply offers origin (@Wire.Message.decode_encode (.reply _) valid)
    | byeBye _ owned =>
        obtain ⟨named, first, isFirst, _⟩ := faithful.owned owned
        refine .byeBye (isSome_after ?_ occurrence)
          (@Wire.Message.decode_encode .byeBye rfl)
        rw [named, isFirst]
        rfl
  · obtain ⟨valid, known, found, rfl, isOpen⟩ := Subscriber.watches_of_subscribe asked
    have isFound : (ledger.after occurrence).moment.agent.subscription? id = some known :=
      (Agent.subscription?_eq _ _).trans found
    exact .query isFound isOpen
      (@Wire.Message.decode_encode (.query _) valid)

/-- No identifier that names nothing is used in the course of a run. -/
theorem run
    (faithful : Faithful settings ledger)
    {occurrences : List Occurrence}
    (real : ∀ occurrence ∈ occurrences, ∀ {id}, occurrence.names? = some id → id.isNil = false) :
    Faithful settings (occurrences.foldl Ledger.after ledger) :=
  List.foldlRecOn occurrences Ledger.after faithful
    fun _ faithful occurrence member => faithful.after (real occurrence member)

end Faithful

theorem moment_run (ledger : Ledger) (occurrences : List Occurrence) :
    (occurrences.foldl after ledger).moment = occurrences.foldl Moment.after ledger.moment := by
  induction occurrences generalizing ledger with
  | nil => rfl
  | cons occurrence _ inductionHypothesis => exact inductionHypothesis (ledger.after occurrence)

/--
Whatever an agent sends in the course of a run can be read and is true at the
moment when it is sent, as long as the resources that are published have
identifiers that name something.  The calls of an agent, and whatever callbacks
do during them, make up such a run.
-/
theorem truthful_of_sent (settings : AgentSettings) (attempts : List (Option TransportError)) :
    (∀ {occurrences : List Occurrence} {occurrence : Occurrence},
      (∀ other ∈ occurrences ++ [occurrence], ∀ {id}, other.names? = some id →
        id.isNil = false) →
      ∃ more,
        ((occurrences ++ [occurrence]).foldl after (.new settings attempts)).moment.outputs =
          (occurrences.foldl after (.new settings attempts)).moment.outputs ++ more ∧
        ∀ {outgoing}, .sent outgoing ∈ more →
          Truthful settings ((occurrences ++ [occurrence]).foldl after (.new settings attempts))
            outgoing) ∧
      ∀ calls : List Call, ∃ (occurrences : List Occurrence) (published : List ResourceId),
        (occurrences.foldl after (.new settings attempts)).moment =
          ⟨(calls.foldl Tenancy.call (.new settings attempts)).progress, [], published⟩ := by
  constructor
  · intro occurrences occurrence real
    have faithful := (Faithful.new settings attempts).run fun other member =>
      real other (List.mem_append_left _ member)
    rw [List.foldl_append]
    exact faithful.truthful
      (real occurrence (List.mem_append_right _ (List.mem_singleton_self _)))
  · intro calls
    obtain ⟨published, occurrences, reached⟩ :=
      Moment.Leads.calls calls (.new settings attempts) []
    exact ⟨occurrences, published, (moment_run _ occurrences).trans reached⟩

/-- An expiry that the wire cannot state is announced as the greatest that it can. -/
theorem truthful_of_sent_answered :
    let id : ResourceId := ⟨List.replicate 16 1, List.length_replicate⟩
    let query : Wire.Message := .query "Room"
    let occurrences : List Occurrence :=
      [.errand (.publish 0 id "Room" "here" ∅), .errand (.announce 0)]
    let asked : Occurrence := .errand (.receive 1 ⟨.nil, query.encode, .endpoint 1⟩)
    let answer : Outgoing :=
      .reply (.endpoint 1) id (Wire.Message.reply ⟨"Room", "here", 2147483647, ∅⟩).encode
    let last := (occurrences ++ [asked]).foldl after (.new ⟨0xFFFFFFFF, 50⟩ [])
    last.moment.outputs =
        (occurrences.foldl after (.new ⟨0xFFFFFFFF, 50⟩ [])).moment.outputs ++ [.sent answer] ∧
      Truthful ⟨0xFFFFFFFF, 50⟩ last answer := by
  intro id query occurrences asked answer last
  have real : ∀ other ∈ occurrences ++ [asked], ∀ {id}, other.names? = some id →
      id.isNil = false := by
    rintro other member id named
    simp only [occurrences, List.cons_append, List.nil_append, List.mem_cons, List.not_mem_nil,
      or_false] at member
    rcases member with rfl | rfl | rfl
    · cases named
      rfl
    · cases named
    · cases named
  obtain ⟨more, outputs, truthful⟩ := (truthful_of_sent ⟨0xFFFFFFFF, 50⟩ []).1 real
  have answered : last.moment.outputs =
      (occurrences.foldl after (.new ⟨0xFFFFFFFF, 50⟩ [])).moment.outputs ++ [.sent answer] := by
    decide +kernel
  cases List.append_cancel_left (outputs.symm.trans answered)
  exact ⟨answered, truthful (List.mem_singleton_self _)⟩

end Ledger

end Discovery
