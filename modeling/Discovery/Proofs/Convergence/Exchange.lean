import Discovery.Proofs.Agent.Reading
import Discovery.Proofs.Agent.Truth
import Discovery.Proofs.Convergence.View
import Discovery.Proofs.Publisher.Punctuality
import Discovery.Simulation.World
import Mathlib.Logic.Relation

namespace Discovery

/-!
# Announcements on their way

An `Exchange` is an agent that announces a resource, another agent, and the
announcements that are on their way from one to the other.  Anything may happen
to either of them at any time; what the environment has to do is stated by the
steps of an exchange.  Timers are looked after before time passes.  An announcement
to everyone arrives at the instant at which it is sent or is lost, and no two in
a row are lost.  Nobody else sends on the stream of the resource, but whatever was
sent on it may arrive late, once more or from elsewhere.
-/

/-- The stream on which something leaves. -/
def Outgoing.stream : Outgoing → StreamId
  | .broadcast stream _ | .reply _ stream _ => stream

/--
What becomes of the announcements of a resource to everyone that are among some
outputs, after an announcement that was lost or not.  Each one arrives or is
lost, but not two in a row.
-/
inductive Passage (id : ResourceId) : Bool → List Output → List Bytes → Bool → Prop where
  | done (lost : Bool) : Passage id lost [] [] lost
  | other
      {before after : Bool}
      {output : Output}
      {outputs : List Output}
      {arriving : List Bytes}
      (other : ∀ payload, output ≠ .sent (.broadcast id payload))
      (rest : Passage id before outputs arriving after) :
      Passage id before (output :: outputs) arriving after
  | arrives
      {before after : Bool}
      (payload : Bytes)
      {outputs : List Output}
      {arriving : List Bytes}
      (rest : Passage id false outputs arriving after) :
      Passage id before (.sent (.broadcast id payload) :: outputs) (payload :: arriving) after
  | lost
      {after : Bool}
      (payload : Bytes)
      {outputs : List Output}
      {arriving : List Bytes}
      (rest : Passage id true outputs arriving after) :
      Passage id false (.sent (.broadcast id payload) :: outputs) arriving after

namespace Passage

variable {id : ResourceId} {before after : Bool} {outputs : List Output} {arriving : List Bytes}

/-- Nothing arrives but what was sent. -/
theorem sent_of_mem
    (passage : Passage id before outputs arriving after)
    {payload : Bytes}
    (arrives : payload ∈ arriving) :
    .sent (.broadcast id payload) ∈ outputs := by
  induction passage with
  | done => cases arrives
  | other _ _ inductionHypothesis | lost _ _ inductionHypothesis =>
      exact List.mem_cons_of_mem _ (inductionHypothesis arrives)
  | arrives first _ inductionHypothesis =>
      rcases List.mem_cons.mp arrives with rfl | inRest
      · exact List.mem_cons_self
      · exact List.mem_cons_of_mem _ (inductionHypothesis inRest)

/-- If nothing arrives, nothing was announced, or the only announcement was lost. -/
theorem nothing_arrives (passage : Passage id before outputs [] after) :
    (∀ payload, .sent (.broadcast id payload) ∉ outputs) ∧ after = before ∨
      before = false ∧ after = true := by
  generalize isNil : ([] : List Bytes) = arriving at passage
  induction passage with
  | done => exact .inl ⟨fun _ => List.not_mem_nil, rfl⟩
  | other other _ inductionHypothesis =>
      rcases inductionHypothesis isNil with ⟨silent, same⟩ | lost
      · refine .inl ⟨fun payload member => ?_, same⟩
        exact (List.mem_cons.mp member).elim (fun isFirst => other payload isFirst.symm)
          (silent payload)
      · exact .inr lost
  | arrives => cases isNil
  | lost _ _ inductionHypothesis =>
      rcases inductionHypothesis isNil with ⟨_, same⟩ | ⟨impossible, _⟩
      · exact .inr ⟨rfl, same⟩
      · cases impossible

end Passage

/-- An agent that announces a resource, another one, and what is on its way between them. -/
structure Exchange where
  now : Instant
  owner : Moment
  reader : Moment
  /-- The announcements that arrive at this instant, in the order in which they were sent. -/
  arriving : List Bytes
  /-- Whether the last announcement was lost. -/
  lost : Bool
  deriving Repr

namespace Exchange

/-- Nothing is on its way yet. -/
def new (now : Instant) (owner reader : Moment) : Exchange :=
  ⟨now, owner, reader, [], false⟩

/-- The reader receives a payload on a stream. -/
def hear (exchange : Exchange) (id : ResourceId) (payload : Bytes) (origin : Origin) : Exchange :=
  { exchange with
    reader := exchange.reader.after (.errand (.receive exchange.now ⟨id, payload, origin⟩)) }

/-- What may happen in an exchange about a resource. -/
inductive Step (id : ResourceId) (exchange : Exchange) : Exchange → Prop where
  /-- Something happens to the owner, which is not disposed; what it publishes is new. -/
  | act
      {occurrence : Occurrence}
      (timely : ∀ {instant}, (exchange.owner.occasion occurrence).timely instant →
        instant = exchange.now)
      (running : occurrence ≠ .dispose)
      (fresh : ∀ {named}, occurrence.names? = some named →
        named.isNil = false ∧ named ∉ exchange.owner.published)
      {arriving : List Bytes}
      {lost : Bool}
      (passage : Passage id exchange.lost
        ((exchange.owner.after occurrence).outputs.drop exchange.owner.outputs.length)
        arriving lost) :
      Step id exchange
        { exchange with
          owner := exchange.owner.after occurrence
          arriving := exchange.arriving ++ arriving
          lost := lost }
  /-- An announcement arrives. -/
  | arrive
      {payload : Bytes}
      {rest : List Bytes}
      (arrives : exchange.arriving = payload :: rest)
      (origin : Origin) :
      Step id exchange { exchange.hear id payload origin with arriving := rest }
  /-- What the owner has sent on the stream arrives some other way, or once more. -/
  | stray
      {outgoing : Outgoing}
      (sent : .sent outgoing ∈ exchange.owner.outputs)
      (onStream : outgoing.stream = id)
      (origin : Origin) :
      Step id exchange (exchange.hear id outgoing.payload origin)
  /-- Something happens to the reader that has nothing to do with the stream. -/
  | attend
      {occurrence : Occurrence}
      (timely : ∀ {instant}, (exchange.reader.occasion occurrence).timely instant →
        instant = exchange.now)
      (elsewhere : ¬ (exchange.reader.occasion occurrence).heard id) :
      Step id exchange { exchange with reader := exchange.reader.after occurrence }
  /-- Time passes while the owner has nothing to announce, and not beyond its next deadline. -/
  | wait
      (arrived : exchange.arriving = [])
      (atRest : exchange.owner.agent.announceReady exchange.now = false)
      {later : Instant}
      (after : exchange.now ≤ later)
      (wakes : ∀ {publisher instant}, exchange.owner.agent.publisher = some publisher →
        publisher.timer.waitsFor? = some instant → later ≤ Simulation.World.tick instant) :
      Step id exchange { exchange with now := later }

/-- One exchange may become another in the course of time. -/
def Leads (id : ResourceId) : Exchange → Exchange → Prop :=
  Relation.ReflTransGen (Step id)

end Exchange

/-- A payload announces what a publisher owns, but for its attributes. -/
def Publisher.Announces (publisher : Publisher) (id : ResourceId) (payload : Bytes) : Prop :=
  ∃ scheduled announcement, publisher.owned.find? id = some scheduled ∧
    (∀ origin, (⟨id, payload, origin⟩ : Delivery).word? = some (id, some announcement)) ∧
    announcement.category = scheduled.resource.category ∧
    announcement.expiry = scheduled.resource.expiry

namespace Outgoing.Tells

variable {outgoing : Outgoing} {id : ResourceId} {said : Option Wire.Announcement}

/-- What is said of a resource is said on its stream, wherever it seems to come from. -/
theorem word
    (tells : outgoing.Tells id said)
    (origin : Origin) :
    (⟨outgoing.stream, outgoing.payload, origin⟩ : Delivery).word? = some (id, said) := by
  rw [← tells 0]
  cases outgoing <;> rfl

theorem stream (tells : outgoing.Tells id said) : outgoing.stream = id := by
  have word := tells.word (.endpoint 0)
  unfold Delivery.word? at word
  split at word <;> cases word <;> rfl

end Outgoing.Tells

/-- A reader hears what a payload says. -/
theorem Progress.subscriberOrNew_receive
    (progress : Progress)
    (now : Instant)
    {delivery : Delivery}
    {id : ResourceId}
    {announcement : Wire.Announcement}
    (word : delivery.word? = some (id, some announcement)) :
    (progress.receive now delivery).agent.subscriberOrNew =
      progress.agent.subscriberOrNew.hear now id announcement := by
  have nobody : Subscriber.new.hear now id announcement = .new := by
    unfold Subscriber.hear
    split <;> rfl
  have heard : ∀ {next : Progress},
      (progress.agent.subscriber = none → next = progress) →
      (∀ {subscriber}, progress.agent.subscriber = some subscriber →
        next = progress.enterSubscriber (subscriber.hear now id announcement)) →
      next.agent.subscriberOrNew = progress.agent.subscriberOrNew.hear now id announcement := by
    intro next ignored entered
    unfold Agent.subscriberOrNew
    cases known : progress.agent.subscriber with
    | none =>
        rw [ignored known, known]
        exact nobody.symm
    | some subscriber =>
        rw [entered known]
        rfl
  unfold Delivery.word? at word
  unfold Progress.receive
  split at word
  next decoded =>
    cases word
    rw [decoded]
    exact heard (fun known => by rw [known]) fun known => by rw [known]
  next decoded =>
    cases word
    rw [decoded]
    exact heard (fun known => by rw [known]) fun known => by rw [known]
  next => cases word
  next => cases word
  next => cases word

/-- What an owner that is not disposed does at an instant, as far as one resource is concerned. -/
structure Moment.Acts (now : Instant) (id : ResourceId) (before after : Moment) : Prop where
  punctual : after.agent.publisherOrNew.Punctual now
  remains : ∀ {scheduled}, before.agent.publisherOrNew.owned.find? id = some scheduled →
    ∃ later, after.agent.publisherOrNew.owned.find? id = some later ∧
      later.resource.category = scheduled.resource.category ∧
      later.resource.expiry = scheduled.resource.expiry
  told : ∀ {outgoing}, .sent outgoing ∈ after.outputs → outgoing.stream = id →
    .sent outgoing ∈ before.outputs ∨ after.agent.publisherOrNew.Announces id outgoing.payload
  /-- A resource is the same, and due at the same time, unless it is announced to everyone. -/
  silent : (∀ payload, .sent (.broadcast id payload) ∉ after.outputs.drop before.outputs.length) →
    (before.agent.publisherOrNew.owned.find? id).isSome →
      after.agent.publisherOrNew.owned.find? id = before.agent.publisherOrNew.owned.find? id

namespace Moment.InService

variable {moment : Moment} {now : Instant}

/-- Nothing that has been published can be published anew. -/
theorem welcomes
    (inService : moment.InService)
    (sound : moment.agent.publisherOrNew.Sound now)
    (lasting : 1 ≤ moment.agent.settings.resourceExpiry.toNat)
    {occurrence : Occurrence}
    (fresh : ∀ {named}, occurrence.names? = some named →
      named.isNil = false ∧ named ∉ moment.published)
    {resource : LocalResource}
    (offered : (moment.occasion occurrence).offered resource) :
    moment.agent.publisherOrNew.Welcomes resource := by
  obtain ⟨_, _, id, _, _, _, rfl, rfl⟩ := offered
  obtain ⟨real, notPublished⟩ := fresh rfl
  refine ⟨real, AgentSettings.one_le_wireExpiry lasting, ?_⟩
  change moment.agent.publisherOrNew.resource? id = none
  have notOwned : moment.agent.publisherOrNew.owned.find? id = none := by
    rw [← Option.not_isSome_iff_eq_none]
    exact fun owned => notPublished (inService.holds.owned.mp owned)
  rw [Publisher.resource?_eq, notOwned, sound.inService inService.holds.running,
    Table.find?_empty, Option.map_none, Option.none_or]

/-- Whatever happens to an owner other than its disposal, it does its part. -/
theorem acts
    (inService : moment.InService)
    (punctual : moment.agent.publisherOrNew.Punctual now)
    (lasting : 1 ≤ moment.agent.settings.resourceExpiry.toNat)
    {occurrence : Occurrence}
    (timely : ∀ {instant}, (moment.occasion occurrence).timely instant → instant = now)
    (running : occurrence ≠ .dispose)
    (fresh : ∀ {named}, occurrence.names? = some named →
      named.isNil = false ∧ named ∉ moment.published)
    {id : ResourceId}
    (real : id.isNil = false) :
    Acts now id moment (moment.after occurrence) := by
  obtain ⟨said, accepted, effect, _⟩ := moment.effect_after occurrence
  have calm : ¬ (moment.occasion occurrence).stopping := running
  have step := effect.publisher
  obtain ⟨_, utterance⟩ := step.utterance punctual.toSound timely
    (inService.welcomes punctual.toSound lasting fresh)
  have notStopped := (step.holds calm inService.holds).running
  refine ⟨punctual.step step timely utterance, step.remains calm inService.holds utterance, ?_, ?_⟩
  · intro outgoing sent onStream
    obtain ⟨more, outputs, follows⟩ := effect.outputs
    rw [show (moment.after occurrence).outputs = _ from outputs] at sent
    refine (List.mem_append.mp sent).imp_right fun isMore => ?_
    rcases (follows _ isMore).sent with isSaid | ⟨_, category, _, rfl⟩
    · obtain ⟨about, known, tells⟩ := utterance.truthful isSaid
      rw [tells.stream] at onStream
      subst onStream
      rw [Publisher.resource?_eq, utterance.sound.inService notStopped, Table.find?_empty,
        Option.or_none, Option.isSome_map] at known
      obtain ⟨scheduled, owned⟩ := Option.isSome_iff_exists.mp known
      rw [Publisher.offers_of_owned owned] at tells
      exact ⟨scheduled, _, owned, fun origin => tells.stream ▸ tells.word origin, rfl, rfl⟩
    · rw [← onStream] at real
      cases real
  · intro nothing known
    refine Decidable.byContradiction fun different => ?_
    obtain ⟨scheduled, owned⟩ := Option.isSome_iff_exists.mp known
    have spokenOf : (moment.agent.publisherOrNew.resource? id).isSome := by
      rw [Publisher.resource?_of_owned owned]
      rfl
    obtain ⟨outgoing, isSaid, isBroadcast, _, tells⟩ := utterance.outspoken spokenOf different
    have sent := effect.spoken outgoing isSaid
    cases outgoing with
    | reply => cases isBroadcast
    | broadcast stream payload =>
        have onStream : stream = id := tells.stream
        exact nothing payload (onStream ▸ sent)

end Moment.InService

end Discovery
