import Discovery.Proofs.Agent.Occasion
import Discovery.Proofs.Publisher.Utterance

namespace Discovery

/-!
# One step of a publisher

Between two moments an agent does one thing to its publisher.  `Publisher.Step`
lists what it may be, with what is said in it and which resources it accepts.
Until the publisher stops it owns exactly what it has accepted and says no
bye-bye; then it says one for each of its resources, and nothing afterwards.
-/

namespace Outgoing

/-- What is sent. -/
def payload : Outgoing → Bytes
  | .broadcast _ payload | .reply _ _ payload => payload

/-- Whether others read it as a bye-bye. -/
def IsFarewell (outgoing : Outgoing) : Prop :=
  Wire.Message.decode outgoing.payload = .ok .byeBye

/-- Only a bye-bye is read as one. -/
theorem isFarewell_of_encode
    {outgoing : Outgoing}
    {message : Wire.Message}
    (payload : outgoing.payload = message.encode)
    (farewell : outgoing.IsFarewell) :
    message = .byeBye := by
  rw [IsFarewell, payload] at farewell
  exact (Wire.Message.eq_of_decode_encode farewell).symm

end Outgoing

namespace Publisher

/--
What becomes of a publisher in one step, with what it says and what it accepts.
It withdraws its resources only when the agent stops.
-/
inductive Step
    (occasion : Occasion)
    (publisher : Publisher) : List Outgoing → List ResourceId → Publisher → Prop where
  | rest : Step occasion publisher [] [] publisher
  | publish
      {now : Instant}
      (timely : occasion.timely now)
      {resource : LocalResource}
      (offered : occasion.offered resource)
      {next : Publisher}
      (published : publisher.publish now resource = .ok next) :
      Step occasion publisher [] [resource.id] next
  | turn {now : Instant} (timely : occasion.timely now) :
      Step occasion publisher (publisher.turn now).1 [] (publisher.turn now).2
  | answer (origin : Origin) (category : String) :
      Step occasion publisher (publisher.answer origin category) [] publisher
  | commit
      {now : Instant}
      (timely : occasion.timely now)
      {editor : Editor}
      {outgoing : List Outgoing}
      {next : Publisher}
      (committed : publisher.commit now editor = .ok (outgoing, next)) :
      Step occasion publisher outgoing [] next
  | stop (due : occasion.stopping) :
      Step occasion publisher publisher.stop.1 [] publisher.stop.2
  | shuffle (front : List ResourceId) :
      Step occasion publisher [] [] { publisher with front := front }

/-- A publisher in service owns exactly what it has accepted. -/
structure Holds (accepted : List ResourceId) (publisher : Publisher) : Prop where
  running : publisher.stopped = false
  named : ∀ {id scheduled}, publisher.owned.find? id = some scheduled →
    scheduled.resource.id = id
  owned : ∀ {id}, (publisher.owned.find? id).isSome ↔ id ∈ accepted

section Kept

variable {publisher : Publisher}

/-- Nothing new is accepted, and what is owned keeps its name. -/
theorem Holds.keep
    {accepted : List ResourceId}
    (holds : publisher.Holds accepted)
    {next : Publisher}
    (running : next.stopped = publisher.stopped)
    (same : ∀ id, (next.owned.find? id).map (fun scheduled => scheduled.resource.id) =
      (publisher.owned.find? id).map fun scheduled => scheduled.resource.id) :
    next.Holds accepted := by
  refine ⟨running.trans holds.running, fun {id scheduled} owned => ?_, fun {id} => ?_⟩
  · have before := same id
    rw [owned, Option.map_some] at before
    obtain ⟨earlier, wasOwned, sameId⟩ := Option.map_eq_some_iff.mp before.symm
    rw [← sameId, holds.named wasOwned]
  · have before := congrArg Option.isSome (same id)
    rw [Option.isSome_map, Option.isSome_map] at before
    rw [before]
    exact holds.owned

/-- A resource is changed by an edit that takes effect, and all the others stay as they are. -/
structure Edited
    (editor : Editor)
    (publisher next : Publisher)
    (scheduled : Scheduled)
    (edited : LocalResource) : Prop where
  before : publisher.owned.find? editor.resource = some scheduled
  success : scheduled.resource.edit editor.baseline editor.changes = .ok edited
  resources : ∀ id, (next.owned.find? id).map Scheduled.resource =
    if id = editor.resource then some edited
    else (publisher.owned.find? id).map Scheduled.resource
  stopped : next.stopped = publisher.stopped
  withdrawn : next.withdrawn = publisher.withdrawn

/-- A commit that succeeds says what has become of the resource. -/
theorem edited_commit
    {now : Instant}
    {editor : Editor}
    {outgoing : List Outgoing}
    {next : Publisher}
    (committed : publisher.commit now editor = .ok (outgoing, next)) :
    ∃ scheduled edited, outgoing = [hello edited] ∧
      Edited editor publisher next scheduled edited := by
  obtain ⟨scheduled, edited, _, owned, success, rfl, rfl, rfl⟩ := commit_cases committed
  obtain ⟨withdrawn, stopped, _⟩ :=
    reschedule_keeps (publisher.amend editor.resource { scheduled with resource := edited })
      editor.resource now
  refine ⟨scheduled, edited, rfl, owned, success, fun id => ?_, stopped, withdrawn⟩
  rw [find?_owned_reschedule, find?_owned_amend, if_pos rfl]
  split
  next => rw [Option.map_some, Option.map_some, Scheduled.resource_announcedAt]
  next notId => rw [find?_owned_amend, if_neg notId]

section Edited

variable {editor : Editor} {next : Publisher} {scheduled : Scheduled} {edited : LocalResource}

theorem Edited.owned (isEdited : Edited editor publisher next scheduled edited) :
    ∃ later, next.owned.find? editor.resource = some later ∧ later.resource = edited := by
  have resources := isEdited.resources editor.resource
  rwa [if_pos rfl, Option.map_eq_some_iff] at resources

/-- Each resource keeps its name. -/
theorem Edited.id
    (isEdited : Edited editor publisher next scheduled edited)
    (sought : ResourceId) :
    (next.owned.find? sought).map (fun scheduled => scheduled.resource.id) =
      (publisher.owned.find? sought).map fun scheduled => scheduled.resource.id := by
  have same := congrArg (Option.map LocalResource.id) (isEdited.resources sought)
  rw [Option.map_map] at same
  refine same.trans ?_
  split
  next isEditor =>
    rw [isEditor, isEdited.before, Option.map_some, Option.map_some, (edit_ok isEdited.success).1]
  next => rw [Option.map_map]; rfl

end Edited

end Kept

/--
What a publisher may say when something becomes of it: it speaks of what it owns
afterwards, or bids farewell to what it owned when the agent stops.
-/
inductive Says (stopping : Prop) (before after : Publisher) : Outgoing → Prop where
  | hello {id : ResourceId} {scheduled : Scheduled}
      (owned : after.owned.find? id = some scheduled) :
      Says stopping before after (hello scheduled.resource)
  | answer {id : ResourceId} {scheduled : Scheduled}
      (owned : after.owned.find? id = some scheduled)
      (origin : Origin) :
      Says stopping before after (answerTo origin scheduled.resource)
  | byeBye {id : ResourceId} {scheduled : Scheduled}
      (due : stopping)
      (owned : before.owned.find? id = some scheduled) :
      Says stopping before after (byeBye scheduled.resource)

namespace Step

variable {occasion : Occasion} {publisher next : Publisher}
variable {said : List Outgoing} {more accepted : List ResourceId}

/-- What is published is owned, and what is owned stays so. -/
theorem holds
    (step : publisher.Step occasion said more next)
    (calm : ¬ occasion.stopping)
    (holds : publisher.Holds accepted) :
    next.Holds (accepted ++ more) := by
  have kept : ∀ {next : Publisher}, next.Holds accepted → next.Holds (accepted ++ []) :=
    fun holds => (List.append_nil accepted).symm ▸ holds
  cases step with
  | rest => exact kept holds
  | @publish now _ resource _ _ published =>
      have owned := find?_owned_publish published
      have running : next.stopped = publisher.stopped := by
        obtain ⟨_, _, rfl⟩ := publish_cases published
        rfl
      refine ⟨running.trans holds.running, fun {id scheduled} isOwned => ?_, fun {id} => ?_⟩
      · rw [owned] at isOwned
        split at isOwned
        next isNew =>
          cases isOwned
          exact isNew.symm
        next => exact holds.named isOwned
      · rw [owned, List.mem_append, List.mem_singleton, ← holds.owned]
        split
        next isNew => exact iff_of_true rfl (.inr isNew)
        next notNew => exact (or_iff_left notNew).symm
  | @turn now _ =>
      refine kept (holds.keep (publisher.turn_keeps now).2 fun id => ?_)
      have same := congrArg (Option.map LocalResource.id) (resource_owned_turn publisher now id)
      rwa [Option.map_map, Option.map_map] at same
  | answer => exact kept holds
  | commit _ committed =>
      obtain ⟨_, _, _, isEdited⟩ := edited_commit committed
      exact kept (holds.keep isEdited.stopped isEdited.id)
  | stop due => exact absurd due calm
  | shuffle => exact kept ⟨holds.running, holds.named, holds.owned⟩

/-- Whatever is said is of a resource that is owned. -/
theorem spoken
    (step : publisher.Step occasion said more next)
    {outgoing : Outgoing}
    (isSaid : outgoing ∈ said) :
    Says occasion.stopping publisher next outgoing := by
  cases step with
  | rest | publish | shuffle => cases isSaid
  | @turn now _ =>
      rcases publisher.turn_cases now with ⟨_, same⟩ | ⟨_, same⟩ <;> rw [same] at isSaid ⊢
      · cases isSaid
      · obtain ⟨resource, isDue, rfl⟩ := List.mem_map.mp isSaid
        obtain ⟨id, _, found⟩ := List.mem_filterMap.mp isDue
        obtain ⟨scheduled, owned, rfl⟩ := Option.map_eq_some_iff.mp found
        exact .hello owned
  | answer origin category =>
      obtain ⟨resource, isAsked, rfl⟩ := List.mem_map.mp isSaid
      obtain ⟨id, scheduled, owned, rfl⟩ := mem_resources.mp (List.mem_filter.mp isAsked).1
      exact .answer owned origin
  | commit _ committed =>
      obtain ⟨_, edited, rfl, isEdited⟩ := edited_commit committed
      obtain ⟨scheduled, owned, rfl⟩ := isEdited.owned
      rw [List.mem_singleton.mp isSaid]
      exact .hello owned
  | stop due =>
      unfold Publisher.stop at isSaid
      split at isSaid
      next => cases isSaid
      next =>
        obtain ⟨resource, listed, rfl⟩ := List.mem_map.mp isSaid
        obtain ⟨id, scheduled, owned, rfl⟩ := mem_resources.mp listed
        exact .byeBye due owned

/-- Until it stops, a publisher says no bye-bye. -/
theorem not_isFarewell
    (step : publisher.Step occasion said more next)
    (calm : ¬ occasion.stopping)
    {outgoing : Outgoing}
    (isSaid : outgoing ∈ said) :
    ¬ outgoing.IsFarewell := by
  intro farewell
  cases step.spoken isSaid with
  | @hello _ scheduled _ =>
      cases Outgoing.isFarewell_of_encode (show (Publisher.hello scheduled.resource).payload =
        (Wire.Message.hello scheduled.resource.announcement).encode from rfl) farewell
  | @answer _ scheduled _ origin =>
      cases Outgoing.isFarewell_of_encode (show (answerTo origin scheduled.resource).payload =
        (Wire.Message.reply scheduled.resource.announcement).encode from rfl) farewell
  | byeBye due => exact calm due

/-- A publisher that owns nothing says nothing, and owns nothing unless it accepts something. -/
theorem silent
    (step : publisher.Step occasion said [] next)
    (nothing : publisher.owned = ∅) :
    said = [] ∧ next.owned = ∅ := by
  have still : next.owned = ∅ := by
    generalize isNone : ([] : List ResourceId) = none at step
    cases step with
    | rest | answer | shuffle => exact nothing
    | publish => cases isNone
    | @turn now _ =>
        apply Table.ext_find?
        intro id
        have same := resource_owned_turn publisher now id
        rw [nothing] at same
        exact Option.map_eq_none_iff.mp same
    | commit _ committed =>
        obtain ⟨_, _, _, isEdited⟩ := edited_commit committed
        have owned := isEdited.before
        rw [nothing] at owned
        cases owned
    | stop =>
        unfold Publisher.stop
        split
        next => exact nothing
        next => rfl
  refine ⟨List.eq_nil_iff_forall_not_mem.mpr fun outgoing isSaid => ?_, still⟩
  cases step.spoken isSaid with
  | hello owned | answer owned =>
      rw [still] at owned
      cases owned
  | byeBye _ owned =>
      rw [nothing] at owned
      cases owned

end Step

/-- When it stops, a publisher says one bye-bye for each of its resources. -/
theorem stop_of_holds
    {publisher : Publisher}
    {accepted : List ResourceId}
    (holds : publisher.Holds accepted) :
    publisher.stop.1 =
        (publisher.owned.shuffledKeys publisher.front).map
          (fun id => .broadcast id Wire.Message.byeBye.encode) ∧
      publisher.stop.2.owned = ∅ := by
  rw [stop, holds.running, if_neg Bool.false_ne_true]
  refine ⟨?_, rfl⟩
  simp only [Publisher.resources, Table.shuffledValues, Table.shuffledKeys, List.map_map]
  refine List.map_congr_left fun entry listed => ?_
  have named := holds.named (Table.find?_eq_some_iff.mpr (Table.mem_shuffled.mp listed))
  simp only [Function.comp, byeBye, named]

end Publisher

end Discovery
