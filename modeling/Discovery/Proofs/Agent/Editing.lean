import Discovery.Proofs.Agent.Farewell
import Discovery.Proofs.Publisher.Editing

namespace Discovery

/-!
# Editors at work

Several editors may work on the resources of an agent while everything else goes
on.  A `Workshop` is an agent at a moment with its editors, and with the edits
that took effect.  Whatever happens, a commit compares and swaps
(`Workshop.commit_swaps`): the serial number of a resource counts the edits that
took effect on it, one for each number that an edit can start from, and a commit
that is refused leaves everything as it was.
-/

namespace Progress

theorem publisher_read (progress : Progress) (id : Nat) :
    (progress.agent.read id).2.publisher = progress.agent.publisher := by
  unfold Agent.read
  split <;> rfl

/-- To obtain the publisher changes no publisher. -/
theorem publisherOrNew_obtainPublisher (progress : Progress) :
    progress.obtainPublisher.2.agent.publisherOrNew = progress.agent.publisherOrNew ∧
      ∀ {publisher}, progress.obtainPublisher.1 = .ok publisher →
        publisher = progress.agent.publisherOrNew := by
  have kept : progress.obtainPublisher.2.agent.publisherOrNew = progress.agent.publisherOrNew :=
    progress.obtainPublisher_keeps.2
  refine ⟨kept, fun obtained => ?_⟩
  rw [← kept, Agent.publisherOrNew, publisher_obtainPublisher (Prod.ext obtained rfl),
    Option.getD_some]

/-- A resource that is published is known as one that has not been edited. -/
theorem resource?_publish
    (progress : Progress)
    (now : Instant)
    (id : ResourceId)
    (category connection : String)
    (attributes : Attributes) :
    (∀ {cause}, (progress.publish now id category connection attributes).1 = .error cause →
      (progress.publish now id category connection attributes).2.agent.publisherOrNew =
        progress.agent.publisherOrNew) ∧
    ((progress.publish now id category connection attributes).1 = .ok () →
      ∃ resource : LocalResource, resource.editSerial = 0 ∧ ∀ sought,
        (progress.publish now id category connection attributes).2.agent.publisherOrNew.resource?
          sought = if sought = id then some resource
            else progress.agent.publisherOrNew.resource? sought) := by
  obtain ⟨kept, obtains⟩ := progress.publisherOrNew_obtainPublisher
  unfold publish
  generalize progress.obtainPublisher = obtained at kept obtains
  obtain ⟨_ | publisher, next⟩ := obtained
  · exact ⟨fun _ => kept, nofun⟩
  · obtain rfl := obtains rfl
    dsimp only
    cases published : progress.agent.publisherOrNew.publish now
        (.new id category connection next.agent.settings.wireExpiry attributes) with
    | error => exact ⟨fun _ => kept, nofun⟩
    | ok later => exact ⟨nofun, fun _ => ⟨_, rfl, Publisher.resource?_publish published⟩⟩

/-- What is not owned cannot be edited. -/
theorem commit_of_not_owned
    (progress : Progress)
    {editor : Editor}
    (notOwned : progress.agent.publisherOrNew.owned.find? editor.resource = none)
    (now : Instant) :
    progress.commit now editor = (.error .disposed, progress) := by
  unfold commit
  split
  next => rfl
  next publisher known =>
    rw [Agent.publisherOrNew, known, Option.getD_some] at notOwned
    rw [Publisher.commit_of_not_owned notOwned]

/-- What an agent has not published cannot be edited. -/
theorem commit_of_unknown
    (progress : Progress)
    {editor : Editor}
    (unknown : progress.agent.localResource? editor.resource = none)
    (now : Instant) :
    progress.commit now editor = (.error .disposed, progress) := by
  rw [Agent.localResource?_eq, Publisher.resource?_eq, Option.or_eq_none_iff,
    Option.map_eq_none_iff] at unknown
  exact progress.commit_of_not_owned unknown.1 now

end Progress

/--
A commit of an edit compares the serial number that the edit started from with
that of the resource, and puts the result in the place of the resource if they
are the same.
-/
structure ComparesAndSwaps
    (progress : Progress)
    (now : Instant)
    (editor : Editor)
    (resource : LocalResource) : Prop where
  succeeds : (progress.commit now editor).1 = .ok () ↔
    progress.agent.lifecycle ≠ .disposed ∧ editor.baseline = resource.editSerial ∧
      Wire.checkAttributes (editor.changes.apply resource.attributes) = .ok ()
  /-- A disposal is reported before a faster edit, and that before a result nobody could read. -/
  result : (progress.commit now editor).1 =
    if progress.agent.lifecycle = .disposed then .error .disposed
    else if editor.baseline ≠ resource.editSerial then
      .error (.staleEdit editor.baseline resource.editSerial)
    else
      (Wire.checkAttributes (editor.changes.apply resource.attributes)).mapError .unencodable
  swapped : (progress.commit now editor).1 = .ok () →
    (∀ id, (progress.commit now editor).2.agent.localResource? id =
      if id = editor.resource then some (resource.edited editor.changes)
      else progress.agent.localResource? id) ∧
    (progress.commit now editor).2.outputs = progress.outputs ++
      [.sent (.broadcast editor.resource
        (Wire.Message.hello (resource.edited editor.changes).announcement).encode)]
  /-- A commit that is refused leaves everything as it was. -/
  refused : ∀ {cause}, (progress.commit now editor).1 = .error cause →
    (progress.commit now editor).2 = progress

namespace ComparesAndSwaps

variable {progress : Progress} {editor : Editor} {resource : LocalResource}

/-- A disposed agent refuses every edit. -/
theorem of_disposed
    (disposed : progress.agent.lifecycle = .disposed)
    (nothing : progress.agent.publisherOrNew.owned = ∅)
    (now : Instant) :
    ComparesAndSwaps progress now editor resource := by
  have refuses : progress.commit now editor = (.error .disposed, progress) :=
    progress.commit_of_not_owned (by rw [nothing]; rfl) now
  refine ⟨?_, ?_, ?_, ?_⟩
  · rw [refuses]
    exact ⟨nofun, fun good => absurd disposed good.1⟩
  · rw [refuses, if_pos disposed]
  · rw [refuses]
    exact nofun
  · rw [refuses]
    exact fun _ => rfl

/-- A running agent edits what it owns. -/
theorem of_owned
    (running : progress.agent.lifecycle ≠ .disposed)
    {scheduled : Scheduled}
    (owned : progress.agent.publisherOrNew.owned.find? editor.resource = some scheduled)
    (named : scheduled.resource.id = editor.resource)
    (now : Instant) :
    ComparesAndSwaps progress now editor scheduled.resource := by
  obtain ⟨publisher, known⟩ : ∃ publisher, progress.agent.publisher = some publisher := by
    cases known : progress.agent.publisher with
    | none =>
        rw [Agent.publisherOrNew, known, Option.getD_none] at owned
        cases owned
    | some publisher => exact ⟨publisher, rfl⟩
  rw [Agent.publisherOrNew, known, Option.getD_some] at owned
  obtain ⟨next, committed, resources⟩ := Publisher.commit_of_owned owned now
  have accepted (success : scheduled.resource.verdict editor.baseline editor.changes = .ok ()) :
      progress.commit now editor = (.ok (), (progress.enterPublisher next).send
        [Publisher.hello (scheduled.resource.edited editor.changes)]) := by
    rw [Progress.commit, known]
    dsimp only
    rw [committed, success]
    rfl
  have rejected {cause : AgentError}
      (failure : scheduled.resource.verdict editor.baseline editor.changes = .error cause) :
      progress.commit now editor = (.error cause, progress) := by
    rw [Progress.commit, known]
    dsimp only
    rw [committed, failure]
    rfl
  have result : (progress.commit now editor).1 =
      scheduled.resource.verdict editor.baseline editor.changes := by
    cases verdict : scheduled.resource.verdict editor.baseline editor.changes with
    | ok => rw [accepted verdict]
    | error cause => rw [rejected verdict]
  refine ⟨?_, ?_, fun success => ?_, fun {cause} failure => ?_⟩
  · rw [result, LocalResource.verdict_eq_ok_iff]
    exact (and_iff_right running).symm
  · rw [result, if_neg running]
    rfl
  · rw [accepted (result.symm.trans success)]
    refine ⟨fun id => ?_, ?_⟩
    · rw [Agent.localResource?_eq, Agent.localResource?_eq, Agent.publisherOrNew]
      refine (resources id).trans ?_
      rw [Agent.publisherOrNew, known, Option.getD_some]
    · rw [← named]
      rfl
  · rw [rejected (result.symm.trans failure)]

end ComparesAndSwaps

namespace Moment

open Progress

/-- Where an agent stands: it serves its resources, and has withdrawn none, or it has ended. -/
inductive Situation (moment : Moment) : Prop where
  | serving
      (inService : moment.InService)
      (nothing : moment.agent.publisherOrNew.withdrawn = ∅) : Situation moment
  | ended (spent : moment.Spent) : Situation moment

namespace Situation

variable {moment : Moment}

theorem new (settings : AgentSettings) (attempts : List (Option TransportError)) :
    Situation (.new settings attempts) :=
  .serving (.new settings attempts) rfl

/-- Whatever happens leaves an agent in one of the two. -/
theorem after
    (situation : moment.Situation)
    (occurrence : Occurrence) :
    (moment.after occurrence).Situation := by
  cases situation with
  | ended spent => exact .ended (spent.after occurrence).1
  | serving inService nothing =>
      by_cases disposal : occurrence = .dispose
      · rw [disposal]
        exact .ended (.dispose inService)
      · obtain ⟨_, _, effect, _⟩ := moment.effect_after occurrence
        exact .serving (inService.after disposal)
          ((effect.publisher.withdrawn disposal).trans nothing)

/-- What an agent knows of its own resources it owns as long as it serves. -/
theorem comparesAndSwaps
    (situation : moment.Situation)
    {editor : Editor}
    {resource : LocalResource}
    (known : moment.agent.localResource? editor.resource = some resource)
    (now : Instant) :
    ComparesAndSwaps moment.progress now editor resource := by
  cases situation with
  | ended spent => exact .of_disposed spent.disposed spent.nothing now
  | serving inService nothing =>
      rw [Agent.localResource?_eq, Publisher.resource?_eq, nothing, Table.find?_empty,
        Option.or_none] at known
      obtain ⟨scheduled, owned, rfl⟩ := Option.map_eq_some_iff.mp known
      exact .of_owned inService.running owned (inService.holds.named owned) now

/-- To dispose an agent withdraws its resources as they are. -/
theorem resource?_dispose
    (situation : moment.Situation)
    (id : ResourceId) :
    moment.dispose.agent.publisherOrNew.resource? id =
      moment.agent.publisherOrNew.resource? id := by
  cases situation with
  | ended spent => rw [dispose, if_pos spent.disposed]
  | serving inService nothing =>
      have withdrawn : moment.progress.withdraw.agent.publisherOrNew.resource? id =
          moment.agent.publisherOrNew.resource? id := by
        unfold Progress.withdraw stopPublisher Agent.publisherOrNew
        dsimp only
        cases known : moment.progress.agent.publisher with
        | none => rw [show moment.agent.publisher = none from known]
        | some publisher =>
            rw [show moment.agent.publisher = some publisher from known]
            refine Publisher.sameResources_stop (fun _ => ?_) id
            rwa [Agent.publisherOrNew, show moment.agent.publisher = _ from known] at nothing
      rw [Agent.publisherOrNew, inService.dispose_eq.2.1]
      exact withdrawn

end Situation

/-- Only publishing and committing change what an agent knows of its own resources. -/
theorem Situation.resource?_after
    {moment : Moment}
    (situation : moment.Situation)
    {occurrence : Occurrence}
    (noPublishing : ∀ now id category connection attributes,
      occurrence ≠ .errand (.publish now id category connection attributes))
    (noCommit : ∀ now editor, occurrence ≠ .errand (.commit now editor))
    (id : ResourceId) :
    (moment.after occurrence).agent.publisherOrNew.resource? id =
      moment.agent.publisherOrNew.resource? id := by
  have same : ∀ {next : Moment}, next.progress.agent.publisher = moment.progress.agent.publisher →
      next.agent.publisherOrNew.resource? id = moment.agent.publisherOrNew.resource? id := by
    intro next same
    rw [Agent.publisherOrNew, show next.agent.publisher = _ from same]
    rfl
  cases occurrence with
  | errand errand =>
      cases errand with
      | publish now id category connection attributes =>
          exact absurd rfl (noPublishing now id category connection attributes)
      | commit now editor => exact absurd rfl (noCommit now editor)
      | subscribe category => exact same (moment.progress.publisher_subscribe category)
      | listen => exact same rfl
      | read subscription => exact same (moment.progress.publisher_read subscription)
      | disposeSubscription subscription =>
          exact same (moment.progress.publisher_dispose subscription)
      | receive now delivery => exact same (moment.progress.publisher_receive now delivery)
      | expire now => exact same (moment.progress.publisher_expire now)
      | announce now =>
          change (moment.progress.announce now).agent.publisherOrNew.resource? id = _
          unfold Progress.announce
          split
          next => rfl
          next publisher known =>
            rw [Agent.publisherOrNew, Agent.publisherOrNew,
              show moment.agent.publisher = _ from known]
            exact publisher.sameResources_turn now id
      | deliver now => exact same moment.withinSubscriber_deliver.publisher
      | shuffle categories resources => exact moment.agent.resource?_shuffle categories resources id
  | dispose => exact situation.resource?_dispose id
  | release => exact same (sameRoles_release _).publisher
  | report | ask => exact same rfl
  | proceed =>
      rcases moment.withinSubscriber_proceed with within | ⟨count, repaid⟩
      · exact same within.publisher
      · have roles := moment.progress.sameRoles_releaseMany count
        rw [← repaid] at roles
        exact same roles.publisher

end Moment

/-- Something that happens while editors are at work, each under a number of its own. -/
inductive Activity where
  /-- An editor begins with a resource as it is now. -/
  | begin (name : Nat) (resource : ResourceId)
  /-- An editor lets a key have a value. -/
  | put (name : Nat) (key value : String)
  /-- An editor lets a key have no value. -/
  | remove (name : Nat) (key : String)
  /-- An editor commits its edit, and is gone either way. -/
  | commit (name : Nat) (now : Instant)
  /-- Something else happens. -/
  | meanwhile (occurrence : Occurrence)
  deriving Repr

/-- An agent at a moment, the editors at work, and the edits that took effect. -/
structure Workshop where
  moment : Moment
  editors : Table Nat Editor
  /-- The edits that took effect on each resource since it was published, the oldest first. -/
  edits : Table ResourceId (List Editor)
  deriving Repr

namespace Workshop

/-- A new agent, and nobody at work. -/
def new (settings : AgentSettings) (attempts : List (Option TransportError)) : Workshop :=
  ⟨.new settings attempts, ∅, ∅⟩

/-- The edits that have taken effect when something has happened to the agent. -/
def editsAfter (workshop : Workshop) : Occurrence → Table ResourceId (List Editor)
  | .errand (.publish now id category connection attributes) =>
      match (workshop.moment.progress.publish now id category connection attributes).1 with
      | .ok () => workshop.edits.insert id []
      | .error _ => workshop.edits
  | .errand (.commit now editor) =>
      match (workshop.moment.progress.commit now editor).1 with
      | .ok () => workshop.edits.modify editor.resource (· ++ [editor])
      | .error _ => workshop.edits
  | _ => workshop.edits

/-- Something happens to the agent. -/
def occur (workshop : Workshop) (occurrence : Occurrence) : Workshop :=
  { workshop with
    moment := workshop.moment.after occurrence
    edits := workshop.editsAfter occurrence }

/-- An editor changes what it has collected. -/
def collect (workshop : Workshop) (name : Nat) (change : Changes → Changes) : Workshop :=
  { workshop with
    editors := workshop.editors.modify name fun editor =>
      { editor with changes := change editor.changes } }

/-- The workshop after something has happened. -/
def after (workshop : Workshop) : Activity → Workshop
  | .begin name id =>
      match workshop.moment.agent.localResource? id with
      | none => workshop
      | some resource =>
          { workshop with editors := workshop.editors.insert name resource.beginEdit }
  | .put name key value => workshop.collect name (·.put key value)
  | .remove name key => workshop.collect name (·.remove key)
  | .commit name now =>
      match workshop.editors.find? name with
      | none => workshop
      | some editor =>
          { workshop.occur (.errand (.commit now editor)) with
            editors := workshop.editors.erase name }
  | .meanwhile occurrence => workshop.occur occurrence

/--
The serial number of each resource counts the edits that took effect on it, and
one of them started from each number before.
-/
structure Consistent (workshop : Workshop) : Prop where
  situation : workshop.moment.Situation
  counted : ∀ {id resource}, workshop.moment.agent.localResource? id = some resource →
    ∃ edits, workshop.edits.find? id = some edits ∧
      edits.map Editor.baseline = List.range resource.editSerial

namespace Consistent

variable {workshop : Workshop}

theorem new (settings : AgentSettings) (attempts : List (Option TransportError)) :
    Consistent (.new settings attempts) :=
  ⟨.new settings attempts, nofun⟩

/-- A resource that is published has not been edited. -/
theorem counted_publish
    (consistent : workshop.Consistent)
    (now : Instant)
    (id : ResourceId)
    (category connection : String)
    (attributes : Attributes) :
    (workshop.occur (.errand (.publish now id category connection attributes))).Consistent := by
  refine ⟨consistent.situation.after (.errand (.publish now id category connection attributes)),
    fun {sought known} isKnown => ?_⟩
  have counted := @consistent.counted
  obtain ⟨kept, entered⟩ :=
    workshop.moment.progress.resource?_publish now id category connection attributes
  change (workshop.moment.progress.publish now id category connection
    attributes).2.agent.localResource? sought = _ at isKnown
  unfold occur editsAfter
  dsimp only
  rw [Agent.localResource?_eq] at isKnown
  split
  next success =>
    obtain ⟨resource, fresh, isResource⟩ := entered success
    rw [isResource] at isKnown
    rw [Table.find?_insert]
    split at isKnown
    next isId =>
      cases isKnown
      exact ⟨[], if_pos isId, by rw [fresh]; rfl⟩
    next notId =>
      rw [← Agent.localResource?_eq] at isKnown
      rw [if_neg notId]
      exact counted isKnown
  next failure =>
    rw [kept failure, ← Agent.localResource?_eq] at isKnown
    exact counted isKnown

/-- An edit that takes effect started from the serial number of its resource, which moves on. -/
theorem counted_commit
    (consistent : workshop.Consistent)
    (now : Instant)
    (editor : Editor) :
    (workshop.occur (.errand (.commit now editor))).Consistent := by
  refine ⟨consistent.situation.after (.errand (.commit now editor)),
    fun {sought known} isKnown => ?_⟩
  have counted := @consistent.counted
  change (workshop.moment.progress.commit now editor).2.agent.localResource? sought = _ at isKnown
  unfold occur editsAfter
  dsimp only
  split
  next success =>
    cases edited : workshop.moment.agent.localResource? editor.resource with
    | none =>
        have refuses := workshop.moment.progress.commit_of_unknown edited now
        rw [refuses] at success
        cases success
    | some resource =>
        have swaps := consistent.situation.comparesAndSwaps edited now
        rw [(swaps.swapped success).1] at isKnown
        rw [Table.find?_modify]
        split at isKnown
        next isEdited =>
          cases isKnown
          obtain ⟨edits, entered, baselines⟩ := counted edited
          refine ⟨edits ++ [editor], ?_, ?_⟩
          · rw [if_pos isEdited, isEdited, entered, Option.map_some]
          · rw [List.map_append, baselines, List.map_singleton, (swaps.succeeds.mp success).2.1]
            exact List.range_succ.symm
        next isOther =>
          rw [if_neg isOther]
          exact counted isKnown
  next cause failure =>
    have kept : (workshop.moment.progress.commit now editor).2 = workshop.moment.progress := by
      cases edited : workshop.moment.agent.localResource? editor.resource with
      | none => rw [workshop.moment.progress.commit_of_unknown edited now]
      | some resource => exact (consistent.situation.comparesAndSwaps edited now).refused failure
    rw [kept] at isKnown
    exact counted isKnown

/-- Whatever happens keeps the account. -/
theorem occur
    (consistent : workshop.Consistent)
    (occurrence : Occurrence) :
    (workshop.occur occurrence).Consistent := by
  have other : workshop.editsAfter occurrence = workshop.edits →
      (∀ now id category connection attributes,
        occurrence ≠ .errand (.publish now id category connection attributes)) →
      (∀ now editor, occurrence ≠ .errand (.commit now editor)) →
      (workshop.occur occurrence).Consistent := by
    intro same noPublishing noCommit
    refine ⟨consistent.situation.after occurrence, fun {id resource} known => ?_⟩
    change (workshop.moment.after occurrence).agent.localResource? id = _ at known
    change ∃ edits, (workshop.editsAfter occurrence).find? id = some edits ∧ _
    rw [Agent.localResource?_eq, consistent.situation.resource?_after noPublishing noCommit,
      ← Agent.localResource?_eq] at known
    rw [same]
    exact consistent.counted known
  cases occurrence with
  | errand errand =>
      cases errand with
      | publish now id category connection attributes =>
          exact consistent.counted_publish now id category connection attributes
      | commit now editor => exact consistent.counted_commit now editor
      | subscribe | listen | read | disposeSubscription | receive | announce | expire | deliver
      | shuffle =>
          exact other rfl nofun nofun
  | dispose | release | report | ask | proceed => exact other rfl nofun nofun

/-- Whoever is at work, the account is kept. -/
theorem after
    (consistent : workshop.Consistent)
    (activity : Activity) :
    (workshop.after activity).Consistent := by
  cases activity with
  | begin name id =>
      unfold Workshop.after
      dsimp only
      split
      next => exact consistent
      next => exact ⟨consistent.situation, consistent.counted⟩
  | put | remove => exact ⟨consistent.situation, consistent.counted⟩
  | commit name now =>
      unfold Workshop.after
      dsimp only
      split
      next => exact consistent
      next editor _ =>
        have committed := consistent.occur (.errand (.commit now editor))
        exact ⟨committed.situation, committed.counted⟩
  | meanwhile occurrence => exact consistent.occur occurrence

end Consistent

/--
However many editors are at work, and whatever happens meanwhile, the serial
number of a resource counts the edits that took effect on it.  One of them
started from each number before, so of the editors that started from one number
at most one succeeds; and any commit that comes next compares and swaps.
-/
theorem commit_swaps
    (settings : AgentSettings)
    (attempts : List (Option TransportError))
    (activities : List Activity)
    {workshop : Workshop}
    (reached : activities.foldl after (.new settings attempts) = workshop)
    {id : ResourceId}
    {resource : LocalResource}
    (known : workshop.moment.agent.localResource? id = some resource) :
    (∃ edits, workshop.edits.find? id = some edits ∧ resource.editSerial = edits.length ∧
      edits.map Editor.baseline = List.range edits.length) ∧
    ∀ (now : Instant) (editor : Editor), editor.resource = id →
      ComparesAndSwaps workshop.moment.progress now editor resource := by
  have consistent : workshop.Consistent := by
    rw [← reached]
    exact List.foldlRecOn activities _ (.new settings attempts)
      fun _ consistent activity _ => consistent.after activity
  constructor
  · obtain ⟨edits, entered, baselines⟩ := consistent.counted known
    have length := congrArg List.length baselines
    rw [List.length_map, List.length_range] at length
    exact ⟨edits, entered, length.symm, length.symm ▸ baselines⟩
  · rintro now editor rfl
    exact consistent.situation.comparesAndSwaps known now

/-- Two editors start from the same number; one commits, and the other finds itself too late. -/
theorem commit_swaps_raced :
    let id : ResourceId := ⟨List.replicate 16 1, List.length_replicate⟩
    let activities : List Activity :=
      [ .meanwhile (.errand (.publish 0 id "Room" "here" ∅)), .begin 1 id, .begin 2 id
      , .put 1 "map" "dunes", .put 2 "map" "harbor", .commit 1 0 ]
    ∃ (workshop : Workshop) (resource : LocalResource) (editor : Editor),
      activities.foldl after (.new ⟨30, 50⟩ []) = workshop ∧
        workshop.moment.agent.localResource? id = some resource ∧ resource.editSerial = 1 ∧
        workshop.editors.find? 2 = some editor ∧ editor.resource = id ∧
        (workshop.moment.progress.commit 0 editor).1 = .error (.staleEdit 0 1) ∧
        ComparesAndSwaps workshop.moment.progress 0 editor resource := by
  intro id activities
  have raced : ((activities.foldl after (.new ⟨30, 50⟩ [])).moment.agent.localResource? id).any
      (fun resource => resource.editSerial == 1) = true := by decide +kernel
  have late : ((activities.foldl after (.new ⟨30, 50⟩ [])).editors.find? 2).any (fun editor =>
      editor.resource == id &&
        decide (((activities.foldl after (.new ⟨30, 50⟩ [])).moment.progress.commit 0 editor).1 =
          .error (.staleEdit 0 1))) = true := by decide +kernel
  obtain ⟨resource, known, edited⟩ := (Option.any_eq_true ..).mp raced
  obtain ⟨editor, isEditor, fails⟩ := (Option.any_eq_true ..).mp late
  rw [Bool.and_eq_true, beq_iff_eq, decide_eq_true_iff] at fails
  exact ⟨_, resource, editor, rfl, known, beq_iff_eq.mp edited, isEditor, fails.1, fails.2,
    (commit_swaps ⟨30, 50⟩ [] activities rfl known).2 0 editor fails.1⟩

end Workshop

end Discovery
