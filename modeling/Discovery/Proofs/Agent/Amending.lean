import Discovery.Proofs.Agent.Editing
import Discovery.Proofs.Resource.Amendment

namespace Discovery

/-!
# Edits that keep the order of their amendments

An editor is asked for amendments while other editors are at work and everything
else goes on.  An edit that takes effect carries the amendments out in the order
in which they were asked for, on the attributes of the resource that its commit
finds (`Workshop.commit_inOrder`).  Unless another resource has been published
under the identifier meanwhile, that is the resource with which the editor began.
-/

/-- Nothing is published that would take the place of a resource. -/
def Occurrence.Spares (id : ResourceId) : Occurrence → Prop
  | .errand (.publish _ other _ _ _) => other ≠ id
  | _ => True

namespace Activity

/-- The amendment that an editor is asked for. -/
def amendment? (name : Nat) : Activity → Option Amendment
  | .put other key value => if other = name then some (.put key value) else none
  | .remove other key => if other = name then some (.remove key) else none
  | .begin .. | .commit .. | .meanwhile _ => none

/-- An editor goes on with its edit. -/
def Continues (name : Nat) : Activity → Prop
  | .begin other _ | .commit other _ => other ≠ name
  | .put .. | .remove .. | .meanwhile _ => True

/-- Nothing takes the place of a resource. -/
def Spares (id : ResourceId) : Activity → Prop
  | .meanwhile occurrence => occurrence.Spares id
  | .begin .. | .put .. | .remove .. | .commit .. => True

end Activity

/-- A resource is as it was, or an edit of it has taken effect. -/
def LocalResource.Succeeds (next resource : LocalResource) : Prop :=
  next = resource ∨ resource.editSerial < next.editSerial

namespace LocalResource.Succeeds

variable {first second third : LocalResource}

theorem trans
    (later : third.Succeeds second)
    (earlier : second.Succeeds first) :
    third.Succeeds first := by
  rcases later with rfl | later
  · exact earlier
  · rcases earlier with rfl | earlier
    · exact Or.inr later
    · exact Or.inr (Nat.lt_trans earlier later)

/-- No edit takes a resource back to a serial number that it had. -/
theorem eq_of_editSerial
    (later : second.Succeeds first)
    (same : first.editSerial = second.editSerial) :
    second = first :=
  later.resolve_right fun moved => absurd same (Nat.ne_of_lt moved)

end LocalResource.Succeeds

namespace Moment.Situation

variable {moment : Moment} {id : ResourceId} {resource : LocalResource}

/-- To publish another resource leaves a resource as it is. -/
theorem localResource?_publish
    (moment : Moment)
    (now : Instant)
    {other : ResourceId}
    (different : other ≠ id)
    (category connection : String)
    (attributes : Attributes) :
    (moment.progress.publish now other category connection attributes).2.agent.localResource? id =
      moment.agent.localResource? id := by
  obtain ⟨kept, entered⟩ :=
    moment.progress.resource?_publish now other category connection attributes
  rw [Agent.localResource?_eq, Agent.localResource?_eq]
  cases result : (moment.progress.publish now other category connection attributes).1 with
  | error cause => rw [kept result]; rfl
  | ok =>
      obtain ⟨_, _, found⟩ := entered result
      rw [found, if_neg different.symm]
      rfl

/-- A commit edits a resource or leaves it as it is. -/
theorem succeeds_commit
    (situation : moment.Situation)
    (known : moment.agent.localResource? id = some resource)
    (now : Instant)
    (editor : Editor) :
    ∃ next, (moment.progress.commit now editor).2.agent.localResource? id = some next ∧
      next.Succeeds resource := by
  cases edited : moment.agent.localResource? editor.resource with
  | none =>
      rw [moment.progress.commit_of_unknown edited now]
      exact ⟨resource, known, Or.inl rfl⟩
  | some target =>
      have swaps := situation.comparesAndSwaps edited now
      cases result : (moment.progress.commit now editor).1 with
      | error cause =>
          rw [swaps.refused result]
          exact ⟨resource, known, Or.inl rfl⟩
      | ok =>
          rw [(swaps.swapped result).1]
          split
          next isEdited =>
            rw [isEdited, edited] at known
            cases known
            exact ⟨_, rfl, Or.inr (Nat.lt_succ_self _)⟩
          next => exact ⟨resource, known, Or.inl rfl⟩

/-- Whatever else happens, a resource is as it was, or an edit of it has taken effect. -/
theorem succeeds_after
    (situation : moment.Situation)
    (known : moment.agent.localResource? id = some resource)
    {occurrence : Occurrence}
    (spares : occurrence.Spares id) :
    ∃ next, (moment.after occurrence).agent.localResource? id = some next ∧
      next.Succeeds resource := by
  have same : (moment.after occurrence).agent.localResource? id =
        moment.agent.localResource? id →
      ∃ next, (moment.after occurrence).agent.localResource? id = some next ∧
        next.Succeeds resource :=
    fun kept => ⟨resource, kept.trans known, Or.inl rfl⟩
  by_cases commits : ∃ now editor, occurrence = .errand (.commit now editor)
  · obtain ⟨now, editor, rfl⟩ := commits
    exact situation.succeeds_commit known now editor
  by_cases publishes : ∃ now other category connection attributes,
      occurrence = .errand (.publish now other category connection attributes)
  · obtain ⟨now, other, category, connection, attributes, rfl⟩ := publishes
    exact same (localResource?_publish moment now spares category connection attributes)
  · refine same ?_
    rw [Agent.localResource?_eq, Agent.localResource?_eq]
    refine situation.resource?_after (fun now other category connection attributes isPublish => ?_)
      (fun now editor isCommit => commits ⟨now, editor, isCommit⟩) id
    exact publishes ⟨now, other, category, connection, attributes, isPublish⟩

end Moment.Situation

namespace Workshop

variable {workshop : Workshop} {name : Nat} {base : LocalResource} {calls : List Amendment}

theorem Consistent.run
    (consistent : workshop.Consistent)
    (activities : List Activity) :
    (activities.foldl Workshop.after workshop).Consistent :=
  List.foldlRecOn activities _ consistent fun _ consistent activity _ => consistent.after activity

/-- An editor has begun with a resource and has been asked for some amendments since. -/
def Underway
    (workshop : Workshop)
    (name : Nat)
    (base : LocalResource)
    (calls : List Amendment) : Prop :=
  workshop.editors.find? name = some ⟨base.id, base.editSerial, Amendment.collected calls⟩

/-- An agent has a resource as it was, or with an edit that has taken effect. -/
def Retains (workshop : Workshop) (base : LocalResource) : Prop :=
  ∃ resource, workshop.moment.agent.localResource? base.id = some resource ∧
    resource.Succeeds base

namespace Underway

theorem begin
    (known : workshop.moment.agent.localResource? base.id = some base)
    (name : Nat) :
    (workshop.after (.begin name base.id)).Underway name base [] := by
  unfold Workshop.after
  simp only [known]
  exact (Table.find?_insert ..).trans (if_pos rfl)

/-- What is asked of an editor it takes up, and the others take up nothing for it. -/
theorem collect
    (underway : workshop.Underway name base calls)
    (other : Nat)
    (call : Amendment) :
    (workshop.collect other (Amendment.collect · call)).Underway name base
      (calls ++ (if other = name then some call else none).toList) := by
  unfold Underway Workshop.collect at *
  rw [Table.find?_modify, underway]
  split
  next isName => simp [isName, Amendment.collected]
  next notName => simp [Ne.symm notName]

/-- Whoever is at work, the editor goes on with what it has been asked for. -/
theorem after
    (underway : workshop.Underway name base calls)
    {activity : Activity}
    (continues : activity.Continues name) :
    (workshop.after activity).Underway name base
      (calls ++ (activity.amendment? name).toList) := by
  cases activity with
  | put other key value => exact underway.collect other (.put key value)
  | remove other key => exact underway.collect other (.remove key)
  | begin other id =>
      rw [Activity.amendment?, Option.toList_none, List.append_nil, Workshop.after]
      split
      next => exact underway
      next => exact ((Table.find?_insert ..).trans (if_neg (Ne.symm continues))).trans underway
  | commit other now =>
      rw [Activity.amendment?, Option.toList_none, List.append_nil, Workshop.after]
      split
      next => exact underway
      next => exact ((Table.find?_erase ..).trans (if_neg (Ne.symm continues))).trans underway
  | meanwhile occurrence =>
      rw [Activity.amendment?, Option.toList_none, List.append_nil]
      exact underway

/-- What an editor is asked for along a run it has collected at the end. -/
theorem run
    (underway : workshop.Underway name base calls)
    (activities : List Activity)
    (continues : ∀ activity ∈ activities, activity.Continues name) :
    (activities.foldl Workshop.after workshop).Underway name base
      (calls ++ activities.filterMap (Activity.amendment? name)) := by
  induction activities generalizing workshop calls with
  | nil => simpa using underway
  | cons activity rest inductionHypothesis =>
      have asked : List.filterMap (Activity.amendment? name) (activity :: rest) =
          (activity.amendment? name).toList ++ rest.filterMap (Activity.amendment? name) := by
        rw [List.filterMap_cons]
        cases activity.amendment? name <;> rfl
      rw [asked, ← List.append_assoc]
      exact inductionHypothesis (underway.after (continues activity List.mem_cons_self))
        fun later inRest => continues later (List.mem_cons_of_mem _ inRest)

/-- A commit that succeeds edits the resource that it finds. -/
theorem commit
    (underway : workshop.Underway name base calls)
    (situation : workshop.moment.Situation)
    {now : Instant}
    (success : (workshop.moment.progress.commit now
      ⟨base.id, base.editSerial, Amendment.collected calls⟩).1 = .ok ()) :
    ∃ resource, workshop.moment.agent.localResource? base.id = some resource ∧
      base.editSerial = resource.editSerial ∧
      (workshop.after (.commit name now)).moment.agent.localResource? base.id =
        some (resource.edited (Amendment.collected calls)) := by
  let editor : Editor := ⟨base.id, base.editSerial, Amendment.collected calls⟩
  cases known : workshop.moment.agent.localResource? base.id with
  | none =>
      have unknown : workshop.moment.progress.agent.localResource? editor.resource = none := known
      rw [workshop.moment.progress.commit_of_unknown unknown now] at success
      cases success
  | some resource =>
      have swaps : ComparesAndSwaps workshop.moment.progress now editor resource :=
        situation.comparesAndSwaps known now
      refine ⟨resource, rfl, (swaps.succeeds.mp success).2.1, ?_⟩
      unfold Underway at underway
      unfold Workshop.after
      simp only [underway]
      exact ((swaps.swapped success).1 base.id).trans (if_pos rfl)

end Underway

namespace Retains

/-- Whatever else happens, the resource is as it was, or an edit of it has taken effect. -/
theorem occur
    (retains : workshop.Retains base)
    (situation : workshop.moment.Situation)
    {occurrence : Occurrence}
    (spares : occurrence.Spares base.id) :
    (workshop.occur occurrence).Retains base := by
  obtain ⟨resource, known, succeeds⟩ := retains
  obtain ⟨next, isNext, later⟩ := situation.succeeds_after known spares
  exact ⟨next, isNext, later.trans succeeds⟩

theorem after
    (retains : workshop.Retains base)
    (situation : workshop.moment.Situation)
    {activity : Activity}
    (spares : activity.Spares base.id) :
    (workshop.after activity).Retains base := by
  cases activity with
  | put | remove => exact retains
  | begin =>
      rw [Workshop.after]
      split <;> exact retains
  | commit other now =>
      rw [Workshop.after]
      split
      next => exact retains
      next editor _ =>
        have committed : (workshop.occur (.errand (.commit now editor))).Retains base :=
          retains.occur situation trivial
        exact committed
  | meanwhile occurrence => exact retains.occur situation spares

theorem run
    (retains : workshop.Retains base)
    (consistent : workshop.Consistent)
    (activities : List Activity)
    (spares : ∀ activity ∈ activities, activity.Spares base.id) :
    (activities.foldl Workshop.after workshop).Retains base := by
  induction activities generalizing workshop with
  | nil => exact retains
  | cons activity rest inductionHypothesis =>
      have next := retains.after consistent.situation (spares activity List.mem_cons_self)
      exact inductionHypothesis next (consistent.after activity)
        fun later inRest => spares later (List.mem_cons_of_mem _ inRest)

end Retains

/--
An editor begins with a resource and is asked for amendments while others are at
work and everything else goes on.  What it has collected stands for the
amendments in their order, and a commit that succeeds leaves the resource with
the attributes that they make, one after another, of those it had.  It is the
resource with which the editor began, unless another one was published in its place.
-/
theorem commit_inOrder
    (settings : AgentSettings)
    (attempts : List (Option TransportError))
    (before between : List Activity)
    {opened closed : Workshop}
    (reached : before.foldl after (.new settings attempts) = opened)
    {base : LocalResource}
    (known : opened.moment.agent.localResource? base.id = some base)
    {name : Nat}
    (closes : between.foldl after (opened.after (.begin name base.id)) = closed)
    (continues : ∀ activity ∈ between, activity.Continues name) :
    ∃ editor, closed.editors.find? name = some editor ∧
      editor.changes.InOrder (between.filterMap (Activity.amendment? name)) ∧
      ∀ now, (closed.moment.progress.commit now editor).1 = .ok () →
        ∃ resource, closed.moment.agent.localResource? base.id = some resource ∧
          (closed.after (.commit name now)).moment.agent.localResource? base.id =
            some { resource with
              attributes := Amendment.performAll (between.filterMap (Activity.amendment? name))
                resource.attributes
              editSerial := resource.editSerial + 1 } ∧
          ((∀ activity ∈ between, activity.Spares base.id) → resource = base) := by
  have atOpening : opened.Consistent :=
    reached ▸ (Consistent.new settings attempts).run before
  have begun := atOpening.after (.begin name base.id)
  have atClosing : closed.Consistent := closes ▸ begun.run between
  have underway := (Underway.begin known name).run between continues
  rw [closes, List.nil_append] at underway
  have inOrder := Amendment.collected_inOrder (between.filterMap (Activity.amendment? name))
  refine ⟨_, underway, inOrder, fun now success => ?_⟩
  obtain ⟨resource, isResource, sameSerial, edited⟩ :=
    underway.commit atClosing.situation success
  refine ⟨resource, isResource, ?_, fun spares => ?_⟩
  · rw [edited, LocalResource.edited, inOrder.performed]
  · have retained : opened.Retains base := ⟨base, known, Or.inl rfl⟩
    have spared : (Activity.begin name base.id).Spares base.id := trivial
    have retains := (retained.after atOpening.situation spared).run begun between spares
    rw [closes] at retains
    obtain ⟨present, isPresent, succeeds⟩ := retains
    rw [isResource] at isPresent
    cases isPresent
    exact succeeds.eq_of_editSerial sameSerial

/-- One editor is asked for several amendments to a key, while another one is at work. -/
theorem commit_inOrder_repeated :
    let base : LocalResource :=
      .new ⟨List.replicate 16 1, List.length_replicate⟩ "Room" "here" 30
        (.ofList [("map", "dunes"), ("seats", "4")])
    let between : List Activity :=
      [ .put 1 "map" "harbor", .begin 2 base.id, .remove 1 "seats", .put 2 "map" "plains"
      , .put 1 "seats" "6", .remove 1 "map", .remove 1 "mode" ]
    ∃ (opened closed : Workshop) (editor : Editor),
      [.meanwhile (.errand (.publish 0 base.id "Room" "here" base.attributes))].foldl after
          (.new ⟨30, 50⟩ []) = opened ∧
        opened.moment.agent.localResource? base.id = some base ∧
        between.foldl after (opened.after (.begin 1 base.id)) = closed ∧
        (∀ activity ∈ between, activity.Continues 1) ∧
        closed.editors.find? 1 = some editor ∧
        (closed.moment.progress.commit 5 editor).1 = .ok () ∧
        (closed.after (.commit 1 5)).moment.agent.localResource? base.id =
          some { base with attributes := .ofList [("seats", "6")], editSerial := 1 } := by
  intro base between
  let before : List Activity :=
    [.meanwhile (.errand (.publish 0 base.id "Room" "here" base.attributes))]
  let opened : Workshop := before.foldl after (.new ⟨30, 50⟩ [])
  let closed : Workshop := between.foldl after (opened.after (.begin 1 base.id))
  have known : opened.moment.agent.localResource? base.id = some base := by decide +kernel
  have continues : ∀ activity ∈ between, activity.Continues 1 := by
    simp [between, Activity.Continues]
  have committed : (closed.editors.find? 1).any (fun editor =>
      decide ((closed.moment.progress.commit 5 editor).1 = .ok ())) = true := by decide +kernel
  have made : Amendment.performAll (between.filterMap (Activity.amendment? 1)) base.attributes =
      .ofList [("seats", "6")] := by decide +kernel
  obtain ⟨editor, editing, _, commits⟩ :=
    commit_inOrder ⟨30, 50⟩ [] before between rfl known rfl continues
  rw [show closed.editors.find? 1 = some editor from editing, Option.any_some,
    decide_eq_true_iff] at committed
  obtain ⟨resource, _, edited, isBase⟩ := commits 5 committed
  obtain rfl : resource = base := isBase (by simp [between, Activity.Spares])
  refine ⟨opened, closed, editor, rfl, known, rfl, continues, editing, committed, ?_⟩
  rw [edited, made]
  rfl

end Workshop

end Discovery
