import Discovery.Proofs.Publisher.Vigilance

namespace Discovery

/-!
# Regular publishers

The schedule of a publisher lists what the publisher owns and nothing else, each
resource at the time of its next announcement, and the timer fires no later than
the earliest of these (`Publisher.Regular`).  Nothing is asked of the expiry.  A
turn of the timer then announces what is due, once each, and nothing else
(`Publisher.Regular.turn_spec`); and a step leaves the time of a next
announcement as it is unless it announces the resource or accepts it
(`Publisher.Fate`).
-/

namespace Outgoing

/-- Whether everyone is told of a resource by an announcement. -/
def isHello (id : ResourceId) : Outgoing → Bool
  | .broadcast stream payload =>
      match Wire.Message.decode payload with
      | .ok (.hello _) => decide (stream = id)
      | _ => false
  | .reply _ _ _ => false

/-- Only an announcement is read as one. -/
theorem exists_hello_of_isHello
    {outgoing : Outgoing}
    {message : Wire.Message}
    (payload : outgoing.payload = message.encode)
    {id : ResourceId}
    (isHello : outgoing.isHello id = true) :
    ∃ announcement, message = .hello announcement := by
  cases outgoing with
  | reply => cases isHello
  | broadcast stream bytes =>
      unfold Outgoing.isHello at isHello
      dsimp only at isHello
      split at isHello
      next announcement read =>
        rw [show bytes = message.encode from payload] at read
        exact ⟨announcement, (Wire.Message.eq_of_decode_encode read).symm⟩
      next => cases isHello

end Outgoing

namespace Publisher

/-- What a publisher owns can be announced, and is all that the schedule lists. -/
structure Ordered (publisher : Publisher) : Prop where
  named : ∀ {id scheduled}, publisher.owned.find? id = some scheduled →
    scheduled.resource.id = id
  valid : ∀ {id scheduled}, publisher.owned.find? id = some scheduled →
    checkResource scheduled.resource = .ok ()
  positive : ∀ {id scheduled}, publisher.owned.find? id = some scheduled →
    0 ≤ scheduled.resource.expiry.toInt
  listed : ∀ slot, publisher.schedule.find? slot = some () ↔
    (publisher.owned.find? slot.id).map Scheduled.nextAnnounce = some slot.due
  ended : publisher.stopped = true → publisher.owned = ∅

/-- A publisher keeps its schedule, and its timer fires no later than anything is due. -/
structure Regular (publisher : Publisher) : Prop extends Ordered publisher where
  timer : publisher.timer.Sound
  running : publisher.stopped = false → publisher.timer.closed = false
  armed : publisher.Armed

namespace Ordered

variable {publisher : Publisher}

theorem new : Ordered Publisher.new :=
  ⟨nofun, nofun, nofun, fun _ => ⟨nofun, nofun⟩, nofun⟩

theorem arranged (ordered : publisher.Ordered) : publisher.Arranged :=
  ⟨ordered.named, ordered.listed, ordered.ended⟩

/-- A resource that is owned is announced in a form that others accept. -/
theorem isHello
    (ordered : publisher.Ordered)
    {id : ResourceId}
    {scheduled : Scheduled}
    (owned : publisher.owned.find? id = some scheduled)
    (sought : ResourceId) :
    (hello scheduled.resource).isHello sought = decide (id = sought) := by
  have read := @Wire.Message.decode_encode (.hello _)
    (validate_announcement (ordered.valid owned) (ordered.positive owned))
  rw [hello, Outgoing.isHello, read, ordered.named owned]

/-- A publisher stays in order if whatever resource is new to it can be announced. -/
theorem renew
    (ordered : publisher.Ordered)
    {next : Publisher}
    (arranged : next.Arranged)
    (resources : ∀ {id resource}, (next.owned.find? id).map Scheduled.resource = some resource →
      (publisher.owned.find? id).map Scheduled.resource = some resource ∨
        checkResource resource = .ok () ∧ 0 ≤ resource.expiry.toInt) :
    next.Ordered := by
  have announceable : ∀ {id scheduled}, next.owned.find? id = some scheduled →
      checkResource scheduled.resource = .ok () ∧ 0 ≤ scheduled.resource.expiry.toInt := by
    intro id scheduled owned
    rcases resources (congrArg (Option.map Scheduled.resource) owned) with known | isNew
    · obtain ⟨earlier, wasOwned, same⟩ := Option.map_eq_some_iff.mp known
      exact same ▸ ⟨ordered.valid wasOwned, ordered.positive wasOwned⟩
    · exact isNew
  exact ⟨arranged.named, fun owned => (announceable owned).1, fun owned => (announceable owned).2,
    arranged.listed, arranged.ended⟩

/-- Announcing the resources whose time has come tells of each of them once. -/
theorem countP_isHello_dues
    (ordered : publisher.Ordered)
    (now : Instant)
    (id : ResourceId) :
    ((publisher.dues now).map hello).countP (Outgoing.isHello id) =
      if id ∈ publisher.due now then 1 else 0 := by
  have tells : ∀ resource ∈ publisher.dues now,
      Outgoing.isHello id (hello resource) = true ↔ (resource.id == id) = true := by
    intro resource isDue
    obtain ⟨scheduled, owned, rfl, _⟩ := ordered.arranged.mem_dues.mp isDue
    rw [ordered.isHello owned, decide_eq_true_iff, beq_iff_eq]
  calc ((publisher.dues now).map hello).countP (Outgoing.isHello id)
      = (publisher.dues now).countP fun resource => Outgoing.isHello id (hello resource) :=
        List.countP_map
    _ = (publisher.dues now).countP fun resource => resource.id == id :=
        List.countP_congr tells
    _ = (publisher.due now).count id := by
        rw [← ordered.arranged.map_id_dues now, List.count, List.countP_map]
        rfl
    _ = if id ∈ publisher.due now then 1 else 0 := (ordered.arranged.nodup_due now).count

end Ordered

namespace Regular

variable {publisher next : Publisher} {now : Instant}

theorem new : Regular Publisher.new :=
  ⟨.new, .new, fun _ => rfl, nofun⟩

theorem withFront
    (regular : publisher.Regular)
    (front : List ResourceId) :
    Regular { publisher with front := front } :=
  ⟨⟨regular.named, regular.valid, regular.positive, regular.listed, regular.ended⟩,
    regular.timer, regular.running, regular.armed⟩

theorem attentive (regular : publisher.Regular) : publisher.Attentive :=
  ⟨fun _ _ => regular.arranged.listed_of_owned, regular.ended, regular.timer, regular.running,
    regular.armed⟩

theorem of_attentive
    (ordered : publisher.Ordered)
    (attentive : publisher.Attentive) :
    publisher.Regular :=
  ⟨ordered, attentive.timer, attentive.running, attentive.armed⟩

/-- While the timer has nothing to do, nothing is due. -/
theorem lt_nextAnnounce
    (regular : publisher.Regular)
    (atRest : publisher.timer.isReady now = false)
    {id : ResourceId}
    {scheduled : Scheduled}
    (owned : publisher.owned.find? id = some scheduled) :
    ∃ deadline, publisher.timer.waitsFor? = some deadline ∧ now < deadline ∧
      deadline ≤ scheduled.nextAnnounce :=
  (regular.attentive.heeds owned).wakes atRest

section Turn

/-- A timer that does not fire is not to fire. -/
theorem due_eq_nil
    (regular : publisher.Regular)
    (silent : (publisher.timer.turn now).1 = false) :
    publisher.due now = [] := by
  refine List.eq_nil_iff_forall_not_mem.mpr fun id isDue => ?_
  obtain ⟨scheduled, owned, past⟩ := regular.arranged.mem_due.mp isDue
  exact Bool.false_ne_true (silent.symm.trans ((regular.attentive.heeds owned).fires past))

/-- A turn of the timer announces what is due, and puts its next announcement off. -/
theorem turn_spec
    (regular : publisher.Regular)
    (now : Instant) :
    (publisher.turn now).1 = (publisher.dues now).map hello ∧
      (∀ id, (publisher.turn now).2.owned.find? id =
        if id ∈ publisher.due now then
          (publisher.owned.find? id).map fun known => known.announcedAt now
        else publisher.owned.find? id) ∧
      (publisher.turn now).2.Regular := by
  have ordered : (publisher.turn now).2.Ordered :=
    regular.renew (regular.arranged.turn now) fun {id _} owned =>
      .inl ((publisher.resource_owned_turn now id).symm.trans owned)
  refine and_assoc.mp ⟨?_, .of_attentive ordered (regular.attentive.turn now)⟩
  rcases publisher.turn_cases now with ⟨idle, same⟩ | ⟨_, same⟩ <;> rw [same]
  · have nothing : publisher.due now = [] :=
      idle.elim regular.due_eq_nil fun stopped => regular.arranged.due_of_stopped stopped now
    rw [dues, nothing]
    exact ⟨rfl, fun _ => rfl⟩
  · exact ⟨congrArg (List.map hello) ((publisher.ticked now).takeDue_fst now),
      (publisher.ticked now).find?_owned_takeDue now⟩

end Turn

/-- A resource that is accepted is due at once. -/
theorem publish
    (regular : publisher.Regular)
    {resource : LocalResource}
    (published : publisher.publish now resource = .ok next)
    (positive : 0 ≤ resource.expiry.toInt)
    (isNew : publisher.owned.find? resource.id = none) :
    next.Regular := by
  have valid := (publish_cases published).1
  refine .of_attentive ?_ (regular.attentive.publish published)
  refine regular.renew (regular.arranged.publish published isNew) fun {id offered} owned => ?_
  rw [find?_owned_publish published] at owned
  split at owned
  next => exact .inr (Option.some.inj owned ▸ ⟨valid, positive⟩)
  next => exact .inl owned

/-- An edit takes effect, is announced at once, and puts the next announcement off. -/
theorem commit_spec
    (regular : publisher.Regular)
    {editor : Editor}
    {outgoing : List Outgoing}
    (committed : publisher.commit now editor = .ok (outgoing, next)) :
    ∃ scheduled edited : Scheduled,
      publisher.owned.find? editor.resource = some scheduled ∧
      outgoing = [hello edited.resource] ∧
      (∀ id, next.owned.find? id =
        if id = editor.resource then some (edited.announcedAt now)
        else publisher.owned.find? id) ∧
      next.Regular := by
  have regularNext : next.Regular := by
    obtain ⟨scheduled, edited, _, isEdited⟩ := edited_commit committed
    obtain ⟨same, validAttributes⟩ := edit_ok isEdited.success
    obtain ⟨validCategory, validConnection, _⟩ :=
      checkResource_eq_ok_iff.mp (regular.valid isEdited.before)
    have valid : checkResource edited = .ok () := by
      refine checkResource_eq_ok_iff.mpr ⟨?_, ?_, validAttributes⟩ <;> rwa [same]
    have positive : 0 ≤ edited.expiry.toInt := by
      rw [same]
      exact regular.positive isEdited.before
    refine .of_attentive ?_ (regular.attentive.commit committed)
    refine regular.renew (regular.arranged.commit committed) fun {id resource} owned => ?_
    rw [isEdited.resources] at owned
    split at owned
    next => exact .inr (Option.some.inj owned ▸ ⟨valid, positive⟩)
    next => exact .inl owned
  obtain ⟨scheduled, edited, _, owned, _, rfl, rfl, rfl⟩ := commit_cases committed
  refine ⟨scheduled, { scheduled with resource := edited }, owned, rfl, fun id => ?_, regularNext⟩
  refine (find?_owned_reschedule _ editor.resource now id).trans ?_
  rw [find?_owned_amend, if_pos rfl, Option.map_some, find?_owned_amend]
  split <;> rfl

/-- A publisher that stops owns nothing any more. -/
theorem stop (regular : publisher.Regular) :
    publisher.stop.2.owned = ∅ ∧ publisher.stop.2.Regular := by
  unfold Publisher.stop
  split
  next stopped => exact ⟨regular.ended stopped, regular⟩
  next =>
    refine ⟨rfl, ⟨nofun, nofun, nofun, fun _ => ⟨nofun, nofun⟩, fun _ => rfl⟩, ?_, nofun, nofun⟩
    exact .close publisher.timer

end Regular

/-- What becomes, in a step, of the time at which a resource is to be announced. -/
inductive Fate
    (now : Instant)
    (said : List Outgoing)
    (accepted : List ResourceId)
    (publisher : Publisher)
    (id : ResourceId)
    (later : Scheduled) : Prop where
  /-- The resource is announced, and will be again after its interval. -/
  | announced
      {earlier : Scheduled}
      (owned : publisher.owned.find? id = some earlier)
      (notNew : id ∉ accepted)
      {outgoing : Outgoing}
      (isSaid : outgoing ∈ said)
      (isHello : outgoing.isHello id = true)
      (next : later.nextAnnounce = now + later.interval)
  /-- The resource is accepted, and is to be announced at once. -/
  | accepted
      (isNew : accepted = [id])
      (silent : ∀ outgoing ∈ said, outgoing.isHello id = false)
      (next : later.nextAnnounce = now)
  /-- The resource is not announced, and will be when it was to be. -/
  | kept
      {earlier : Scheduled}
      (owned : publisher.owned.find? id = some earlier)
      (notNew : id ∉ accepted)
      (silent : ∀ outgoing ∈ said, outgoing.isHello id = false)
      (next : later.nextAnnounce = earlier.nextAnnounce)
      (interval : later.interval = earlier.interval)

namespace Step

variable {occasion : Occasion} {now : Instant} {publisher next : Publisher}
variable {said : List Outgoing} {accepted : List ResourceId}

/-- Whatever becomes of a publisher, it stays regular. -/
theorem regular
    (step : publisher.Step occasion said accepted next)
    (regular : publisher.Regular)
    (offers : ∀ {resource}, occasion.offered resource →
      0 ≤ resource.expiry.toInt ∧ publisher.owned.find? resource.id = none) :
    next.Regular := by
  cases step with
  | rest | answer => exact regular
  | publish _ offered published =>
      obtain ⟨positive, isNew⟩ := offers offered
      exact regular.publish published positive isNew
  | @turn instant _ => exact (regular.turn_spec instant).2.2
  | commit _ committed =>
      obtain ⟨_, _, _, _, _, regular⟩ := regular.commit_spec committed
      exact regular
  | stop => exact regular.stop.2
  | shuffle front => exact regular.withFront front

/-- A resource is announced next when it was to be, unless it is announced or accepted now. -/
theorem fate
    (step : publisher.Step occasion said accepted next)
    (regular : publisher.Regular)
    (timely : ∀ {instant}, occasion.timely instant → instant = now)
    {id : ResourceId}
    {later : Scheduled}
    (owned : next.owned.find? id = some later) :
    Fate now said accepted publisher id later := by
  cases step with
  | rest | shuffle => exact .kept owned nofun nofun rfl rfl
  | answer origin category =>
      refine .kept owned nofun (fun outgoing isSaid => ?_) rfl rfl
      obtain ⟨resource, _, rfl⟩ := List.mem_map.mp isSaid
      rfl
  | publish isNow _ published =>
      rw [find?_owned_publish published] at owned
      split at owned
      next isNew =>
        cases owned
        exact .accepted (congrArg (fun id => [id]) isNew.symm) nofun (timely isNow)
      next notNew =>
        exact .kept owned (fun isNew => notNew (List.mem_singleton.mp isNew)) nofun rfl rfl
  | turn isNow =>
      rw [timely isNow] at owned ⊢
      obtain ⟨isSaid, isOwned, _⟩ := regular.turn_spec now
      rw [isOwned] at owned
      rw [isSaid]
      split at owned
      next isDue =>
        obtain ⟨earlier, wasOwned, rfl⟩ := Option.map_eq_some_iff.mp owned
        obtain ⟨scheduled, found, past⟩ := regular.arranged.mem_due.mp isDue
        rw [wasOwned] at found
        cases found
        have listed : earlier.resource ∈ publisher.dues now :=
          regular.arranged.mem_dues.mpr
            ⟨earlier, (regular.named wasOwned).symm ▸ wasOwned, rfl, past⟩
        refine .announced wasOwned nofun (List.mem_map_of_mem listed) ?_ ?_
        · rw [regular.isHello wasOwned, decide_eq_true rfl]
        · rw [Scheduled.nextAnnounce_announcedAt,
            Scheduled.interval_of_resource (earlier.resource_announcedAt now)]
      next notDue =>
        refine .kept owned nofun (fun outgoing isHello => ?_) rfl rfl
        obtain ⟨resource, listed, rfl⟩ := List.mem_map.mp isHello
        obtain ⟨scheduled, found, rfl, past⟩ := regular.arranged.mem_dues.mp listed
        rw [regular.isHello found]
        refine decide_eq_false fun isId => notDue ?_
        exact regular.arranged.mem_due.mpr ⟨scheduled, isId ▸ found, past⟩
  | commit isNow committed =>
      rw [timely isNow] at committed
      obtain ⟨scheduled, edited, wasOwned, rfl, isOwned, nextRegular⟩ :=
        regular.commit_spec committed
      have announced := nextRegular.isHello ((isOwned _).trans (if_pos rfl)) id
      rw [Scheduled.resource_announcedAt] at announced
      rw [isOwned] at owned
      split at owned
      next isId =>
        subst isId
        cases owned
        refine .announced wasOwned nofun List.mem_cons_self ?_ ?_
        · rw [announced, decide_eq_true rfl]
        · rw [Scheduled.nextAnnounce_announcedAt,
            Scheduled.interval_of_resource (edited.resource_announcedAt now)]
      next different =>
        refine .kept owned nofun (fun outgoing isSaid => ?_) rfl rfl
        rw [List.mem_singleton.mp isSaid, announced]
        exact decide_eq_false fun isId => different isId.symm
  | stop =>
      rw [regular.stop.1] at owned
      cases owned

/-- Only what is owned is announced. -/
theorem isSome_of_isHello
    (step : publisher.Step occasion said accepted next)
    (regular : next.Regular)
    {outgoing : Outgoing}
    (isSaid : outgoing ∈ said)
    {id : ResourceId}
    (isHello : outgoing.isHello id = true) :
    (next.owned.find? id).isSome := by
  cases step.spoken isSaid with
  | hello owned =>
      rw [regular.isHello owned] at isHello
      rw [← of_decide_eq_true isHello, owned]
      rfl
  | answer => cases isHello
  | @byeBye _ scheduled _ _ =>
      obtain ⟨_, ⟨⟩⟩ := Outgoing.exists_hello_of_isHello
        (show (byeBye scheduled.resource).payload = Wire.Message.byeBye.encode from rfl) isHello

end Step

end Publisher

end Discovery
