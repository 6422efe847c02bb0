import Discovery.Publisher.Interval
import Discovery.Resource.Local
import Discovery.Table.Shuffle
import Discovery.Timer
import Discovery.Wire.Encode

namespace Discovery

/-!
# Publishers

A publisher owns the resources that an agent has published.  It announces each
one when its time comes, answers queries, applies edits and, when it stops,
withdraws everything with a bye-bye.  The times of the next announcements are
kept twice: with each resource, and in a schedule that lists them in order.
The resources themselves are in no order: whoever goes through all of them
meets some of them first (`Publisher.front`), and these may become others at
any time.
-/

/-- A resource and the time of its next announcement. -/
structure Scheduled where
  resource : LocalResource
  nextAnnounce : Instant
  deriving DecidableEq, Repr

/-- A place in the schedule. -/
structure Slot where
  due : Instant
  id : ResourceId
  deriving DecidableEq, Repr

/-- Slots are ordered by time and then by resource. -/
def Slot.order : Slot → Slot → Ordering :=
  compareLex (compareOn Slot.due) (compareOn Slot.id)

instance : Std.TransCmp Slot.order :=
  inferInstanceAs (Std.TransCmp (compareLex (compareOn Slot.due) (compareOn Slot.id)))

instance : Std.LawfulEqCmp Slot.order where
  eq_of_compare {first second} same := by
    simp only [Slot.order, compareLex_eq_eq, compareOn, Std.LawfulEqCmp.compare_eq_iff_eq] at same
    cases first
    cases second
    simp_all

/-- The resources of an agent and their schedule. -/
structure Publisher where
  owned : Table ResourceId Scheduled
  schedule : Table Slot Unit Slot.order
  /-- What was owned when the publisher stopped. -/
  withdrawn : Table ResourceId LocalResource
  /--
  Whether the publisher has stopped.  It ceases to accept and to announce at once,
  because stopping is carried out as a whole, so one mark stands for both.
  -/
  stopped : Bool
  timer : Timer
  /-- The resources that come first when all of them are gone through. -/
  front : List ResourceId
  deriving DecidableEq, Repr

namespace Publisher

/-- A publisher that owns nothing. -/
def new : Publisher :=
  ⟨∅, ∅, ∅, false, .new, []⟩

/-- The resources that are owned, in the order in which they are gone through. -/
def resources (publisher : Publisher) : List LocalResource :=
  (publisher.owned.shuffledValues publisher.front).map Scheduled.resource

theorem mem_resources {publisher : Publisher} {resource : LocalResource} :
    resource ∈ publisher.resources ↔
      ∃ id scheduled, publisher.owned.find? id = some scheduled ∧
        scheduled.resource = resource := by
  simp only [resources, List.mem_map, Table.mem_shuffledValues, Table.mem_values_iff]
  constructor
  · rintro ⟨scheduled, ⟨id, owned⟩, isResource⟩
    exact ⟨id, scheduled, owned, isResource⟩
  · rintro ⟨id, scheduled, owned, isResource⟩
    exact ⟨scheduled, ⟨id, owned⟩, isResource⟩

/-- Who owns nothing lists nothing. -/
theorem resources_of_empty {publisher : Publisher} (nothing : publisher.owned = ∅) :
    publisher.resources = [] := by
  refine List.eq_nil_iff_forall_not_mem.mpr fun resource listed => ?_
  obtain ⟨id, scheduled, owned, _⟩ := mem_resources.mp listed
  rw [nothing] at owned
  cases owned

/-- A resource that is owned or was withdrawn, as it is now. -/
def resource? (publisher : Publisher) (id : ResourceId) : Option LocalResource :=
  match publisher.owned.find? id with
  | some scheduled => some scheduled.resource
  | none => publisher.withdrawn.find? id

/-- The time of the next announcement. -/
def nextDeadline? (publisher : Publisher) : Option Instant :=
  publisher.schedule.keys.head?.map Slot.due

/-- Own a resource and schedule its first announcement. -/
def enter (publisher : Publisher) (resource : LocalResource) (due : Instant) : Publisher :=
  { publisher with
    owned := publisher.owned.insert resource.id ⟨resource, due⟩
    schedule := publisher.schedule.insert ⟨due, resource.id⟩ () }

/-- Schedule the announcement that follows one made at the given time. -/
def reschedule (publisher : Publisher) (id : ResourceId) (announced : Instant) : Publisher :=
  match publisher.owned.find? id with
  | none => publisher
  | some scheduled =>
      let due := announced + announceInterval scheduled.resource.expiry
      { publisher with
        owned := publisher.owned.insert id { scheduled with nextAnnounce := due }
        schedule :=
          (publisher.schedule.erase ⟨scheduled.nextAnnounce, id⟩).insert ⟨due, id⟩ () }

/-- The resources whose time has come, the earliest first. -/
def due (publisher : Publisher) (now : Instant) : List ResourceId :=
  (publisher.schedule.keys.takeWhile fun slot => decide (slot.due ≤ now)).map Slot.id

/-- Take the resources whose time has come and schedule them anew. -/
def takeDue (publisher : Publisher) (now : Instant) : List LocalResource × Publisher :=
  let due := publisher.due now
  let rescheduled := due.foldl (fun current id => current.reschedule id now) publisher
  (due.filterMap fun id => (rescheduled.owned.find? id).map Scheduled.resource, rescheduled)

/-- The announcement of a resource to everyone. -/
def hello (resource : LocalResource) : Outgoing :=
  .broadcast resource.id (Wire.Message.hello resource.announcement).encode

/-- The announcement of a resource to the one who asked. -/
def answerTo (origin : Origin) (resource : LocalResource) : Outgoing :=
  .reply origin resource.id (Wire.Message.reply resource.announcement).encode

/-- The withdrawal of a resource. -/
def byeBye (resource : LocalResource) : Outgoing :=
  .broadcast resource.id Wire.Message.byeBye.encode

/-- Accept a resource whose announcement the others will accept. -/
def checkResource (resource : LocalResource) : Except Wire.WireError Unit := do
  Wire.checkText resource.category
  Wire.checkText resource.connection
  Wire.checkAttributes resource.attributes

/-- Publish a resource: it is announced in the next turn of the timer. -/
def publish
    (publisher : Publisher)
    (now : Instant)
    (resource : LocalResource) : Except AgentError Publisher :=
  match checkResource resource with
  | .error cause => .error (.unencodable cause)
  | .ok () =>
      if publisher.stopped then .error .disposed
      else
        let entered := publisher.enter resource now
        .ok { entered with timer := entered.timer.armEarlier now }

/-- What is done when the timer fires: announce what is due. -/
def announce (publisher : Publisher) (now : Instant) : List Outgoing × Publisher :=
  if publisher.stopped then ([], publisher)
  else
    let (due, rescheduled) := publisher.takeDue now
    ( due.map hello
    , { rescheduled with timer := rescheduled.timer.armEarlier? rescheduled.nextDeadline? } )

/-- Answer a query: one reply for each resource of the category. -/
def answer (publisher : Publisher) (origin : Origin) (category : String) : List Outgoing :=
  (publisher.resources.filter fun resource => resource.category == category).map
    (answerTo origin)

/-- Apply an edit to a resource that is owned, and announce the result at once. -/
def commit
    (publisher : Publisher)
    (now : Instant)
    (editor : Editor) : Except AgentError (List Outgoing × Publisher) :=
  match publisher.owned.find? editor.resource with
  | none => .error .disposed
  | some scheduled =>
      match scheduled.resource.edit editor.baseline editor.changes with
      | .error cause => .error cause
      | .ok edited =>
          let changed :=
            { publisher with
              owned :=
                publisher.owned.insert editor.resource { scheduled with resource := edited } }
          let rescheduled := changed.reschedule editor.resource now
          .ok
            ( [hello edited]
            , { rescheduled with
                timer := rescheduled.timer.armEarlier? rescheduled.nextDeadline? } )

/-- Withdraw every resource for good. -/
def stop (publisher : Publisher) : List Outgoing × Publisher :=
  if publisher.stopped then ([], publisher)
  else
    ( publisher.resources.map byeBye
    , { owned := ∅
        schedule := ∅
        withdrawn := publisher.owned.map fun _ scheduled => scheduled.resource
        stopped := true
        timer := publisher.timer.close
        front := publisher.front } )

/-- One turn of the announcement timer. -/
def turn (publisher : Publisher) (now : Instant) : List Outgoing × Publisher :=
  let (fires, timer) := publisher.timer.turn now
  if fires then announce { publisher with timer := timer } now
  else ([], { publisher with timer := timer })

end Publisher

end Discovery
