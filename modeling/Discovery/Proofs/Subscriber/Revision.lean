import Discovery.Agent.Basic
import Discovery.Proofs.Timer.Deadline
import Discovery.Table.Lemmas

namespace Discovery

/-!
# What a message revises

A message about a resource concerns one entry: what is known under one
identifier in one category.  This module states its effect in that form, as a
`Revision` that is read off the entry alone and then carried out on the whole
subscriber.  `Subscriber.handle_eq_revise` says that the two steps together are
what hearing and forgetting do.
-/

namespace Table

variable {Key Value : Type} {order : Key → Key → Ordering}
variable [Std.TransCmp order] [Std.LawfulEqCmp order]

/-- Let a key have a value or none. -/
def assign (table : Table Key Value order) (key : Key) : Option Value → Table Key Value order
  | some value => table.insert key value
  | none => table.erase key

/-- Assigning a value is inserting it. -/
theorem assign_some
    (table : Table Key Value order)
    (key : Key)
    (value : Value) :
    table.assign key (some value) = table.insert key value :=
  rfl

/-- Assigning no value is erasing. -/
theorem assign_none
    (table : Table Key Value order)
    (key : Key) :
    table.assign key none = table.erase key :=
  rfl

variable [DecidableEq Key]

/-- The assigned key finds what was assigned, and nothing else changes. -/
@[simp]
theorem find?_assign
    (table : Table Key Value order)
    (key sought : Key)
    (value? : Option Value) :
    (table.assign key value?).find? sought =
      if sought = key then value? else table.find? sought := by
  cases value? with
  | none => exact find?_erase table key sought
  | some value => exact find?_insert table key sought value

/-- Assigning what is found changes nothing. -/
theorem assign_find?
    (table : Table Key Value order)
    (key : Key) :
    table.assign key (table.find? key) = table := by
  apply ext_find?
  intro sought
  rw [find?_assign]
  split
  next isKey => rw [isKey]
  next => rfl

/-- Assignments to different keys commute. -/
theorem assign_comm
    (table : Table Key Value order)
    {first second : Key}
    (different : first ≠ second)
    (firstValue? secondValue? : Option Value) :
    (table.assign first firstValue?).assign second secondValue? =
      (table.assign second secondValue?).assign first firstValue? := by
  apply ext_find?
  intro sought
  simp only [find?_assign]
  by_cases isFirst : sought = first
  · have notSecond : sought ≠ second := fun isSecond => different (isFirst.symm.trans isSecond)
    simp only [if_pos isFirst, if_neg notSecond]
  · simp only [if_neg isFirst]

end Table

/-- The effect of one message on the entry that it concerns. -/
structure Revision where
  id : ResourceId
  category : String
  /-- What is known of the resource afterwards. -/
  entry : Option RemoteEntry
  /-- The category in which the resource is known afterwards. -/
  indexed : Option String
  /-- Whether a reader sees the difference. -/
  visible : Bool
  /-- When the new knowledge lapses. -/
  lapses : Option Instant

namespace Revision

/-- Carry a revision out in the category that it concerns. -/
def onCategory (revision : Revision) (category : Category) : Category :=
  { category with
    resources := category.resources.assign revision.id revision.entry
    dirty := category.dirty || revision.visible }

end Revision

namespace Subscriber

/-- What is known of a resource in a category, if the category is subscribed. -/
def known? (subscriber : Subscriber) (name : String) (id : ResourceId) :
    Option (Option RemoteEntry) :=
  (subscriber.categories.find? name).map fun category => category.resources.find? id

/-- The number of the present life of a category. -/
def epoch? (subscriber : Subscriber) (name : String) : Option Nat :=
  (subscriber.categories.find? name).map Category.epoch

/-- Advance the serial number of a life of a category, if one is given. -/
def advanceSerial (serials : Table Nat Nat) : Option Nat → Table Nat Nat
  | some epoch => serials.insert epoch ((serials.find? epoch).getD 0 + 1)
  | none => serials

/-- The life of a category whose serial number a revision advances. -/
def advances? (subscriber : Subscriber) (revision : Revision) : Option Nat :=
  if revision.visible then subscriber.epoch? revision.category else none

/-- Carry a revision out. -/
def revise (subscriber : Subscriber) (revision : Revision) : Subscriber :=
  { subscriber with
    categories := subscriber.categories.modify revision.category revision.onCategory
    index := subscriber.index.assign revision.id revision.indexed
    serials := advanceSerial subscriber.serials (subscriber.advances? revision)
    timer := subscriber.timer.armEarlier? revision.lapses
    called := subscriber.called || revision.visible }

/-- What an announcement revises, given what was known in its category. -/
def announced
    (subscriber : Subscriber)
    (now : Instant)
    (id : ResourceId)
    (announcement : Wire.Announcement) : Option RemoteEntry → Revision
  | none =>
      { id := id
        category := announcement.category
        entry := some ⟨.ofAnnouncement id announcement, lapse now announcement⟩
        indexed := some announcement.category
        visible := true
        lapses := some (lapse now announcement) }
  | some entry =>
      let differs := entry.resource.differsFrom announcement
      { id := id
        category := announcement.category
        entry :=
          some
            { resource := if differs then .ofAnnouncement id announcement else entry.resource
              expiresAt := lapse now announcement }
        indexed := subscriber.index.find? id
        visible := differs
        lapses := some (lapse now announcement) }

/-- What a hello or a reply revises, if it counts. -/
def heard?
    (subscriber : Subscriber)
    (now : Instant)
    (id : StreamId)
    (announcement : Wire.Announcement) : Option Revision :=
  if id.isNil ∨ subscriber.stopped ∨ subscriber.knownElsewhere id announcement.category then
    none
  else
    (subscriber.known? announcement.category id).map (subscriber.announced now id announcement)

/-- What a bye-bye revises, if it counts. -/
def withdrawn? (subscriber : Subscriber) (id : StreamId) : Option Revision :=
  if subscriber.stopped then none
  else
    (subscriber.index.find? id).map fun name =>
      { id := id
        category := name
        entry := none
        indexed := none
        visible := (subscriber.known? name id).any Option.isSome
        lapses := none }

/-- What a message on a stream revises, if it counts. -/
def revision?
    (subscriber : Subscriber)
    (now : Instant)
    (id : StreamId) : Wire.Message → Option Revision
  | .query _ => none
  | .hello announcement | .reply announcement => subscriber.heard? now id announcement
  | .byeBye => subscriber.withdrawn? id

/-- Handle a message that arrived on a stream; queries are the business of publishers. -/
def handle
    (now : Instant)
    (subscriber : Subscriber)
    (arrival : StreamId × Wire.Message) : Subscriber :=
  match arrival.2 with
  | .query _ => subscriber
  | .hello announcement | .reply announcement => subscriber.hear now arrival.1 announcement
  | .byeBye => subscriber.forget arrival.1

/-- A revision in a subscribed category is carried out on what is known there. -/
theorem revise_of_find?
    {subscriber : Subscriber}
    {revision : Revision}
    {category : Category}
    (found : subscriber.categories.find? revision.category = some category) :
    subscriber.revise revision =
      { subscriber with
        categories :=
          subscriber.categories.insert revision.category (revision.onCategory category)
        index := subscriber.index.assign revision.id revision.indexed
        serials :=
          if revision.visible then
            subscriber.serials.insert category.epoch (subscriber.serial category.epoch + 1)
          else subscriber.serials
        timer := subscriber.timer.armEarlier? revision.lapses
        called := subscriber.called || revision.visible } := by
  simp only [revise, Table.modify_eq_insert found, advances?, epoch?, found]
  cases revision.visible <;> rfl

/-- Hearing is carrying out what the announcement revises. -/
theorem hear_eq_revise
    (subscriber : Subscriber)
    (now : Instant)
    (id : StreamId)
    (announcement : Wire.Announcement) :
    subscriber.hear now id announcement =
      ((subscriber.heard? now id announcement).map subscriber.revise).getD subscriber := by
  unfold hear heard?
  split
  next ignored => rfl
  next counts =>
    unfold known?
    cases found : subscriber.categories.find? announcement.category with
    | none => rfl
    | some category =>
        dsimp only [Option.map_some, Option.getD_some]
        cases known : category.resources.find? id with
        | none =>
            rw [revise_of_find? found]
            simp only [announced, change, advance, call, serial, Revision.onCategory,
              Table.assign_some, Timer.armEarlier?, Bool.or_true, ↓reduceIte]
        | some entry =>
            rw [revise_of_find? found]
            cases differs : entry.resource.differsFrom announcement with
            | true =>
                simp only [announced, change, advance, call, serial, Revision.onCategory,
                  differs, Table.assign_some, Table.assign_find?, Timer.armEarlier?, Bool.or_true,
                  ↓reduceIte]
            | false =>
                simp only [announced, Revision.onCategory, differs, Table.assign_some,
                  Table.assign_find?, Timer.armEarlier?, Bool.or_false, Bool.false_eq_true,
                  ↓reduceIte]

/-- Forgetting is carrying out what the bye-bye revises. -/
theorem forget_eq_revise
    (subscriber : Subscriber)
    (id : StreamId) :
    subscriber.forget id =
      ((subscriber.withdrawn? id).map subscriber.revise).getD subscriber := by
  unfold forget withdrawn?
  split
  next ended => rfl
  next running =>
    cases indexed : subscriber.index.find? id with
    | none => rfl
    | some name =>
        simp only [Option.map_some, Option.getD_some, known?]
        cases found : subscriber.categories.find? name with
        | none =>
            simp only [revise, advances?, advanceSerial, Table.modify_of_find?_eq_none found,
              Table.assign_none, Timer.armEarlier?, Option.map_none, Option.any_none,
              Bool.or_false, Bool.false_eq_true, ↓reduceIte]
        | some category =>
            rw [revise_of_find? found]
            simp only [Option.map_some, Option.any_some, Table.contains]
            obtain known | ⟨entry, known⟩ := Option.eq_none_or_eq_some (category.resources.find? id)
            · have unchanged : category.resources.erase id = category.resources := by
                have same := Table.assign_find? category.resources id
                rwa [known] at same
              have kept :
                  subscriber.categories.insert name category = subscriber.categories := by
                have same := Table.assign_find? subscriber.categories name
                rwa [found] at same
              simp only [known, Revision.onCategory, Table.assign_none, unchanged, kept,
                Timer.armEarlier?, Option.isSome_none, Bool.or_false, Bool.false_eq_true,
                ↓reduceIte]
            · simp only [known, change, advance, call, serial, Revision.onCategory,
                Table.assign_none, Timer.armEarlier?, Option.isSome_some, Bool.or_true,
                ↓reduceIte]

/-- Handling a message is carrying out what it revises. -/
theorem handle_eq_revise
    (now : Instant)
    (subscriber : Subscriber)
    (arrival : StreamId × Wire.Message) :
    handle now subscriber arrival =
      ((subscriber.revision? now arrival.1 arrival.2).map subscriber.revise).getD
        subscriber := by
  obtain ⟨id, message⟩ := arrival
  cases message with
  | query category => rfl
  | hello announcement => exact hear_eq_revise subscriber now id announcement
  | reply announcement => exact hear_eq_revise subscriber now id announcement
  | byeBye => exact forget_eq_revise subscriber id

end Subscriber

end Discovery
