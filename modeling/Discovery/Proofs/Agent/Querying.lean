import Discovery.Proofs.Agent.Serial
import Discovery.Proofs.Agent.Transmission

namespace Discovery

/-!
# Queries mark the lives of categories

A category lives while it has open subscriptions, and everyone is asked for its
resources once at the beginning of each life.  So the queries that an agent has
sent for a category are as many as the subscriptions that found none open
(`Moment.queries_mark_lives`), whatever else has happened and whatever has
become of earlier lives.
-/

/-- Whether an output is a query for a category, as others read it. -/
def Output.isQuery (category : String) : Output → Bool
  | .sent outgoing =>
      match Wire.Message.decode outgoing.payload with
      | .ok (.query wanted) => wanted == category
      | _ => false
  | _ => false

/-- How many subscriptions to a category are open. -/
def Subscriber.openCountIn (subscriber : Subscriber) (name : String) : Nat :=
  subscriber.roll.count fun standing => standing.category == name && !standing.disposed

namespace Output

variable {category : String}

theorem isQuery_iff
    {output : Output} :
    output.isQuery category = true ↔ ∃ outgoing, output = .sent outgoing ∧
      Wire.Message.decode outgoing.payload = .ok (.query category) := by
  cases output with
  | sent outgoing =>
      unfold isQuery
      dsimp only
      split
      next wanted read => simp [read]
      next other => simpa using other category
  | started | startFailed | joined | left | stopped | overdrawn | updated | acted | asked =>
      simp [isQuery]

theorem not_isQuery_of_concernsUsers
    {output : Output}
    (concerns : output.concernsUsers = true) :
    output.isQuery category = false := by
  cases output <;> first | rfl | cases concerns

/-- A message that is sent is a query for a category only if it was written as one. -/
theorem eq_query_of_isQuery
    {outgoing : Outgoing}
    {message : Wire.Message}
    (payload : outgoing.payload = message.encode)
    (isQuery : isQuery category (.sent outgoing) = true) :
    message = .query category := by
  obtain ⟨_, same, read⟩ := isQuery_iff.mp isQuery
  cases same
  rw [payload] at read
  exact (Wire.Message.eq_of_decode_encode read).symm

end Output

/-- A publisher sends no queries. -/
theorem Publisher.Says.not_isQuery
    {stopping : Prop}
    {before after : Publisher}
    {outgoing : Outgoing}
    (spoken : Says stopping before after outgoing)
    (category : String) :
    Output.isQuery category (.sent outgoing) = false := by
  refine Bool.eq_false_iff.mpr fun isQuery => ?_
  cases spoken with
  | @hello _ scheduled _ =>
      cases Output.eq_query_of_isQuery (show (Publisher.hello scheduled.resource).payload =
        (Wire.Message.hello scheduled.resource.announcement).encode from rfl) isQuery
  | @answer _ scheduled _ origin =>
      cases Output.eq_query_of_isQuery (show (answerTo origin scheduled.resource).payload =
        (Wire.Message.reply scheduled.resource.announcement).encode from rfl) isQuery
  | @byeBye _ scheduled _ _ =>
      cases Output.eq_query_of_isQuery (show (Publisher.byeBye scheduled.resource).payload =
        Wire.Message.byeBye.encode from rfl) isQuery

namespace Subscriber

variable {subscriber next : Subscriber} {name : String} {id : Nat} {isFirst : Bool}

/-- A category is present just while a subscription to it is open. -/
theorem openCountIn_eq_zero_iff
    (sound : subscriber.Sound)
    (running : subscriber.stopped = false) :
    subscriber.openCountIn name = 0 ↔ subscriber.categories.find? name = none := by
  have listed : subscriber.openCountIn name = 0 ↔ ∀ id standing,
      subscriber.roll.find? id = some standing → standing.category = name →
        standing.disposed = true := by
    simp [openCountIn, Table.count, Table.values, List.countP_eq_zero, Table.find?_eq_some_iff]
  rw [listed]
  constructor
  · intro ended
    refine Option.eq_none_iff_forall_ne_some.mpr fun category found => ?_
    have enrolled := subscriber.find?_enrolment name
    rw [found, Option.map_some] at enrolled
    obtain ⟨member, isMember⟩ := List.exists_mem_of_ne_nil _ (sound.inhabited enrolled)
    cases ended _ _ (sound.rolled enrolled isMember) rfl
  · rintro absent id standing rolled rfl
    by_contra isOpen
    obtain ⟨members, enrolled, _⟩ := sound.enrolled running rolled (Bool.eq_false_iff.mpr isOpen)
    rw [find?_enrolment, absent] at enrolled
    cases enrolled

/-- A subscription is the first one just if none was open, and then it is the only one. -/
theorem openCountIn_subscribe
    (sound : subscriber.Sound)
    (joined : subscriber.subscribe name = (.ok (id, isFirst), next)) :
    (isFirst = true ↔ subscriber.openCountIn name = 0) ∧
      next.openCountIn name = subscriber.openCountIn name + 1 := by
  obtain ⟨epoch, isJoined⟩ := subscribe_ok joined
  constructor
  · rw [openCountIn_eq_zero_iff sound isJoined.running]
    have ends := subscriber.subscribes_subscribe name
    rw [joined] at ends
    cases ends with
    | further _ _ found => simp [found]
    | first _ _ absent => simp [absent]
  · have counted := Table.count_insert subscriber.roll id ⟨id, name, epoch, false⟩
      fun standing => standing.category == name && !standing.disposed
    rw [isJoined.unused sound] at counted
    simpa [openCountIn, isJoined.roll] using counted

/-- The beginning of the life of a category. -/
structure Opens (subscriber : Subscriber) (name : String) (id : Nat) : Prop where
  category : ∃ category, subscriber.categories.find? name = some category ∧
    category.resources = ∅ ∧ category.dirty = false ∧ category.members = [id] ∧
      subscriber.serial category.epoch = 0
  subscription : ∃ known, subscriber.subscriptions.find? id = some known ∧
    known.category = name ∧ subscriber.serial known.epoch = 0

/-- The first subscription to a category finds nothing in it, and its serial number at 0. -/
theorem opens_subscribe
    (joined : subscriber.subscribe name = (.ok (id, true), next)) :
    next.Opens name id := by
  have ends := subscriber.subscribes_subscribe name
  rw [joined] at ends
  cases ends with
  | first =>
      exact ⟨⟨_, by rw [Table.find?_insert, if_pos rfl], rfl, rfl, rfl, by simp [serial]⟩,
        ⟨_, by rw [Table.find?_insert, if_pos rfl], rfl, by simp [serial, Subscription.new]⟩⟩

/-- A category that can be subscribed to can be asked for. -/
theorem isQuery_of_subscribe
    (joined : subscriber.subscribe name = (.ok (id, isFirst), next)) :
    Output.isQuery name (.sent (.broadcast .nil (Wire.Message.query name).encode)) = true := by
  refine Output.isQuery_iff.mpr ⟨_, rfl, ?_⟩
  have ends := subscriber.subscribes_subscribe name
  rw [joined] at ends
  have valid : (Wire.Message.query name).validate = .ok () := by
    cases ends with
    | further valid | first valid => exact valid
  exact Wire.Message.decode_encode valid

end Subscriber

/--
Every query for a category among some outputs was broadcast on the nil stream, as
it is written, after the transport had been started and before it was stopped.
-/
def Output.QueriesOnNil (category : String) (outputs : List Output) : Prop :=
  ∀ ⦃before further : List Output⦄ ⦃outgoing : Outgoing⦄,
    outputs = before ++ .sent outgoing :: further →
      Output.isQuery category (.sent outgoing) = true →
        outgoing = .broadcast .nil (Wire.Message.query category).encode ∧
          Output.running before = true

namespace Output.QueriesOnNil

variable {category : String} {outputs : List Output}

/-- One more output keeps to it if it does so itself. -/
theorem concat
    (onNil : QueriesOnNil category outputs)
    {output : Output}
    (last : ∀ {outgoing}, output = .sent outgoing → isQuery category output = true →
      outgoing = .broadcast .nil (Wire.Message.query category).encode ∧
        running outputs = true) :
    QueriesOnNil category (outputs ++ [output]) := by
  intro before further outgoing split isQuery
  rcases List.eq_nil_or_concat further with rfl | ⟨rest, final, rfl⟩
  · obtain ⟨rfl, same⟩ := List.append_inj' split rfl
    cases same
    exact last rfl isQuery
  · rw [List.concat_eq_append, ← List.cons_append, ← List.append_assoc] at split
    exact onNil (List.append_inj' split rfl).1 isQuery

/-- So do any number of outputs that are no queries. -/
theorem append
    (onNil : QueriesOnNil category outputs)
    {more : List Output}
    (others : ∀ output ∈ more, isQuery category output = false) :
    QueriesOnNil category (outputs ++ more) := by
  induction more using List.reverseRecOn with
  | nil => rwa [List.append_nil]
  | append_singleton earlier output inductionHypothesis =>
      have none : isQuery category output = false := others output (by simp)
      rw [← List.append_assoc]
      refine (inductionHypothesis fun other member =>
        others other (List.mem_append_left _ member)).concat fun _ isQuery => ?_
      rw [none] at isQuery
      cases isQuery

end Output.QueriesOnNil

namespace Progress

/-- What becomes of a request to subscribe, and who is asked. -/
inductive Joins (progress : Progress) (category : String) :
    Except AgentError Nat × Progress → Prop where
  | refused
      {cause : AgentError}
      {after : Progress}
      (subscriber : after.agent.subscriberOrNew = progress.agent.subscriberOrNew)
      (outputs : Adds (fun output => output.concernsUsers = true) progress after) :
      Joins progress category (.error cause, after)
  | further
      {id : Nat}
      {next : Subscriber}
      {between : Progress}
      (joined : progress.agent.subscriberOrNew.subscribe category = (.ok (id, false), next))
      (outputs : Adds (fun output => output.concernsUsers = true) progress between) :
      Joins progress category (.ok id, between.enterSubscriber next)
  | first
      {id : Nat}
      {next : Subscriber}
      {between : Progress}
      (joined : progress.agent.subscriberOrNew.subscribe category = (.ok (id, true), next))
      (outputs : Adds (fun output => output.concernsUsers = true) progress between)
      (running : Output.running between.outputs = true) :
      Joins progress category
        (.ok id, (between.enterSubscriber next).send
          [.broadcast .nil (Wire.Message.query category).encode])

theorem joins_subscribe
    {progress : Progress}
    (wired : progress.Wired)
    (category : String) :
    progress.Joins category (progress.subscribe category) := by
  unfold subscribe
  by_cases disposed : progress.agent.lifecycle = .disposed
  · rw [if_pos disposed]
    exact .refused rfl (.nothing rfl)
  rw [if_neg disposed]
  rcases acquired : progress.acquire with ⟨cause | _, between⟩
  · have lull := Lull.acquire disposed
    rw [acquired] at lull
    exact .refused lull.subscriber lull.idle.outputs
  · have lull := Lull.join disposed acquired
    have known : between.activate.agent.subscriber.getD .new = progress.agent.subscriberOrNew :=
      lull.subscriber
    dsimp only
    rw [known]
    rcases joined : progress.agent.subscriberOrNew.subscribe category with
      ⟨cause | ⟨id, isFirst⟩, next⟩
    · rw [Subscriber.subscribe_error joined]
      have left := Lull.release
        (between.activate.enterSubscriber progress.agent.subscriberOrNew)
      have entered : Adds (fun output => output.concernsUsers = true) between.activate
          (between.activate.enterSubscriber progress.agent.subscriberOrNew) := .nothing rfl
      exact .refused left.subscriber
        (left.idle.outputs.trans (entered.trans lull.idle.outputs))
    · cases isFirst with
      | false => exact .further joined lull.idle.outputs
      | true => exact .first joined lull.idle.outputs (wired.running_of_acquire acquired).2

/-- Whether a request to subscribe succeeds and takes the open subscriptions from none to one. -/
def opensLife
    (progress : Progress)
    (category : String)
    (result : Except AgentError Nat × Progress) : Bool :=
  result.1.isOk && progress.agent.subscriberOrNew.openCountIn category == 0 &&
    result.2.agent.subscriberOrNew.openCountIn category == 1

/-- A request to subscribe asks everyone if it brings its category to life, and nobody if not. -/
theorem Joins.outputs
    {progress : Progress}
    {category : String}
    {result : Except AgentError Nat × Progress}
    (joins : progress.Joins category result)
    (sound : progress.agent.subscriberOrNew.Sound) :
    ∃ more, (∀ output ∈ more, output.isQuery category = false) ∧
      (progress.opensLife category result = false ∧
          result.2.outputs = progress.outputs ++ more ∨
        progress.opensLife category result = true ∧
          result.2.outputs = progress.outputs ++ more ++
            [.sent (.broadcast .nil (Wire.Message.query category).encode)] ∧
          Output.running (progress.outputs ++ more) = true ∧
          ∃ id next, progress.agent.subscriberOrNew.subscribe category = (.ok (id, true), next) ∧
            result.1 = .ok id ∧ result.2.agent.subscriberOrNew = next) := by
  have others {more : List Output} (concern : ∀ output ∈ more, output.concernsUsers = true) :
      ∀ output ∈ more, output.isQuery category = false :=
    fun output isMore => Output.not_isQuery_of_concernsUsers (concern output isMore)
  cases joins with
  | refused subscriber adds =>
      obtain ⟨more, outputs, concern⟩ := adds
      exact ⟨more, others concern, Or.inl ⟨rfl, outputs⟩⟩
  | further joined adds =>
      obtain ⟨more, outputs, concern⟩ := adds
      refine ⟨more, others concern, Or.inl ⟨?_, outputs⟩⟩
      have some : progress.agent.subscriberOrNew.openCountIn category ≠ 0 :=
        fun none => Bool.false_ne_true ((Subscriber.openCountIn_subscribe sound joined).1.mpr none)
      simp [opensLife, some]
  | @first id next between joined adds running =>
      obtain ⟨more, outputs, concern⟩ := adds
      obtain ⟨isFirst, count⟩ := Subscriber.openCountIn_subscribe sound joined
      refine ⟨more, others concern,
        Or.inr ⟨?_, ?_, outputs ▸ running, id, next, joined, rfl, rfl⟩⟩
      · have none := isFirst.mp rfl
        change (true && progress.agent.subscriberOrNew.openCountIn category == 0 &&
          next.openCountIn category == 1) = true
        rw [count, none]
        rfl
      · change between.outputs ++ _ = _
        rw [outputs]
        rfl

end Progress

namespace Moment

/-- Whether what happens is a subscription that brings a category to life. -/
def opens (moment : Moment) (category : String) : Occurrence → Bool
  | .errand (.subscribe wanted) =>
      wanted == category &&
        moment.progress.opensLife category (moment.progress.subscribe wanted)
  | _ => false

/-- How many times that happens in a run. -/
def openings (category : String) : Moment → List Occurrence → Nat
  | _, [] => 0
  | moment, occurrence :: rest =>
      (if moment.opens category occurrence then 1 else 0) +
        openings category (moment.after occurrence) rest

/-- Nothing else asks for a category. -/
theorem isQuery_eq_false_of_other
    {moment : Moment}
    {occurrence : Occurrence}
    {category : String}
    (other : occurrence ≠ .errand (.subscribe category)) :
    ∃ more, (moment.after occurrence).outputs = moment.outputs ++ more ∧
      ∀ output ∈ more, output.isQuery category = false := by
  obtain ⟨said, accepted, effect, _⟩ := moment.effect_after occurrence
  obtain ⟨more, outputs, follows⟩ := effect.outputs
  refine ⟨more, outputs, fun output isMore => ?_⟩
  cases follows output isMore with
  | users passes => exact Output.not_isQuery_of_concernsUsers passes.concerns
  | report reports => cases output <;> first | rfl | cases reports
  | updated => rfl
  | said isSaid => exact (effect.publisher.spoken isSaid).not_isQuery category
  | @query wanted asked =>
      refine Bool.eq_false_iff.mpr fun isQuery => other ?_
      cases Output.eq_query_of_isQuery (show Outgoing.payload _ =
        (Wire.Message.query wanted).encode from rfl) isQuery
      exact asked.1.2

/-- What is put out for a category when something happens, but for some other outputs. -/
structure Asks
    (moment : Moment)
    (category : String)
    (occurrence : Occurrence)
    (more : List Output) : Prop where
  others : ∀ output ∈ more, output.isQuery category = false
  silent : moment.opens category occurrence = false →
    (moment.after occurrence).outputs = moment.outputs ++ more
  /-- Everyone is asked when the category comes to life. -/
  asked : moment.opens category occurrence = true →
    (moment.after occurrence).outputs = moment.outputs ++ more ++
        [.sent (.broadcast .nil (Wire.Message.query category).encode)] ∧
      Output.running (moment.outputs ++ more) = true ∧
      Output.isQuery category (.sent (.broadcast .nil (Wire.Message.query category).encode)) = true
  begun : moment.opens category occurrence = true →
    ∃ id, (moment.progress.subscribe category).1 = .ok id ∧
      (moment.after occurrence).agent.subscriberOrNew.Opens category id

theorem opens_of_other
    {moment : Moment}
    {occurrence : Occurrence}
    {category : String}
    (other : occurrence ≠ .errand (.subscribe category)) :
    moment.opens category occurrence = false := by
  unfold opens
  split
  next wanted =>
    have different : wanted ≠ category := fun same => other (congrArg _ (congrArg _ same))
    simp [different]
  next => rfl

/-- A query goes out just when a category comes to life. -/
theorem asks_after
    {moment : Moment}
    (wired : moment.progress.Wired)
    (sound : moment.agent.subscriberOrNew.Sound)
    (occurrence : Occurrence)
    (category : String) :
    ∃ more, moment.Asks category occurrence more := by
  by_cases isSubscription : occurrence = .errand (.subscribe category)
  · subst isSubscription
    have isOpens : moment.opens category (.errand (.subscribe category)) =
        moment.progress.opensLife category (moment.progress.subscribe category) := by
      simp [opens]
    obtain ⟨more, others, ends⟩ := (Progress.joins_subscribe wired category).outputs sound
    rw [← isOpens] at ends
    refine ⟨more, others, fun silent => ?_, fun opens => ?_, fun opens => ?_⟩ <;>
      rcases ends with ⟨never, outputs⟩ |
        ⟨always, outputs, running, id, next, joined, result, after⟩
    · exact outputs
    · rw [silent] at always
      cases always
    · rw [opens] at never
      cases never
    · exact ⟨outputs, running, Subscriber.isQuery_of_subscribe joined⟩
    · rw [opens] at never
      cases never
    · refine ⟨id, result, ?_⟩
      change (moment.progress.subscribe category).2.agent.subscriberOrNew.Opens category id
      rw [after]
      exact Subscriber.opens_subscribe joined
  · obtain ⟨more, outputs, others⟩ := isQuery_eq_false_of_other isSubscription
    have never : moment.opens category occurrence ≠ true := by
      simp [opens_of_other isSubscription]
    exact ⟨more, others, fun _ => outputs, fun opens => absurd opens never,
      fun opens => absurd opens never⟩

theorem asks_of_reached
    {settings : AgentSettings}
    {attempts : List (Option TransportError)}
    {moment : Moment}
    (reached : Leads (.new settings attempts) moment)
    (occurrence : Occurrence)
    (category : String) :
    ∃ more, moment.Asks category occurrence more :=
  asks_after (wired_leads reached)
    ((Orderly.new settings attempts).leads reached).subscriber.readable.sound occurrence category

/-- The queries that have been sent for a category, and how many lives it has begun. -/
structure Marked (category : String) (moment : Moment) (lives : Nat) : Prop where
  counted : moment.outputs.countP (Output.isQuery category) = lives
  onNil : Output.QueriesOnNil category moment.outputs

namespace Marked

variable {category : String} {moment : Moment} {lives : Nat}

/-- A life that begins is marked by one more query. -/
theorem after
    (marked : Marked category moment lives)
    {occurrence : Occurrence}
    {more : List Output}
    (asks : moment.Asks category occurrence more) :
    Marked category (moment.after occurrence)
      (lives + if moment.opens category occurrence then 1 else 0) := by
  have none : more.countP (Output.isQuery category) = 0 :=
    List.countP_eq_zero.mpr fun output member => by simp [asks.others output member]
  have onNil := marked.onNil.append asks.others
  cases opens : moment.opens category occurrence with
  | false =>
      have outputs := asks.silent opens
      refine ⟨?_, outputs ▸ onNil⟩
      rw [outputs, List.countP_append, marked.counted, none]
      rfl
  | true =>
      obtain ⟨outputs, running, isQuery⟩ := asks.asked opens
      refine ⟨?_, outputs ▸ onNil.concat fun same _ => ?_⟩
      · rw [outputs, List.countP_append, List.countP_append, marked.counted, none,
          List.countP_singleton, if_pos isQuery]
        rfl
      · cases same
        exact ⟨rfl, running⟩

/-- Along a run the queries are as many as the lives that have begun. -/
theorem run
    (marked : Marked category moment lives)
    {settings : AgentSettings}
    {attempts : List (Option TransportError)}
    (reached : Leads (.new settings attempts) moment)
    (occurrences : List Occurrence) :
    Marked category (occurrences.foldl Moment.after moment)
      (lives + openings category moment occurrences) := by
  induction occurrences generalizing moment lives with
  | nil => exact marked
  | cons occurrence rest inductionHypothesis =>
      obtain ⟨more, asks⟩ := asks_of_reached reached occurrence category
      have reachedNext := reached.trans (.step moment occurrence)
      have continued := inductionHypothesis (marked.after asks) reachedNext
      rw [Nat.add_assoc] at continued
      exact continued

end Marked

/--
In whatever happens to an agent, the queries that it sends for a category are as
many as the subscriptions that bring it to life.  Each of them is broadcast on
the nil stream while the transport is started.  Whatever happens next sends no
query for the category unless it brings it to life; then it sends one, and the
category is empty and its serial number 0, whatever it contained before.
-/
theorem queries_mark_lives
    (settings : AgentSettings)
    (attempts : List (Option TransportError))
    (occurrences : List Occurrence)
    {moment : Moment}
    (reached : occurrences.foldl after (.new settings attempts) = moment)
    (category : String) :
    moment.outputs.countP (Output.isQuery category) =
        openings category (.new settings attempts) occurrences ∧
      Output.QueriesOnNil category moment.outputs ∧
      Output.running moment.outputs = moment.agent.link.running ∧
      ∀ occurrence, ∃ more, moment.Asks category occurrence more := by
  have leads : Leads (.new settings attempts) moment := ⟨occurrences, reached⟩
  have new : Marked category (.new settings attempts) 0 :=
    ⟨rfl, fun before further outgoing split => by cases before <;> cases split⟩
  have marked := new.run (.refl _) occurrences
  rw [reached, Nat.zero_add] at marked
  exact ⟨marked.counted, marked.onNil, (wired_leads leads).shown,
    fun occurrence => asks_of_reached leads occurrence category⟩

/--
A category is watched twice, left by both, and watched once more; requests that
the transport or the agent refuses ask nobody.
-/
theorem queries_mark_lives_again :
    let lamp : ResourceId := ⟨List.replicate 16 1, List.length_replicate⟩
    let hello : Bytes := (Wire.Message.hello ⟨"Lamp", "attic", 30, ∅⟩).encode
    let attempts : List (Option TransportError) := [some .alreadyStarted, none, some .noRuntime]
    let occurrences : List Occurrence :=
      [ .errand (.subscribe "Lamp"), .errand (.subscribe "Lamp"), .errand (.subscribe "Lamp")
      , .errand (.receive 0 ⟨lamp, hello, .endpoint 1⟩), .errand (.disposeSubscription 1)
      , .errand (.disposeSubscription 2), .errand (.subscribe "Lamp"), .errand (.subscribe "Lamp")
      , .dispose, .errand (.subscribe "Lamp") ]
    let moment : Moment := occurrences.foldl after (.new ⟨30, 50⟩ attempts)
    moment.outputs.countP (Output.isQuery "Lamp") = 2 ∧
      openings "Lamp" (.new ⟨30, 50⟩ attempts) occurrences = 2 ∧
      Output.QueriesOnNil "Lamp" moment.outputs := by
  intro lamp hello attempts occurrences moment
  obtain ⟨counted, onNil, _⟩ :=
    queries_mark_lives ⟨30, 50⟩ attempts occurrences rfl "Lamp"
  have lives : openings "Lamp" (.new ⟨30, 50⟩ attempts) occurrences = 2 := by
    decide +kernel
  exact ⟨counted.trans lives, lives, onNil⟩

end Moment

end Discovery
