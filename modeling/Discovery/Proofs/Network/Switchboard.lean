import Discovery.Proofs.Network.Delivery

namespace Discovery

/-!
# Tasks that outlast their period

Each start of an endpoint opens a channel of its own and spawns a task that
empties it.  Stopping the endpoint cuts the channel off and tells the task to
end, but what waits in the channel is still there, and the task takes notice
only when its next turn comes; the endpoint may have been started again by then.
A `Switchboard` keeps every channel there has been, and the tasks may take their
turns in any order.  Its endpoints see of it what they see of a network that
forgets a queue as soon as its endpoint is stopped: each deed has the same effect
on every queue (`Switchboard.keeps`).
-/

/-- What is queued in one period of an endpoint, and the task that empties the queue. -/
structure Channel where
  endpoint : Nat
  waiting : List Delivery
  /-- Whether the task has been told to end. -/
  silenced : Bool
  ended : Bool
  deriving DecidableEq

/-- Endpoints that count from one, and every channel that has been opened for them. -/
structure Switchboard where
  made : Nat
  /-- The channel in which messages for an endpoint are queued. -/
  lines : Table Nat Nat
  /-- The channel whose task is told to end when an endpoint is stopped. -/
  running : Table Nat Nat
  channels : List Channel
  faults : Faults

namespace Switchboard

def new : Switchboard :=
  ⟨0, ∅, ∅, [], ⟨0, false⟩⟩

/-- Change a channel. -/
def amend
    (switchboard : Switchboard)
    (channel : Nat)
    (change : Channel → Channel) : Switchboard :=
  { switchboard with channels := switchboard.channels.modify channel change }

/-- Open a channel for an endpoint. -/
def openChannel (switchboard : Switchboard) (number : Nat) : Switchboard :=
  let channel := switchboard.channels.length
  { switchboard with
    lines := switchboard.lines.insert number channel
    running := switchboard.running.insert number channel
    channels := switchboard.channels ++ [⟨number, [], false, false⟩] }

/-- Start an endpoint. -/
def start
    (runtime : Bool)
    (switchboard : Switchboard)
    (number : Nat) : Except TransportError Switchboard :=
  if switchboard.running.contains number then .error .alreadyStarted
  else if runtime then .ok (switchboard.openChannel number)
  else .error .noRuntime

/-- Stop an endpoint: tell its task to end and cut its channel off. -/
def stop (switchboard : Switchboard) (number : Nat) : Switchboard :=
  match switchboard.running.find? number with
  | none => switchboard
  | some channel =>
      let silenced := switchboard.amend channel fun known => { known with silenced := true }
      { silenced with
        running := switchboard.running.erase number
        lines := switchboard.lines.erase number }

/-- Deliver a message to one endpoint. -/
def deliver (switchboard : Switchboard) (number : Nat) (delivery : Delivery) : Switchboard :=
  match switchboard.lines.find? number with
  | none => switchboard
  | some channel =>
      switchboard.amend channel fun known =>
        { known with
          waiting := known.waiting ++ List.replicate switchboard.faults.copies delivery }

/-- Deliver a message to some endpoints. -/
def deliverAll
    (switchboard : Switchboard)
    (numbers : List Nat)
    (delivery : Delivery) : Switchboard :=
  numbers.foldl (fun current number => current.deliver number delivery) switchboard

/-- Send a payload from an endpoint, started or not. -/
def send (switchboard : Switchboard) (sender : Nat) : Outgoing → Switchboard
  | .broadcast stream payload =>
      switchboard.deliverAll (switchboard.lines.keys.filter (· != sender))
        ⟨stream, payload, .endpoint sender⟩
  | .reply (.endpoint target) stream payload =>
      if target = sender then switchboard
      else switchboard.deliver target ⟨stream, payload, .endpoint sender⟩
  | .reply (.socket _) _ _ => switchboard

/--
Let the task of a channel take a turn: it hands the next message to the owner of
its endpoint.  A task that was told to end does so as soon as it gets a message,
and one whose channel is cut off when no message is left.
-/
def pump (switchboard : Switchboard) (channel : Nat) : Option (Nat × Delivery) × Switchboard :=
  match switchboard.channels[channel]? with
  | none => (none, switchboard)
  | some known =>
      if known.ended then (none, switchboard)
      else
        match known.waiting with
        | [] =>
            if switchboard.lines.find? known.endpoint = some channel then (none, switchboard)
            else (none, switchboard.amend channel fun known => { known with ended := true })
        | first :: rest =>
            if known.silenced then
              ( none
              , switchboard.amend channel fun known => { known with waiting := [], ended := true } )
            else
              ( some (known.endpoint, first)
              , switchboard.amend channel fun known => { known with waiting := rest } )

/-- The number of started endpoints. -/
def activeEndpoints (switchboard : Switchboard) : Nat :=
  switchboard.lines.size

open Network (Deed Made conditions owed)

/-- Do a deed; tasks are counted by their channels. -/
def after (switchboard : Switchboard) : Deed → Switchboard
  | .create => { switchboard with made := switchboard.made + 1 }
  | .start number runtime =>
      if 1 ≤ number ∧ number ≤ switchboard.made then
        match switchboard.start runtime number with
        | .ok next => next
        | .error _ => switchboard
      else switchboard
  | .stop number => switchboard.stop number
  | .send sender outgoing => switchboard.send sender outgoing
  | .setDuplicate duplicate =>
      { switchboard with faults := { switchboard.faults with duplicate := duplicate } }
  | .setLossy lossy =>
      { switchboard with
        faults := { switchboard.faults with lossRate := if lossy then 1 else 0 } }
  | .turn task => (switchboard.pump task).2

/-- What the owner of an endpoint is handed by a deed. -/
def handed (switchboard : Switchboard) (number : Nat) : Deed → List Delivery
  | .turn task =>
      ((switchboard.pump task).1.filter fun given => given.1 == number).toList.map Prod.snd
  | _ => []

/-- A switchboard as its endpoints see it. -/
def service : Network.Service Switchboard :=
  ⟨.new, after, handed⟩

/-- What waits at an endpoint, if it is started. -/
def queue? (switchboard : Switchboard) (number : Nat) : Option (List Delivery) :=
  (switchboard.lines.find? number).bind fun channel =>
    (switchboard.channels[channel]?).map Channel.waiting

/-- The channels that are not cut off are those of the started endpoints. -/
structure Sound (switchboard : Switchboard) : Prop where
  running : switchboard.running = switchboard.lines
  live : ∀ {number channel}, switchboard.lines.find? number = some channel →
    ∃ waiting, switchboard.channels[channel]? = some ⟨number, waiting, false, false⟩
  silenced : ∀ {channel known}, switchboard.channels[channel]? = some known →
    known.silenced = false → switchboard.lines.find? known.endpoint = some channel

section Queues

variable {switchboard : Switchboard}

theorem Sound.queue?_eq
    (sound : switchboard.Sound)
    {number channel : Nat}
    (isLine : switchboard.lines.find? number = some channel) :
    ∃ waiting, switchboard.queue? number = some waiting ∧
      switchboard.channels[channel]? = some ⟨number, waiting, false, false⟩ := by
  obtain ⟨waiting, found⟩ := sound.live isLine
  exact ⟨waiting, by rw [queue?, isLine, Option.bind_some, found, Option.map_some], found⟩

theorem Sound.waiting
    (sound : switchboard.Sound)
    {number : Nat}
    {waiting : List Delivery}
    (isWaiting : switchboard.queue? number = some waiting) :
    ∃ channel, switchboard.lines.find? number = some channel ∧
      switchboard.channels[channel]? = some ⟨number, waiting, false, false⟩ := by
  obtain ⟨channel, isLine, _⟩ := Option.bind_eq_some_iff.mp isWaiting
  obtain ⟨_, same, found⟩ := sound.queue?_eq isLine
  cases isWaiting.symm.trans same
  exact ⟨channel, isLine, found⟩

/-- Two endpoints have no channel in common. -/
theorem Sound.line_injective
    (sound : switchboard.Sound)
    {first second channel : Nat}
    (isFirst : switchboard.lines.find? first = some channel)
    (isSecond : switchboard.lines.find? second = some channel) :
    first = second := by
  obtain ⟨_, found⟩ := sound.live isFirst
  obtain ⟨_, same⟩ := sound.live isSecond
  exact congrArg Channel.endpoint (Option.some.inj (found.symm.trans same))

/-- An endpoint sees its own channel only. -/
theorem queue?_congr
    {next switchboard : Switchboard}
    {number : Nat}
    (sameLine : next.lines.find? number = switchboard.lines.find? number)
    (sameChannel : ∀ channel, switchboard.lines.find? number = some channel →
      next.channels[channel]? = switchboard.channels[channel]?) :
    next.queue? number = switchboard.queue? number := by
  unfold queue?
  rw [sameLine]
  cases isLine : switchboard.lines.find? number with
  | none => rfl
  | some channel => rw [Option.bind_some, Option.bind_some, sameChannel channel isLine]

theorem channels_amend
    (switchboard : Switchboard)
    (channel sought : Nat)
    (change : Channel → Channel) :
    (switchboard.amend channel change).channels[sought]? =
      if channel = sought then (switchboard.channels[sought]?).map change
      else switchboard.channels[sought]? := by
  rw [amend, List.getElem?_modify]
  split <;> simp

/-- What is queued at a started endpoint changes, and nothing else. -/
theorem Sound.refill
    (sound : switchboard.Sound)
    {number channel : Nat}
    (isLine : switchboard.lines.find? number = some channel)
    (change : List Delivery → List Delivery) :
    let next :=
      switchboard.amend channel fun known => { known with waiting := change known.waiting }
    next.Sound ∧ ∀ sought, next.queue? sought =
      if sought = number then (switchboard.queue? sought).map change
      else switchboard.queue? sought := by
  intro next
  have found := switchboard.channels_amend channel
  refine ⟨⟨sound.running, fun {sought line} isSought => ?_, fun {line known} isKnown open' => ?_⟩,
    fun sought => ?_⟩
  · obtain ⟨waiting, isChannel⟩ := sound.live isSought
    by_cases same : channel = line
    · exact ⟨change waiting, (found line _).trans (by rw [if_pos same, isChannel]; rfl)⟩
    · exact ⟨waiting, (found line _).trans (by rw [if_neg same, isChannel])⟩
  · rw [show next.channels[line]? = _ from found line _] at isKnown
    split at isKnown
    next =>
      obtain ⟨before, wasKnown, rfl⟩ := Option.map_eq_some_iff.mp isKnown
      have isOwn := sound.silenced wasKnown open'
      exact isOwn
    next => exact sound.silenced isKnown open'
  · split
    next isNumber =>
      rw [isNumber, queue?, queue?, show next.lines = switchboard.lines from rfl, isLine,
        Option.bind_some, Option.bind_some, show next.channels[channel]? = _ from found channel _,
        if_pos rfl, Option.map_map, Option.map_map]
      rfl
    next other =>
      refine queue?_congr rfl fun line isSought => (found line _).trans (if_neg ?_)
      rintro rfl
      exact other (sound.line_injective isSought isLine)

/-- What becomes of a channel that is cut off concerns no endpoint. -/
theorem Sound.neglect
    (sound : switchboard.Sound)
    {channel : Nat}
    (cutOff : ∀ number, switchboard.lines.find? number ≠ some channel)
    {change : Channel → Channel}
    (alike : ∀ known, (change known).silenced = known.silenced) :
    (switchboard.amend channel change).Sound ∧
      ∀ number, (switchboard.amend channel change).queue? number = switchboard.queue? number := by
  have found := switchboard.channels_amend channel
  have other : ∀ {number line}, switchboard.lines.find? number = some line → channel ≠ line := by
    rintro number _ isLine rfl
    exact cutOff number isLine
  refine ⟨⟨sound.running, fun {number line} isLine => ?_, fun {line known} isKnown open' => ?_⟩,
    fun number => ?_⟩
  · obtain ⟨waiting, isChannel⟩ := sound.live isLine
    exact ⟨waiting, (found line change).trans ((if_neg (other isLine)).trans isChannel)⟩
  · rw [found] at isKnown
    split at isKnown
    next same =>
      obtain ⟨before, wasKnown, rfl⟩ := Option.map_eq_some_iff.mp isKnown
      have isLine := sound.silenced wasKnown ((alike before).symm.trans open')
      exact absurd (same ▸ isLine) (cutOff before.endpoint)
    next => exact sound.silenced isKnown open'
  · exact queue?_congr rfl fun line isLine => (found line change).trans (if_neg (other isLine))

/-- A new channel is that of its endpoint, and nothing waits in it. -/
theorem Sound.openChannel
    (sound : switchboard.Sound)
    {number : Nat}
    (absent : switchboard.lines.find? number = none) :
    (switchboard.openChannel number).Sound ∧
      ∀ sought, (switchboard.openChannel number).queue? sought =
        if sought = number then some [] else switchboard.queue? sought := by
  have kept : ∀ {line known}, switchboard.channels[line]? = some known →
      (switchboard.openChannel number).channels[line]? = some known := fun found =>
    (List.getElem?_append_left (List.getElem?_eq_some_iff.mp found).1).trans found
  have isNew : (switchboard.openChannel number).channels[switchboard.channels.length]? =
      some ⟨number, [], false, false⟩ := List.getElem?_concat_length
  have isLine : ∀ sought, (switchboard.openChannel number).lines.find? sought =
      if sought = number then some switchboard.channels.length
      else switchboard.lines.find? sought := fun sought => Table.find?_insert ..
  refine ⟨⟨?_, fun {sought line} found => ?_, fun {line known} isKnown open' => ?_⟩,
    fun sought => ?_⟩
  · rw [Switchboard.openChannel, sound.running]
  · rw [isLine] at found
    split at found
    next same =>
      cases found
      exact ⟨[], same ▸ isNew⟩
    next =>
      obtain ⟨waiting, isChannel⟩ := sound.live found
      exact ⟨waiting, kept isChannel⟩
  · rw [isLine]
    change (switchboard.channels ++ _)[line]? = _ at isKnown
    rw [List.getElem?_append] at isKnown
    split at isKnown
    next =>
      have isOwn := sound.silenced isKnown open'
      rw [if_neg, isOwn]
      intro same
      rw [same, absent] at isOwn
      cases isOwn
    next beyond =>
      obtain ⟨isLast, rfl⟩ := List.getElem?_eq_some_iff.mp isKnown
      rw [List.length_singleton] at isLast
      have isLength : line = switchboard.channels.length := by omega
      simp [isLength]
  · split
    next same => rw [queue?, isLine, if_pos same, Option.bind_some, isNew]; rfl
    next other =>
      refine queue?_congr ((isLine sought).trans (if_neg other)) fun line found => ?_
      obtain ⟨waiting, isChannel⟩ := sound.live found
      rw [kept isChannel, isChannel]

/-- An endpoint that is stopped has no channel any more. -/
theorem Sound.stop
    (sound : switchboard.Sound)
    (number : Nat) :
    (switchboard.stop number).Sound ∧
      (∀ sought, (switchboard.stop number).queue? sought =
        if sought = number then none else switchboard.queue? sought) ∧
      (switchboard.stop number).made = switchboard.made ∧
      (switchboard.stop number).faults = switchboard.faults := by
  unfold Switchboard.stop
  rw [sound.running]
  split
  next absent =>
    refine ⟨sound, fun sought => ?_, rfl, rfl⟩
    split
    next same => rw [same, queue?, absent, Option.bind_none]
    next => rfl
  next channel isLine =>
    have found := switchboard.channels_amend channel
    refine ⟨⟨rfl, fun {sought line} isSought => ?_, fun {line known} isKnown open' => ?_⟩,
      fun sought => ?_, rfl, rfl⟩
    · rw [Table.find?_erase] at isSought
      split at isSought
      next => cases isSought
      next other =>
        obtain ⟨waiting, isChannel⟩ := sound.live isSought
        refine ⟨waiting, (found line _).trans ?_⟩
        rw [if_neg, isChannel]
        rintro rfl
        exact other (sound.line_injective isSought isLine)
    · rw [show (switchboard.amend channel _).channels[line]? = _ from found line _] at isKnown
      rw [Table.find?_erase]
      split at isKnown
      next =>
        obtain ⟨before, _, rfl⟩ := Option.map_eq_some_iff.mp isKnown
        cases open'
      next other =>
        have isOwn := sound.silenced isKnown open'
        rw [if_neg, isOwn]
        intro same
        rw [same, isLine] at isOwn
        exact other (Option.some.inj isOwn)
    · have erased := Table.find?_erase switchboard.lines number sought
      split
      next same =>
        rw [if_pos same] at erased
        rw [queue?, erased, Option.bind_none]
      next other =>
        rw [if_neg other] at erased
        refine queue?_congr erased fun line isSought => (found line _).trans (if_neg ?_)
        rintro rfl
        exact other (sound.line_injective isSought isLine)

/-- The same endpoints, started or not, and the same faults. -/
structure SameLines (next switchboard : Switchboard) : Prop where
  made : next.made = switchboard.made
  lines : next.lines = switchboard.lines
  faults : next.faults = switchboard.faults

/-- A message is queued at its endpoint, if that is started. -/
theorem Sound.deliver
    (sound : switchboard.Sound)
    (number : Nat)
    (delivery : Delivery) :
    (switchboard.deliver number delivery).Sound ∧
      SameLines (switchboard.deliver number delivery) switchboard ∧
      ∀ sought, (switchboard.deliver number delivery).queue? sought =
        if sought = number then
          (switchboard.queue? sought).map
            (· ++ List.replicate switchboard.faults.copies delivery)
        else switchboard.queue? sought := by
  unfold Switchboard.deliver
  split
  next absent =>
    refine ⟨sound, ⟨rfl, rfl, rfl⟩, fun sought => ?_⟩
    split
    next same => rw [same, queue?, absent, Option.bind_none, Option.map_none]
    next => rfl
  next channel isLine =>
    obtain ⟨soundAfter, queue⟩ := sound.refill isLine
      (· ++ List.replicate switchboard.faults.copies delivery)
    exact ⟨soundAfter, ⟨rfl, rfl, rfl⟩, queue⟩

/-- A message is queued once at each of several endpoints. -/
theorem Sound.deliverAll
    (sound : switchboard.Sound)
    {numbers : List Nat}
    (distinct : numbers.Nodup)
    (delivery : Delivery) :
    (switchboard.deliverAll numbers delivery).Sound ∧
      SameLines (switchboard.deliverAll numbers delivery) switchboard ∧
      ∀ sought, (switchboard.deliverAll numbers delivery).queue? sought =
        if sought ∈ numbers then
          (switchboard.queue? sought).map
            (· ++ List.replicate switchboard.faults.copies delivery)
        else switchboard.queue? sought := by
  induction numbers generalizing switchboard with
  | nil => exact ⟨sound, ⟨rfl, rfl, rfl⟩, fun _ => (if_neg List.not_mem_nil).symm⟩
  | cons number rest inductionHypothesis =>
      obtain ⟨notRest, distinct⟩ := List.nodup_cons.mp distinct
      obtain ⟨soundFirst, same, first⟩ := sound.deliver number delivery
      obtain ⟨soundAfter, sameAfter, after⟩ := inductionHypothesis soundFirst distinct
      refine ⟨soundAfter, ⟨sameAfter.made.trans same.made, sameAfter.lines.trans same.lines,
        sameAfter.faults.trans same.faults⟩, fun sought => ?_⟩
      refine (after sought).trans ?_
      rw [first, same.faults]
      by_cases isFirst : sought = number
      · subst isFirst
        rw [if_neg notRest, if_pos rfl, if_pos List.mem_cons_self]
      · simp only [List.mem_cons, isFirst, false_or, if_false]

/-- Sending puts a message at the end of the queues of those whom it reaches. -/
theorem Sound.send
    (sound : switchboard.Sound)
    (sender : Nat)
    (outgoing : Outgoing) :
    (switchboard.send sender outgoing).Sound ∧
      SameLines (switchboard.send sender outgoing) switchboard ∧
      ∀ sought, (switchboard.send sender outgoing).queue? sought =
        (switchboard.queue? sought).map
          (· ++ if outgoing.reaches sender sought then
            List.replicate switchboard.faults.copies (outgoing.arrival sender) else []) := by
  have unreached : ∀ queue : Option (List Delivery), queue.map (· ++ []) = queue := by
    intro queue
    cases queue <;> simp
  cases outgoing with
  | broadcast stream payload =>
      obtain ⟨soundAfter, same, queue⟩ := sound.deliverAll
        (switchboard.lines.nodup_keys.filter (· != sender)) ⟨stream, payload, .endpoint sender⟩
      refine ⟨soundAfter, same, fun sought => (queue sought).trans ?_⟩
      simp only [Outgoing.reaches, Outgoing.arrival, decide_eq_true_eq]
      cases isLine : switchboard.lines.find? sought with
      | none => simp [queue?, isLine]
      | some line =>
          have isKey : sought ∈ switchboard.lines.keys := Table.mem_keys_iff.mpr ⟨line, isLine⟩
          by_cases isSender : sought = sender
          · simp [isSender]
          · simp [isKey, isSender]
  | reply origin stream payload =>
      cases origin with
      | socket =>
          exact ⟨sound, ⟨rfl, rfl, rfl⟩, fun sought => (unreached _).symm⟩
      | endpoint target =>
          by_cases toSelf : target = sender
          · rw [Switchboard.send, if_pos toSelf]
            refine ⟨sound, ⟨rfl, rfl, rfl⟩, fun sought => ?_⟩
            have notReached : ¬ (sought = target ∧ sought ≠ sender) := fun reached =>
              reached.2 (reached.1.trans toSelf)
            simp only [Outgoing.reaches, decide_eq_true_eq, if_neg notReached, unreached]
          · rw [Switchboard.send, if_neg toSelf]
            obtain ⟨soundAfter, same, queue⟩ :=
              sound.deliver target ⟨stream, payload, .endpoint sender⟩
            refine ⟨soundAfter, same, fun sought => (queue sought).trans ?_⟩
            simp only [Outgoing.reaches, Outgoing.arrival, decide_eq_true_eq]
            by_cases isTarget : sought = target
            · subst isTarget
              simp [toSelf]
            · simp [isTarget]

/-- The task of a started endpoint has handed over the first message of its queue. -/
structure Handed
    (switchboard : Switchboard)
    (number : Nat)
    (first : Delivery)
    (rest : List Delivery)
    (next : Switchboard) : Prop where
  waiting : switchboard.queue? number = some (first :: rest)
  queue : ∀ sought, next.queue? sought =
    if sought = number then some rest else switchboard.queue? sought

/--
A task that takes a turn hands over the first message of a started endpoint, or
nothing changes for any endpoint.
-/
theorem Sound.pump
    (sound : switchboard.Sound)
    (channel : Nat) :
    (switchboard.pump channel).2.Sound ∧ SameLines (switchboard.pump channel).2 switchboard ∧
      ((∃ number first rest, (switchboard.pump channel).1 = some (number, first) ∧
          switchboard.Handed number first rest (switchboard.pump channel).2) ∨
        (switchboard.pump channel).1 = none ∧
          ∀ sought, (switchboard.pump channel).2.queue? sought = switchboard.queue? sought) := by
  have idle : switchboard.Sound ∧ SameLines switchboard switchboard ∧
      ∀ sought, switchboard.queue? sought = switchboard.queue? sought :=
    ⟨sound, ⟨rfl, rfl, rfl⟩, fun _ => rfl⟩
  unfold Switchboard.pump
  split
  next => exact ⟨idle.1, idle.2.1, .inr ⟨rfl, idle.2.2⟩⟩
  next known isKnown =>
  split
  next => exact ⟨idle.1, idle.2.1, .inr ⟨rfl, idle.2.2⟩⟩
  next =>
  have line : ∀ {number}, switchboard.lines.find? number = some channel →
      known.endpoint = number ∧ known.silenced = false := by
    intro number isLine
    obtain ⟨_, found⟩ := sound.live isLine
    cases isKnown.symm.trans found
    exact ⟨rfl, rfl⟩
  split
  next =>
    split
    next => exact ⟨idle.1, idle.2.1, .inr ⟨rfl, idle.2.2⟩⟩
    next cutOff =>
      obtain ⟨soundAfter, queue⟩ := sound.neglect
        (fun number isLine => cutOff ((line isLine).1 ▸ isLine))
        (show ∀ known : Channel, { known with ended := true }.silenced = known.silenced from
          fun _ => rfl)
      exact ⟨soundAfter, ⟨rfl, rfl, rfl⟩, .inr ⟨rfl, queue⟩⟩
  next first rest isWaiting =>
    split
    next silenced =>
      obtain ⟨soundAfter, queue⟩ := sound.neglect
        (fun number isLine => absurd silenced (Bool.eq_false_iff.mp (line isLine).2))
        (show ∀ known : Channel, { known with waiting := [], ended := true }.silenced =
          known.silenced from fun _ => rfl)
      exact ⟨soundAfter, ⟨rfl, rfl, rfl⟩, .inr ⟨rfl, queue⟩⟩
    next notSilenced =>
      have isLine := sound.silenced isKnown (Bool.eq_false_iff.mpr notSilenced)
      obtain ⟨waiting, isQueue, found⟩ := sound.queue?_eq isLine
      obtain ⟨soundAfter, queue⟩ := sound.refill isLine fun _ => rest
      have same : known.waiting = waiting :=
        congrArg Channel.waiting (Option.some.inj (isKnown.symm.trans found))
      rw [← same, isWaiting] at isQueue
      refine ⟨soundAfter, ⟨rfl, rfl, rfl⟩, .inl ⟨_, first, rest, rfl, isQueue, fun sought => ?_⟩⟩
      refine (queue sought).trans ?_
      split
      next same => rw [same, isQueue, Option.map_some]
      next => rfl

end Queues

open Network (Effect)

/-- A switchboard after some deeds: its channels are in order, and it is as it was told to be. -/
structure Fits (deeds : List Deed) (switchboard : Switchboard) : Prop where
  sound : switchboard.Sound
  made : switchboard.made = deeds.countP Deed.creates
  faults : switchboard.faults = (conditions deeds).faults

namespace Fits

variable {deeds : List Deed} {switchboard : Switchboard}

theorem new : Fits [] Switchboard.new :=
  ⟨⟨rfl, nofun, nofun⟩, rfl, rfl⟩

/-- No endpoint is made. -/
theorem keep
    {next : Switchboard}
    {deed : Deed}
    (fits : Fits deeds switchboard)
    (sound : next.Sound)
    (made : next.made = switchboard.made)
    (faults : next.faults = ((conditions deeds).after deed).faults)
    (notCreate : deed ≠ .create) :
    Fits (deeds ++ [deed]) next := by
  refine ⟨sound, ?_, ?_⟩
  · rw [made, fits.made, Network.countP_creates_concat, if_neg notCreate]
  · rw [faults, conditions, conditions, List.foldl_append]
    rfl

/-- To start an endpoint opens a channel for it, unless it has one already. -/
theorem start
    (fits : Fits deeds switchboard)
    (number : Nat)
    (runtime : Bool) :
    (switchboard.after (.start number runtime)).Sound ∧
      (switchboard.after (.start number runtime)).made = switchboard.made ∧
      (switchboard.after (.start number runtime)).faults = switchboard.faults ∧
      ∀ sought, (switchboard.after (.start number runtime)).queue? sought =
        Deed.onQueue (.start number runtime) deeds sought (switchboard.queue? sought) := by
  have unchanged : (runtime = true → Made deeds number → (switchboard.queue? number).isSome) →
      ∀ sought, switchboard.queue? sought =
        Deed.onQueue (.start number runtime) deeds sought (switchboard.queue? sought) := by
    intro has sought
    dsimp only [Deed.onQueue]
    split
    next starts =>
      obtain ⟨rfl, isRuntime, made⟩ := starts
      obtain ⟨waiting, isWaiting⟩ := Option.isSome_iff_exists.mp (has isRuntime made)
      rw [isWaiting, Option.getD_some]
    next => rfl
  have isMade : Made deeds number ↔ 1 ≤ number ∧ number ≤ switchboard.made := by
    rw [fits.made]
    exact Iff.rfl
  unfold Switchboard.after Switchboard.start
  dsimp only
  rw [fits.sound.running]
  split
  next made =>
    cases isLine : switchboard.lines.find? number with
    | some channel =>
        obtain ⟨waiting, isWaiting, _⟩ := fits.sound.queue?_eq isLine
        rw [Table.contains, isLine, Option.isSome_some, if_pos rfl]
        exact ⟨fits.sound, rfl, rfl, unchanged fun _ _ => by rw [isWaiting]; rfl⟩
    | none =>
        rw [Table.contains, isLine, Option.isSome_none, if_neg Bool.false_ne_true]
        cases runtime with
        | false =>
            rw [if_neg Bool.false_ne_true]
            exact ⟨fits.sound, rfl, rfl, unchanged nofun⟩
        | true =>
            obtain ⟨sound, queue⟩ := fits.sound.openChannel isLine
            rw [if_pos rfl]
            refine ⟨sound, rfl, rfl, fun sought => (queue sought).trans ?_⟩
            dsimp only [Deed.onQueue]
            by_cases isTarget : sought = number
            · subst isTarget
              rw [if_pos rfl, if_pos ⟨rfl, rfl, isMade.mpr made⟩, queue?, isLine]
              rfl
            · rw [if_neg isTarget, if_neg fun starts => isTarget starts.1.symm]
  next notMade =>
    exact ⟨fits.sound, rfl, rfl, unchanged fun _ made => absurd (isMade.mp made) notMade⟩

/-- Every deed has its effect on each queue. -/
theorem after
    (fits : Fits deeds switchboard)
    (deed : Deed) :
    Fits (deeds ++ [deed]) (switchboard.after deed) ∧
      ∀ number, Effect deeds deed number (switchboard.queue? number)
        (switchboard.handed number deed) ((switchboard.after deed).queue? number) := by
  have quiet : ∀ {number next}, next = deed.onQueue deeds number (switchboard.queue? number) →
      Effect deeds deed number (switchboard.queue? number) [] next := by
    rintro number _ rfl
    exact .quiet
  cases deed with
  | create =>
      refine ⟨⟨⟨fits.sound.running, fits.sound.live, fits.sound.silenced⟩, ?_, ?_⟩,
        fun number => quiet rfl⟩
      · rw [Network.countP_creates_concat, if_pos rfl, ← fits.made]
        rfl
      · rw [conditions, List.foldl_append]
        exact fits.faults
  | start number runtime =>
      obtain ⟨sound, made, faults, queue⟩ := fits.start number runtime
      exact ⟨fits.keep sound made (faults.trans fits.faults) (by rintro ⟨⟩),
        fun sought => quiet (queue sought)⟩
  | stop number =>
      obtain ⟨sound, queue, made, faults⟩ := fits.sound.stop number
      refine ⟨fits.keep sound made (faults.trans fits.faults) (by rintro ⟨⟩),
        fun sought => quiet ((queue sought).trans ?_)⟩
      simp only [Deed.onQueue, eq_comm]
  | send sender outgoing =>
      obtain ⟨sound, same, queue⟩ := fits.sound.send sender outgoing
      refine ⟨fits.keep sound same.made (same.faults.trans fits.faults) (by rintro ⟨⟩),
        fun sought => quiet ((queue sought).trans ?_)⟩
      rw [fits.faults, Network.Conditions.copies_faults]
      rfl
  | setDuplicate duplicate =>
      refine
        ⟨fits.keep ⟨fits.sound.running, fits.sound.live, fits.sound.silenced⟩ rfl ?_
          (by rintro ⟨⟩),
          fun number => quiet rfl⟩
      change { switchboard.faults with duplicate := duplicate } = _
      rw [fits.faults]
      rfl
  | setLossy lossy =>
      refine
        ⟨fits.keep ⟨fits.sound.running, fits.sound.live, fits.sound.silenced⟩ rfl ?_
          (by rintro ⟨⟩),
          fun number => quiet rfl⟩
      change { switchboard.faults with lossRate := if lossy then 1 else 0 } = _
      rw [fits.faults]
      rfl
  | turn task =>
      obtain ⟨sound, same, hands⟩ := fits.sound.pump task
      refine ⟨fits.keep sound same.made (same.faults.trans fits.faults) (by rintro ⟨⟩),
        fun number => ?_⟩
      dsimp only [handed, Switchboard.after]
      rcases hands with ⟨target, first, rest, given, isHanded⟩ | ⟨nothing, queue⟩
      · rw [given, isHanded.queue, Option.filter_some]
        by_cases isTarget : number = target
        · subst isTarget
          rw [if_pos rfl, if_pos (beq_self_eq_true number)]
          exact .hands rfl isHanded.waiting
        · rw [if_neg isTarget, if_neg fun same => isTarget (beq_iff_eq.mp same).symm]
          exact .quiet
      · rw [nothing]
        exact quiet (queue number)

end Fits

theorem fits_run (deeds : List Deed) : Fits deeds (service.run deeds) := by
  induction deeds using List.reverseRecOn with
  | nil => exact .new
  | append_singleton deeds deed inductionHypothesis =>
      rw [Network.Service.run_concat]
      exact (inductionHypothesis.after deed).1

theorem keeps : service.Keeps queue? where
  new _ := rfl
  effect deeds deed number := ((fits_run deeds).after deed).2 number
  progress {deeds number first rest} waiting := by
    obtain ⟨channel, _, found⟩ := (fits_run deeds).sound.waiting waiting
    refine ⟨channel, ?_⟩
    change (service.run deeds).handed number (.turn channel) ≠ []
    rw [handed, pump, found]
    simp

end Switchboard

end Discovery
