import Discovery.Proofs.Network.Switchboard

namespace Discovery

/-!
# Periods of an endpoint

An endpoint that is stopped and started again begins anew.  Whether a network
keeps the channels of earlier periods and their tasks, or forgets a queue as soon
as its endpoint is stopped, the owner of the endpoint is handed the same messages
in the same order.
-/

namespace Network

/-- A deed, whichever task takes its turn. -/
def Deed.anonymous : Deed → Deed
  | .turn _ => .turn 0
  | deed => deed

section Anonymous

variable {deeds shown : List Deed}

theorem countP_creates_anonymous (deeds : List Deed) :
    (deeds.map Deed.anonymous).countP Deed.creates = deeds.countP Deed.creates := by
  rw [List.countP_map]
  refine List.countP_congr fun deed _ => ?_
  cases deed <;> rfl

theorem made_anonymous
    (alike : shown.map Deed.anonymous = deeds.map Deed.anonymous)
    (number : Nat) :
    Made shown number ↔ Made deeds number := by
  rw [Made, Made, ← countP_creates_anonymous shown, alike, countP_creates_anonymous]

theorem conditions_anonymous (deeds : List Deed) :
    conditions (deeds.map Deed.anonymous) = conditions deeds := by
  rw [conditions, List.foldl_map, conditions]
  congr 1
  funext conditions deed
  cases deed <;> rfl

/-- It does not matter for a queue whose task took a turn. -/
theorem onQueue_anonymous
    {deed shownDeed : Deed}
    (alike : shown.map Deed.anonymous = deeds.map Deed.anonymous)
    (alikeDeed : shownDeed.anonymous = deed.anonymous)
    (number : Nat)
    (queue : Option (List Delivery)) :
    shownDeed.onQueue shown number queue = deed.onQueue deeds number queue := by
  have sameConditions : conditions shown = conditions deeds := by
    rw [← conditions_anonymous shown, alike, conditions_anonymous]
  have forgotten : ∀ deed : Deed,
      deed.onQueue shown number queue = deed.anonymous.onQueue deeds number queue := by
    intro deed
    cases deed with
    | start => simp only [Deed.onQueue, Deed.anonymous, made_anonymous alike]
    | send => simp only [Deed.onQueue, Deed.anonymous, sameConditions]
    | create | stop | setDuplicate | setLossy | turn => rfl
  rw [forgotten, alikeDeed]
  cases deed <;> rfl

/-- A queue and what is handed over of it leave no choice for what becomes of it. -/
theorem Effect.unique
    {deed shownDeed : Deed}
    {number : Nat}
    {queue next shownNext : Option (List Delivery)}
    {handed : List Delivery}
    (effect : Effect deeds deed number queue handed next)
    (shownEffect : Effect shown shownDeed number queue handed shownNext)
    (alike : shown.map Deed.anonymous = deeds.map Deed.anonymous)
    (alikeDeed : shownDeed.anonymous = deed.anonymous) :
    next = shownNext := by
  cases effect with
  | quiet =>
      cases shownEffect with
      | quiet => exact (onQueue_anonymous alike alikeDeed number queue).symm
  | hands _ waiting =>
      cases shownEffect with
      | hands _ shownWaiting =>
          cases waiting.symm.trans shownWaiting
          rfl

end Anonymous

/-- There is no endpoint whose task could take this turn. -/
theorem handed_turn_zero (deeds : List Deed) (number : Nat) :
    (service.run deeds).handed number (.turn 0) = [] := by
  have notStarted : ¬ Started deeds 0 := by
    rintro ⟨_, _, _, made, _⟩
    exact absurd made.1 (Nat.not_succ_le_zero 0)
  by_cases isZero : number = 0
  · subst isZero
    exact (keeps.effect deeds (.turn 0) 0).handed_eq_nil (keeps.queue?_of_not_started notStarted)
  · exact if_neg (Ne.symm isZero)

end Network

namespace Switchboard

open Network (Deed Started due)

/-- The started endpoints are those that have a channel. -/
theorem Sound.activeEndpoints_eq
    {switchboard : Switchboard}
    (sound : switchboard.Sound) :
    ∃ started : List Nat, started.Nodup ∧
      (∀ number, number ∈ started ↔ (switchboard.queue? number).isSome = true) ∧
        switchboard.activeEndpoints = started.length := by
  refine ⟨switchboard.lines.keys, switchboard.lines.nodup_keys, fun number => ?_,
    (List.length_map ..).symm⟩
  rw [Table.mem_keys_iff, Option.isSome_iff_exists]
  constructor
  · rintro ⟨channel, isLine⟩
    obtain ⟨waiting, isWaiting, _⟩ := sound.queue?_eq isLine
    exact ⟨waiting, isWaiting⟩
  · rintro ⟨waiting, isWaiting⟩
    obtain ⟨channel, isLine, _⟩ := sound.waiting isWaiting
    exact ⟨channel, isLine⟩

theorem delivers : service.Delivers activeEndpoints :=
  keeps.delivers fun deeds => (fits_run deeds).sound.activeEndpoints_eq

/--
What is handed over, and what waits, is the same on a switchboard and on a network;
only which task took a turn is told differently.
-/
structure Alike (deeds shown : List Deed) : Prop where
  sameDeeds : shown.map Deed.anonymous = deeds.map Deed.anonymous
  received : ∀ number, service.received number deeds = Network.service.received number shown
  queue : ∀ number, (service.run deeds).queue? number = (Network.service.run shown).queue? number

namespace Alike

variable {deeds shown : List Deed}

/-- Two deeds that hand over the same have the same effect. -/
theorem concat
    (alike : Alike deeds shown)
    {deed shownDeed : Deed}
    (alikeDeed : shownDeed.anonymous = deed.anonymous)
    (handed : ∀ number, (Network.service.run shown).handed number shownDeed =
      (service.run deeds).handed number deed) :
    Alike (deeds ++ [deed]) (shown ++ [shownDeed]) := by
  refine ⟨?_, fun number => ?_, fun number => ?_⟩
  · rw [List.map_append, List.map_append, alike.sameDeeds, List.map_singleton, List.map_singleton,
      alikeDeed]
  · rw [Network.Service.received_concat, Network.Service.received_concat, alike.received]
    exact congrArg _ (handed number).symm
  · rw [Network.Service.run_concat, Network.Service.run_concat]
    have shownEffect := Network.keeps.effect shown shownDeed number
    rw [← alike.queue number] at shownEffect
    have effect := keeps.effect deeds deed number
    rw [show service.handed (service.run deeds) number deed = _ from (handed number).symm]
      at effect
    exact effect.unique shownEffect alike.sameDeeds alikeDeed

/-- What waits at an endpoint is handed over by its task, and to nobody else. -/
theorem handed_eq
    (alike : Alike deeds shown)
    {target task : Nat}
    {first : Delivery}
    {rest : List Delivery}
    (waiting : (service.run deeds).queue? target = some (first :: rest))
    (given : ((service.run deeds).pump task).1 = some (target, first))
    (number : Nat) :
    (Network.service.run shown).handed number (.turn target) =
      (service.run deeds).handed number (.turn task) := by
  rw [handed, given, Option.filter_some]
  by_cases isTarget : target = number
  · subst isTarget
    rw [alike.queue] at waiting
    rw [Network.handed, if_pos rfl, Network.take_of_waiting _ waiting,
      if_pos (beq_self_eq_true target)]
    rfl
  · rw [Network.handed, if_neg isTarget, if_neg fun same => isTarget (beq_iff_eq.mp same)]
    rfl

end Alike

/-- A switchboard does nothing that a network does not do. -/
theorem exists_network_alike (deeds : List Deed) : ∃ shown, Alike deeds shown := by
  induction deeds using List.reverseRecOn with
  | nil => exact ⟨[], rfl, fun _ => rfl, fun _ => rfl⟩
  | append_singleton deeds deed inductionHypothesis =>
      obtain ⟨shown, alike⟩ := inductionHypothesis
      cases deed with
      | turn task =>
          rcases ((fits_run deeds).sound.pump task).2.2 with
            ⟨target, first, rest, given, isHanded⟩ | ⟨nothing, _⟩
          · exact ⟨shown ++ [.turn target],
              alike.concat rfl (alike.handed_eq isHanded.waiting given)⟩
          · refine ⟨shown ++ [.turn 0], alike.concat rfl fun number => ?_⟩
            rw [handed, nothing]
            exact Network.handed_turn_zero shown number
      | create | start | stop | send | setDuplicate | setLossy =>
          exact ⟨_, alike.concat rfl fun _ => rfl⟩

/-- A network does nothing that a switchboard does not do. -/
theorem exists_alike_network (shown : List Deed) : ∃ deeds, Alike deeds shown := by
  induction shown using List.reverseRecOn with
  | nil => exact ⟨[], rfl, fun _ => rfl, fun _ => rfl⟩
  | append_singleton shown deed inductionHypothesis =>
      obtain ⟨deeds, alike⟩ := inductionHypothesis
      cases deed with
      | turn target =>
          rcases (Network.service.run shown).take_cases target with
            ⟨first, rest, next, _, taken⟩ | ⟨next, taken, _⟩
          · have waiting := (alike.queue target).trans taken.waiting
            obtain ⟨channel, _, found⟩ := (fits_run deeds).sound.waiting waiting
            have given : ((service.run deeds).pump channel).1 = some (target, first) := by
              rw [pump, found]
              rfl
            exact ⟨deeds ++ [.turn channel], alike.concat rfl (alike.handed_eq waiting given)⟩
          · refine ⟨deeds ++ [.turn (service.run deeds).channels.length],
              alike.concat rfl fun number => ?_⟩
            rw [Network.handed, taken, handed, pump, List.getElem?_eq_none (Nat.le_refl _)]
            exact ite_self _
      | create | start | stop | send | setDuplicate | setLossy =>
          exact ⟨_, alike.concat rfl fun _ => rfl⟩

/--
In every period of an endpoint its owner is handed, in the order of sending, what
others send it in that period, whether tasks outlast their period or not.
-/
theorem deliveries_of_periods :
    service.Delivers activeEndpoints ∧
    (∀ deeds, ∃ shown, Alike deeds shown) ∧ (∀ shown, ∃ deeds, Alike deeds shown) ∧
    Network.service.Delivers Network.activeEndpoints ∧
    ∀ {number conditions deeds delivery}, delivery ∈ due number conditions deeds →
      ∃ sender outgoing, .send sender outgoing ∈ deeds ∧ sender ≠ number ∧
        outgoing.reaches sender number = true ∧ delivery = outgoing.arrival sender ∧
          delivery.origin = .endpoint sender :=
  ⟨delivers, exists_network_alike, exists_alike_network, Network.delivers,
    Network.exists_send_of_mem_due⟩

/--
An endpoint is stopped with a message in its queue and started again.  The task
of the first period takes its turn, but only what is sent in the second period
arrives, twice while messages are doubled, and nothing that is lost or its own.
-/
theorem deliveries_of_periods_restarted :
    let stream : StreamId := ⟨List.replicate 16 1, List.length_replicate⟩
    let before : List Deed :=
      [ .create, .create, .start 1 true, .start 2 true, .send 1 (.broadcast stream [1])
      , .stop 2, .send 1 (.broadcast stream [2]) ]
    let during : List Deed :=
      [ .turn 1, .send 1 (.broadcast stream [3]), .setDuplicate true
      , .send 1 (.reply (.endpoint 2) stream [4]), .setLossy true
      , .send 1 (.broadcast stream [5]), .setLossy false, .send 2 (.broadcast stream [6])
      , .turn 2, .turn 2, .turn 2 ]
    let deeds := before ++ .start 2 true :: during
    let inSecond : List Delivery :=
      [⟨stream, [3], .endpoint 1⟩, ⟨stream, [4], .endpoint 1⟩, ⟨stream, [4], .endpoint 1⟩]
    ¬ Started before 2 ∧ service.Settled 2 deeds ∧
      due 2 (Network.conditions before) during = inSecond ∧
      service.received 2 deeds = service.received 2 before ++ inSecond ∧
      service.received 2 before = [] ∧
      (∃ sender outgoing, .send sender outgoing ∈ during ∧ sender ≠ 2 ∧
        outgoing.reaches sender 2 = true ∧
          (⟨stream, [4], .endpoint 1⟩ : Delivery) = outgoing.arrival sender) := by
  intro stream before during deeds inSecond
  obtain ⟨delivers, _, _, _, sent⟩ := deliveries_of_periods
  have notStarted : ¬ Started before 2 := (keeps.isSome_iff before 2).not.mp (by decide +kernel)
  have isDue : due 2 (Network.conditions before) during = inSecond := by decide +kernel
  have settled : service.Settled 2 deeds := keeps.settled_of_nothing_waiting (by decide +kernel)
  obtain ⟨got, received, _, complete⟩ :=
    delivers.period (by decide) notStarted (show .stop 2 ∉ during by decide)
  rw [complete settled, isDue] at received
  obtain ⟨sender, outgoing, isSent, other, reaches, isArrival, _⟩ :=
    sent (show ⟨stream, [4], .endpoint 1⟩ ∈ due 2 (Network.conditions before) during by
      rw [isDue]; decide)
  exact ⟨notStarted, settled, isDue, received, by decide +kernel, sender, outgoing, isSent, other,
    reaches, isArrival⟩

end Switchboard

end Discovery
