import Discovery.Proofs.Network.Queues
import Mathlib.Data.List.Induction

namespace Discovery.Network

/-!
# What a network delivers

What an endpoint may rely on is said of the deeds that are done to a network and
of the messages that its owner is handed, whatever the network is made of
(`Service.Delivers`): nothing while the endpoint is not started, and in each
period in which it is started, in the order of sending, what the other endpoints
send it in that period.  For a network it suffices to say what each deed does to
the queue of each endpoint (`Service.Keeps.delivers`); this one is such a network
(`delivers`).
-/

/-- What is done to a network, and the turns that its tasks take. -/
inductive Deed where
  /-- An endpoint is made. -/
  | create
  | start (number : Nat) (runtime : Bool)
  | stop (number : Nat)
  | send (sender : Nat) (outgoing : Outgoing)
  | setDuplicate (duplicate : Bool)
  /-- From now on every message is lost, or none. -/
  | setLossy (lossy : Bool)
  /-- A task that hands messages over takes a turn. -/
  | turn (task : Nat)
  deriving DecidableEq

/-- Whether an endpoint is made. -/
def Deed.creates : Deed → Bool
  | .create => true
  | _ => false

/-- An endpoint has been made; endpoints count from one. -/
def Made (deeds : List Deed) (number : Nat) : Prop :=
  1 ≤ number ∧ number ≤ deeds.countP Deed.creates

instance (deeds : List Deed) (number : Nat) : Decidable (Made deeds number) :=
  inferInstanceAs (Decidable (_ ∧ _))

/-- An endpoint that had been made was started, and it has not been stopped since. -/
def Started (deeds : List Deed) (number : Nat) : Prop :=
  ∃ before during, deeds = before ++ .start number true :: during ∧ Made before number ∧
    .stop number ∉ during

/-- How messages fare. -/
structure Conditions where
  lossy : Bool
  duplicate : Bool
  deriving DecidableEq

namespace Conditions

def after (conditions : Conditions) : Deed → Conditions
  | .setDuplicate duplicate => { conditions with duplicate := duplicate }
  | .setLossy lossy => { conditions with lossy := lossy }
  | _ => conditions

/-- How many copies of a message arrive. -/
def copies (conditions : Conditions) : Nat :=
  if conditions.lossy then 0 else if conditions.duplicate then 2 else 1

/-- What is wrong with a network under these conditions. -/
def faults (conditions : Conditions) : Faults :=
  ⟨if conditions.lossy then 1 else 0, conditions.duplicate⟩

theorem copies_faults (conditions : Conditions) : conditions.faults.copies = conditions.copies := by
  obtain ⟨lossy, duplicate⟩ := conditions
  cases lossy <;> rfl

end Conditions

/-- How messages fare after some deeds. -/
def conditions (deeds : List Deed) : Conditions :=
  deeds.foldl Conditions.after ⟨false, false⟩

/-- What an endpoint is to receive of what is sent by a deed. -/
def owed (number : Nat) (conditions : Conditions) : Deed → List Delivery
  | .send sender outgoing =>
      if outgoing.reaches sender number then
        List.replicate conditions.copies (outgoing.arrival sender)
      else []
  | _ => []

/-- What an endpoint is to receive of what is sent by some deeds, in the order of sending. -/
def due (number : Nat) (conditions : Conditions) : List Deed → List Delivery
  | [] => []
  | deed :: rest => owed number conditions deed ++ due number (conditions.after deed) rest

/-- A network as its endpoints see it: what they are handed as one deed is done after another. -/
structure Service (State : Type) where
  new : State
  after : State → Deed → State
  /-- What the owner of an endpoint is handed by a deed. -/
  handed : State → Nat → Deed → List Delivery

namespace Service

variable {State : Type} (service : Service State)

/-- The network after some deeds. -/
def run (deeds : List Deed) : State :=
  deeds.foldl service.after service.new

/-- What the owner of an endpoint is handed from a state on. -/
def receivedFrom (number : Nat) : State → List Deed → List Delivery
  | _, [] => []
  | state, deed :: rest =>
      service.handed state number deed ++ receivedFrom number (service.after state deed) rest

/-- What the owner of an endpoint has been handed. -/
def received (number : Nat) (deeds : List Deed) : List Delivery :=
  service.receivedFrom number service.new deeds

/-- No task has anything more to hand to the owner of an endpoint. -/
def Settled (number : Nat) (deeds : List Deed) : Prop :=
  ∀ task, service.received number (deeds ++ [.turn task]) = service.received number deeds

/-- What the endpoints of a network may rely on; `active` counts those that are started. -/
structure Delivers (active : State → Nat) : Prop where
  /-- Nothing is handed over while an endpoint is not started. -/
  idle : ∀ {deeds number}, ¬ Started deeds number → ∀ deed,
    service.received number (deeds ++ [deed]) = service.received number deeds
  /-- In a period, what is due in the period is handed over in order, and all of it in time. -/
  period : ∀ {before during number}, Made before number → ¬ Started before number →
    .stop number ∉ during →
      ∃ got, service.received number (before ++ .start number true :: during) =
          service.received number before ++ got ∧
        got <+: due number (conditions before) during ∧
        (service.Settled number (before ++ .start number true :: during) →
          got = due number (conditions before) during)
  /-- It takes nothing but turns of the tasks. -/
  settles : ∀ deeds number, ∃ tasks : List Nat,
    service.Settled number (deeds ++ tasks.map .turn)
  counts : ∀ deeds, ∃ started : List Nat, started.Nodup ∧
    (∀ number, number ∈ started ↔ Started deeds number) ∧
      active (service.run deeds) = started.length

end Service

section Histories

/-- What is due was sent by another endpoint, and carries its number. -/
theorem exists_send_of_mem_due
    {number : Nat}
    {conditions : Conditions}
    {deeds : List Deed}
    {delivery : Delivery}
    (isDue : delivery ∈ due number conditions deeds) :
    ∃ sender outgoing, .send sender outgoing ∈ deeds ∧ sender ≠ number ∧
      outgoing.reaches sender number = true ∧ delivery = outgoing.arrival sender ∧
        delivery.origin = .endpoint sender := by
  induction deeds generalizing conditions with
  | nil => cases isDue
  | cons deed rest inductionHypothesis =>
      rcases List.mem_append.mp isDue with isOwed | inRest
      · cases deed with
        | send sender outgoing =>
            dsimp only [owed] at isOwed
            split at isOwed
            next reaches =>
              refine ⟨sender, outgoing, List.mem_cons_self, ?_, reaches,
                List.eq_of_mem_replicate isOwed, ?_⟩
              · rintro rfl
                rw [Outgoing.not_reaches_self] at reaches
                cases reaches
              · rw [List.eq_of_mem_replicate isOwed, Outgoing.origin_arrival]
            next => cases isOwed
        | create | start | stop | setDuplicate | setLossy | turn => cases isOwed
      · obtain ⟨sender, outgoing, isSent, sent⟩ := inductionHypothesis inRest
        exact ⟨sender, outgoing, List.mem_cons_of_mem deed isSent, sent⟩

theorem due_concat
    (number : Nat)
    (conditions : Conditions)
    (deeds : List Deed)
    (deed : Deed) :
    due number conditions (deeds ++ [deed]) =
      due number conditions deeds ++
        owed number (deeds.foldl Conditions.after conditions) deed := by
  induction deeds generalizing conditions with
  | nil => exact List.append_nil _
  | cons first rest inductionHypothesis =>
      rw [List.cons_append, due, inductionHypothesis, due, List.append_assoc, List.foldl_cons]

theorem countP_creates_concat
    (deeds : List Deed)
    (deed : Deed) :
    (deeds ++ [deed]).countP Deed.creates =
      if deed = .create then deeds.countP Deed.creates + 1 else deeds.countP Deed.creates := by
  rw [List.countP_append, List.countP_singleton]
  cases deed <;> rfl

theorem made_concat
    {deeds : List Deed}
    {deed : Deed}
    {number : Nat} :
    Made (deeds ++ [deed]) number ↔
      Made deeds number ∨ deed = .create ∧ number = deeds.countP Deed.creates + 1 := by
  unfold Made
  rw [countP_creates_concat]
  split <;> grind

/-- An endpoint is started by the last deed, or it was before and the last deed does not stop it. -/
theorem started_concat
    {deeds : List Deed}
    {deed : Deed}
    {number : Nat} :
    Started (deeds ++ [deed]) number ↔
      deed = .start number true ∧ Made deeds number ∨
        Started deeds number ∧ deed ≠ .stop number := by
  constructor
  · rintro ⟨before, during, split, made, notStopped⟩
    rcases List.eq_nil_or_concat during with rfl | ⟨others, last, rfl⟩
    · obtain ⟨rfl, isLast⟩ := List.append_inj' split rfl
      exact .inl ⟨List.singleton_inj.mp isLast, made⟩
    · rw [List.concat_eq_append, ← List.cons_append, ← List.append_assoc] at split
      obtain ⟨rfl, isLast⟩ := List.append_inj' split rfl
      rw [List.singleton_inj.mp isLast]
      simp only [List.concat_eq_append, List.mem_append, List.mem_singleton, not_or] at notStopped
      exact .inr ⟨⟨before, others, rfl, made, notStopped.1⟩, Ne.symm notStopped.2⟩
  · rintro (⟨rfl, made⟩ | ⟨⟨before, during, rfl, made, notStopped⟩, isOther⟩)
    · exact ⟨deeds, [], rfl, made, List.not_mem_nil⟩
    · refine ⟨before, during ++ [deed], by simp, made, ?_⟩
      simp only [List.mem_append, List.mem_singleton, not_or]
      exact ⟨notStopped, Ne.symm isOther⟩

theorem not_started_nil (number : Nat) : ¬ Started [] number := by
  rintro ⟨before, during, split, _⟩
  cases before <;> cases split

end Histories

/-- What a deed does to the queue of an endpoint, apart from what is handed over. -/
def Deed.onQueue
    (deed : Deed)
    (deeds : List Deed)
    (number : Nat)
    (queue : Option (List Delivery)) : Option (List Delivery) :=
  match deed with
  | .start target runtime =>
      if target = number ∧ runtime = true ∧ Made deeds number then some (queue.getD []) else queue
  | .stop target => if target = number then none else queue
  | .send .. => queue.map (· ++ owed number (conditions deeds) deed)
  | _ => queue

/-- What becomes of the queue of an endpoint, and what its owner is handed. -/
inductive Effect
    (deeds : List Deed)
    (deed : Deed)
    (number : Nat)
    (queue : Option (List Delivery)) : List Delivery → Option (List Delivery) → Prop where
  | quiet : Effect deeds deed number queue [] (deed.onQueue deeds number queue)
  | hands
      {task : Nat}
      {first : Delivery}
      {rest : List Delivery}
      (isTurn : deed = .turn task)
      (waiting : queue = some (first :: rest)) :
      Effect deeds deed number queue [first] (some rest)

namespace Effect

variable {deeds : List Deed} {deed : Deed} {number : Nat}
variable {queue next : Option (List Delivery)} {handed : List Delivery}

/-- An endpoint has a queue while it is started. -/
theorem isSome_iff
    (effect : Effect deeds deed number queue handed next)
    (wasStarted : queue.isSome = true ↔ Started deeds number) :
    next.isSome = true ↔ Started (deeds ++ [deed]) number := by
  rw [started_concat, ← wasStarted]
  cases effect with
  | quiet =>
      cases deed with
      | start target runtime =>
          dsimp only [Deed.onQueue]
          split
          next starts =>
            obtain ⟨rfl, rfl, made⟩ := starts
            exact ⟨fun _ => .inl ⟨rfl, made⟩, fun _ => rfl⟩
          next notStarts =>
            refine ⟨fun was => .inr ⟨was, nofun⟩, ?_⟩
            rintro (⟨isStart, made⟩ | ⟨was, _⟩)
            · cases isStart
              exact absurd ⟨rfl, rfl, made⟩ notStarts
            · exact was
      | stop target =>
          dsimp only [Deed.onQueue]
          split
          next isTarget => simp [isTarget]
          next other => simp [other]
      | create | send | setDuplicate | setLossy | turn => simp [Deed.onQueue]
  | hands isTurn waiting => simp [isTurn, waiting]

/-- An endpoint that is not started is handed nothing. -/
theorem handed_eq_nil
    (effect : Effect deeds deed number queue handed next)
    (absent : queue = none) :
    handed = [] := by
  cases effect with
  | quiet => rfl
  | hands _ waiting => cases absent.symm.trans waiting

/-- A period begins with nothing waiting. -/
theorem begun
    (effect : Effect deeds (.start number true) number none handed next)
    (made : Made deeds number) :
    handed = [] ∧ next = some [] := by
  cases effect with
  | quiet => exact ⟨rfl, if_pos ⟨rfl, rfl, made⟩⟩
  | hands isTurn => cases isTurn

/-- What was waiting and what is owed are handed over or wait, in the same order. -/
theorem balance
    {waiting : List Delivery}
    (effect : Effect deeds deed number (some waiting) handed next)
    (notStopped : deed ≠ .stop number) :
    ∃ rest, next = some rest ∧ handed ++ rest = waiting ++ owed number (conditions deeds) deed := by
  cases effect with
  | quiet =>
      cases deed with
      | start target runtime =>
          refine ⟨waiting, ?_, (List.append_nil waiting).symm⟩
          dsimp only [Deed.onQueue]
          split <;> rfl
      | stop target =>
          refine ⟨waiting, if_neg fun isTarget => notStopped (congrArg Deed.stop isTarget), ?_⟩
          exact (List.append_nil waiting).symm
      | send sender outgoing => exact ⟨_, rfl, rfl⟩
      | create | setDuplicate | setLossy | turn =>
          exact ⟨waiting, rfl, (List.append_nil waiting).symm⟩
  | @hands task first rest isTurn isWaiting =>
      cases isWaiting
      exact ⟨rest, rfl, by simp [isTurn, owed]⟩

/-- Whoever hands something over takes it off the queue. -/
theorem waiting_of_handed
    (effect : Effect deeds deed number queue handed next)
    (some : handed ≠ []) :
    ∃ first rest, queue = .some (first :: rest) ∧ handed = [first] ∧ next = .some rest := by
  cases effect with
  | quiet => exact absurd rfl some
  | hands _ waiting => exact ⟨_, _, waiting, rfl, rfl⟩

end Effect

namespace Service

variable {State : Type} {service : Service State}

theorem run_concat (deeds : List Deed) (deed : Deed) :
    service.run (deeds ++ [deed]) = service.after (service.run deeds) deed := by
  rw [run, List.foldl_append]
  rfl

theorem received_concat (number : Nat) (deeds : List Deed) (deed : Deed) :
    service.received number (deeds ++ [deed]) =
      service.received number deeds ++ service.handed (service.run deeds) number deed := by
  have further : ∀ state, service.receivedFrom number state (deeds ++ [deed]) =
      service.receivedFrom number state deeds ++
        service.handed (deeds.foldl service.after state) number deed := by
    induction deeds with
    | nil => exact fun state => List.append_nil _
    | cons first rest inductionHypothesis =>
        intro state
        rw [List.cons_append, receivedFrom, inductionHypothesis, receivedFrom, List.append_assoc,
          List.foldl_cons]
  exact further service.new

/-- The endpoints of a network have queues, and every deed has its effect on each of them. -/
structure Keeps
    (service : Service State)
    (queue? : State → Nat → Option (List Delivery)) : Prop where
  new : ∀ number, queue? service.new number = none
  effect : ∀ deeds deed number,
    Effect deeds deed number (queue? (service.run deeds) number)
      (service.handed (service.run deeds) number deed)
      (queue? (service.after (service.run deeds) deed) number)
  /-- Some task hands over what waits. -/
  progress : ∀ {deeds number first rest},
    queue? (service.run deeds) number = some (first :: rest) →
      ∃ task, service.handed (service.run deeds) number (.turn task) ≠ []

namespace Keeps

variable {queue? : State → Nat → Option (List Delivery)} {deeds : List Deed} {number : Nat}

theorem isSome_iff
    (keeps : service.Keeps queue?)
    (deeds : List Deed)
    (number : Nat) :
    (queue? (service.run deeds) number).isSome = true ↔ Started deeds number := by
  induction deeds using List.reverseRecOn with
  | nil =>
      rw [show service.run [] = service.new from rfl, keeps.new]
      exact ⟨nofun, fun started => absurd started (not_started_nil number)⟩
  | append_singleton deeds deed inductionHypothesis =>
      rw [run_concat]
      exact (keeps.effect deeds deed number).isSome_iff inductionHypothesis

theorem queue?_of_not_started
    (keeps : service.Keeps queue?)
    (notStarted : ¬ Started deeds number) :
    queue? (service.run deeds) number = none := by
  rwa [← keeps.isSome_iff, Bool.not_eq_true, Option.isSome_eq_false_iff,
    Option.isNone_iff_eq_none] at notStarted

/-- In a period, what is due has been handed over or waits. -/
theorem balance
    (keeps : service.Keeps queue?)
    {before during : List Deed}
    (made : Made before number)
    (notStarted : ¬ Started before number)
    (notStopped : .stop number ∉ during) :
    ∃ got waiting,
      service.received number (before ++ .start number true :: during) =
        service.received number before ++ got ∧
      queue? (service.run (before ++ .start number true :: during)) number = some waiting ∧
        got ++ waiting = due number (conditions before) during := by
  induction during using List.reverseRecOn with
  | nil =>
      have absent := keeps.queue?_of_not_started notStarted
      have effect := keeps.effect before (.start number true) number
      rw [absent] at effect
      obtain ⟨nothing, begun⟩ := effect.begun made
      refine ⟨[], [], ?_, ?_, rfl⟩
      · rw [received_concat, nothing]
      · rw [run_concat, begun]
  | append_singleton during deed inductionHypothesis =>
      simp only [List.mem_append, List.mem_singleton, not_or] at notStopped
      obtain ⟨got, waiting, isGot, isWaiting, balanced⟩ := inductionHypothesis notStopped.1
      have effect := keeps.effect (before ++ .start number true :: during) deed number
      rw [isWaiting] at effect
      obtain ⟨rest, isRest, further⟩ := effect.balance (Ne.symm notStopped.2)
      have sameConditions : conditions (before ++ .start number true :: during) =
          during.foldl Conditions.after (conditions before) := by
        rw [conditions, List.foldl_append]
        rfl
      rw [← List.cons_append, ← List.append_assoc, received_concat, run_concat, isGot, isRest,
        due_concat, ← balanced, ← sameConditions]
      exact ⟨_, rest, List.append_assoc .., rfl, by
        rw [List.append_assoc, further, List.append_assoc]⟩

/-- Where nothing waits, nothing is handed over. -/
theorem settled_of_nothing_waiting
    (keeps : service.Keeps queue?)
    (nothing : (queue? (service.run deeds) number).getD [] = []) :
    service.Settled number deeds := by
  intro task
  have effect := keeps.effect deeds (.turn task) number
  have nothingHanded : service.handed (service.run deeds) number (.turn task) = [] := by
    refine Decidable.byContradiction fun some => ?_
    obtain ⟨first, rest, waiting, _⟩ := effect.waiting_of_handed some
    rw [waiting] at nothing
    cases nothing
  rw [received_concat, nothingHanded, List.append_nil]

/-- What waits at an endpoint is handed over if its task takes turns. -/
theorem settles
    (keeps : service.Keeps queue?)
    (deeds : List Deed)
    (number : Nat) :
    ∃ tasks : List Nat, service.Settled number (deeds ++ tasks.map .turn) := by
  generalize isCount : ((queue? (service.run deeds) number).getD []).length = count
  induction count generalizing deeds with
  | zero =>
      refine ⟨[], ?_⟩
      rw [List.map_nil, List.append_nil]
      exact keeps.settled_of_nothing_waiting (List.length_eq_zero_iff.mp isCount)
  | succ count inductionHypothesis =>
      cases waiting : queue? (service.run deeds) number with
      | none =>
          rw [waiting] at isCount
          cases isCount
      | some queue =>
      cases queue with
      | nil =>
          rw [waiting] at isCount
          cases isCount
      | cons first rest =>
          obtain ⟨task, some⟩ := keeps.progress waiting
          obtain ⟨_, _, wasWaiting, _, left⟩ :=
            (keeps.effect deeds (.turn task) number).waiting_of_handed some
          cases waiting.symm.trans wasWaiting
          rw [waiting] at isCount
          obtain ⟨tasks, settled⟩ := inductionHypothesis (deeds ++ [.turn task]) (by
            rw [run_concat, left]
            exact Nat.succ.inj isCount)
          refine ⟨task :: tasks, ?_⟩
          rwa [List.append_assoc] at settled

/-- A network whose deeds have their effects on the queues delivers. -/
theorem delivers
    (keeps : service.Keeps queue?)
    {active : State → Nat}
    (counts : ∀ deeds, ∃ started : List Nat, started.Nodup ∧
      (∀ number, number ∈ started ↔ (queue? (service.run deeds) number).isSome = true) ∧
        active (service.run deeds) = started.length) :
    service.Delivers active where
  idle {deeds number} notStarted deed := by
    have absent := keeps.queue?_of_not_started notStarted
    rw [received_concat, (keeps.effect deeds deed number).handed_eq_nil absent, List.append_nil]
  period {before during number} made notStarted notStopped := by
    obtain ⟨got, waiting, isGot, isWaiting, balanced⟩ :=
      keeps.balance made notStarted notStopped
    refine ⟨got, isGot, ⟨waiting, balanced⟩, fun settled => ?_⟩
    cases waiting with
    | nil => rw [← balanced, List.append_nil]
    | cons first rest =>
        obtain ⟨task, some⟩ := keeps.progress isWaiting
        have nothing := settled task
        rw [received_concat] at nothing
        exact absurd (List.append_right_eq_self.mp nothing) some
  settles := keeps.settles
  counts deeds := by
    obtain ⟨started, nodup, isStarted, counted⟩ := counts deeds
    exact ⟨started, nodup, fun number => (isStarted number).trans (keeps.isSome_iff deeds number),
      counted⟩

end Keeps

end Service

/-- Do a deed; the task of an endpoint bears the number of the endpoint. -/
def after (network : Network) : Deed → Network
  | .create => network.endpoint.2
  | .start number runtime =>
      if (network.endpoints.find? number).isSome then
        match network.start runtime number with
        | .ok next => next
        | .error _ => network
      else network
  | .stop number => network.stop number
  | .send sender outgoing => network.send sender outgoing
  | .setDuplicate duplicate => network.setDuplicate duplicate
  | .setLossy lossy => network.setLossRate (if lossy then 1 else 0)
  | .turn task => (network.take task).2

/-- What the owner of an endpoint is handed by a deed. -/
def handed (network : Network) (number : Nat) : Deed → List Delivery
  | .turn task => if task = number then (network.take task).1.toList else []
  | _ => []

/-- A network as its endpoints see it. -/
def service : Service Network :=
  ⟨.new, after, handed⟩

/-- The endpoints that have been made are there, and the network is as faulty as it was told. -/
structure Fits (deeds : List Deed) (network : Network) : Prop where
  size : network.endpoints.size = deeds.countP Deed.creates
  placed : ∀ number, (network.endpoints.find? number).isSome = true ↔ Made deeds number
  faults : network.faults = (conditions deeds).faults

namespace Fits

variable {deeds : List Deed} {network : Network}

theorem new : Fits [] Network.new :=
  ⟨rfl, fun _ => ⟨nofun, fun made => absurd (Nat.le_trans made.1 made.2) (Nat.not_succ_le_zero _)⟩,
    rfl⟩

/-- The endpoints stay the same. -/
theorem keep
    {next : Network}
    {deed : Deed}
    (fits : Fits deeds network)
    (size : next.endpoints.size = network.endpoints.size)
    (placed : ∀ number, (next.endpoints.find? number).isSome =
      (network.endpoints.find? number).isSome)
    (faults : next.faults = ((conditions deeds).after deed).faults)
    (notCreate : deed ≠ .create) :
    Fits (deeds ++ [deed]) next := by
  refine ⟨?_, fun number => ?_, ?_⟩
  · rw [size, fits.size, countP_creates_concat, if_neg notCreate]
  · rw [placed, fits.placed, made_concat]
    exact (or_iff_left fun isCreate => notCreate isCreate.1).symm
  · rw [faults, conditions, conditions, List.foldl_append]
    rfl

theorem keepShape
    {next : Network}
    {deed : Deed}
    (fits : Fits deeds network)
    (shape : SameShape next network)
    (same : (conditions deeds).after deed = conditions deeds)
    (notCreate : deed ≠ .create) :
    Fits (deeds ++ [deed]) next :=
  fits.keep shape.size shape.exists_iff (by rw [shape.faults, fits.faults, same]) notCreate

/-- The number of the next endpoint is free. -/
theorem unplaced (fits : Fits deeds network) :
    network.endpoints.find? (network.endpoints.size + 1) = none := by
  rw [← Option.isNone_iff_eq_none, ← Option.isSome_eq_false_iff, ← Bool.not_eq_true, fits.placed,
    fits.size]
  exact fun made => Nat.not_succ_le_self _ made.2

theorem after
    (fits : Fits deeds network)
    (deed : Deed) :
    Fits (deeds ++ [deed]) (network.after deed) := by
  cases deed with
  | create =>
      obtain ⟨size, placed, _⟩ := network.endpoint_spec fits.unplaced
      refine ⟨?_, fun number => ?_, ?_⟩
      · rw [countP_creates_concat, if_pos rfl, ← fits.size]
        exact size
      · refine (Bool.eq_iff_iff.mp (placed number)).trans ?_
        rw [Bool.or_eq_true, fits.placed, made_concat, fits.size, decide_eq_true_iff, Or.comm]
        exact or_congr_right (and_iff_right rfl).symm
      · rw [conditions, List.foldl_append]
        exact fits.faults
  | start number runtime =>
      refine fits.keepShape ?_ rfl (by rintro ⟨⟩)
      dsimp only [Network.after]
      split
      next isPlaced =>
        unfold start
        split
        next next started =>
          split at started
          next => cases started
          next =>
            split at started
            next =>
              cases started
              exact .insert isPlaced _
            next => cases started
        next => exact .refl network
      next => exact .refl network
  | stop number => exact fits.keepShape (.map network _) rfl (by rintro ⟨⟩)
  | send sender outgoing =>
      exact fits.keepShape (network.sameShape_send sender outgoing) rfl (by rintro ⟨⟩)
  | setDuplicate duplicate =>
      refine fits.keep rfl (fun _ => rfl) ?_ (by rintro ⟨⟩)
      change { network.faults with duplicate := duplicate } = _
      rw [fits.faults]
      rfl
  | setLossy lossy =>
      refine fits.keep rfl (fun _ => rfl) ?_ (by rintro ⟨⟩)
      cases lossy <;>
        exact congrArg (Faults.mk _) (congrArg Faults.duplicate fits.faults)
  | turn task =>
      refine fits.keepShape ?_ rfl (by rintro ⟨⟩)
      dsimp only [Network.after]
      rcases network.take_cases task with ⟨_, _, next, taken, isTaken⟩ | ⟨next, taken, shape, _⟩
      · rw [taken]
        exact isTaken.shape
      · rw [taken]
        exact shape

/-- Sending puts at the end of each queue what is owed to its endpoint. -/
theorem arrivals_eq
    (fits : Fits deeds network)
    (sender receiver : Nat)
    (outgoing : Outgoing) :
    network.arrivals sender receiver [outgoing] =
      owed receiver (conditions deeds) (.send sender outgoing) := by
  simp only [arrivals, List.flatMap_cons, List.flatMap_nil, List.append_nil, owed, fits.faults,
    Conditions.copies_faults]

/-- Apart from what its tasks hand over, the queues of a network are as every deed demands. -/
theorem queue?_after
    (fits : Fits deeds network)
    {deed : Deed}
    (noTurn : ∀ task, deed ≠ .turn task)
    (number : Nat) :
    (network.after deed).queue? number = deed.onQueue deeds number (network.queue? number) := by
  cases deed with
  | create => exact (network.endpoint_spec fits.unplaced).2.2 number
  | start target runtime =>
      dsimp only [Network.after, Deed.onQueue]
      by_cases made : Made deeds target
      · rw [if_pos ((fits.placed target).mpr made), start, isStarted_eq]
        cases waiting : network.queue? target with
        | some queue =>
            by_cases isTarget : target = number
            · subst isTarget
              simp [waiting]
            · simp [isTarget]
        | none =>
            cases runtime with
            | false => simp
            | true =>
                refine (network.queue?_insert target ⟨some [], true⟩ number).trans ?_
                by_cases isTarget : target = number
                · subst isTarget
                  simp [waiting, made]
                · simp [isTarget, Ne.symm isTarget]
      · rw [if_neg fun isPlaced => made ((fits.placed target).mp isPlaced), if_neg]
        rintro ⟨rfl, _, isMade⟩
        exact made isMade
  | stop target =>
      refine (network.queue?_stop target number).trans ?_
      simp only [Deed.onQueue, eq_comm]
  | send sender outgoing =>
      refine (network.queue?_send sender outgoing number).trans ?_
      rw [fits.arrivals_eq]
      rfl
  | setDuplicate | setLossy => rfl
  | turn task => exact absurd rfl (noTurn task)

end Fits

theorem fits_run (deeds : List Deed) : Fits deeds (service.run deeds) := by
  induction deeds using List.reverseRecOn with
  | nil => exact .new
  | append_singleton deeds deed inductionHypothesis =>
      rw [Service.run_concat]
      exact inductionHypothesis.after deed

/-- Every deed has its effect on each queue. -/
theorem keeps : service.Keeps queue? where
  new _ := rfl
  effect deeds deed number := by
    have fits := fits_run deeds
    generalize service.run deeds = network at fits
    change Effect deeds deed number (network.queue? number) (network.handed number deed)
      ((network.after deed).queue? number)
    cases deed with
    | turn task =>
        dsimp only [handed, after]
        rcases network.take_cases task with ⟨first, rest, next, taken, isTaken⟩ |
          ⟨next, taken, _, same⟩
        · rw [taken, isTaken.queue]
          by_cases isTask : number = task
          · subst isTask
            rw [if_pos rfl, if_pos rfl]
            exact .hands rfl isTaken.waiting
          · rw [if_neg isTask, if_neg (Ne.symm isTask)]
            exact .quiet
        · rw [taken, same, Option.toList_none, ite_self]
          exact .quiet
    | create | start | stop | send | setDuplicate | setLossy =>
        rw [fits.queue?_after fun _ => Deed.noConfusion]
        exact .quiet
  progress {deeds number first rest} waiting := by
    refine ⟨number, ?_⟩
    change (service.run deeds).handed number (.turn number) ≠ []
    rw [handed, if_pos rfl, take_of_waiting _ waiting]
    exact List.cons_ne_nil _ _

/-- The started endpoints are those that have a queue. -/
theorem activeEndpoints_eq (network : Network) :
    ∃ started : List Nat, started.Nodup ∧
      (∀ number, number ∈ started ↔ (network.queue? number).isSome = true) ∧
        network.activeEndpoints = started.length := by
  let started := network.endpoints.filter fun _ endpoint => endpoint.isStarted
  refine ⟨started.keys, started.nodup_keys, fun number => ?_, ?_⟩
  · rw [Table.mem_keys_iff]
    simp only [started, Table.find?_filter, queue?, Option.isSome_iff_exists]
    cases network.endpoints.find? number with
    | none => simp
    | some endpoint => cases waiting : endpoint.queue <;> simp [Endpoint.isStarted, waiting]
  · simp only [activeEndpoints, started, Table.keys, Table.values, Table.filter, List.length_map,
      List.filter_map]
    rfl

theorem delivers : service.Delivers activeEndpoints :=
  keeps.delivers fun deeds => activeEndpoints_eq (service.run deeds)

end Discovery.Network
