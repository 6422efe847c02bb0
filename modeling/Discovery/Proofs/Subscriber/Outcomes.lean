import Discovery.Subscriber.Basic

namespace Discovery.Subscriber

/-!
# What the operations of a subscriber come to

An operation has a few outcomes, and each of them tells what was found and what
is left of the subscriber.  They are listed here once for every operation that
is taken apart in several places, so that whatever is said of the operation can
be said outcome by outcome.
-/

/-- What a request to subscribe comes to. -/
inductive Subscribes
    (subscriber : Subscriber)
    (name : String) : Except AgentError (Nat × Bool) × Subscriber → Prop where
  | unencodable
      {cause : Wire.WireError}
      (invalid : Wire.checkText name = .error cause) :
      Subscribes subscriber name (.error (.unencodable cause), subscriber)
  | disposed
      (valid : Wire.checkText name = .ok ())
      (stopped : subscriber.stopped = true) :
      Subscribes subscriber name (.error .disposed, subscriber)
  | further
      {category : Category}
      (valid : Wire.checkText name = .ok ())
      (running : subscriber.stopped = false)
      (found : subscriber.categories.find? name = some category) :
      Subscribes subscriber name
        ( .ok (subscriber.nextSubscription, false)
        , { subscriber with
            categories :=
              subscriber.categories.insert name
                { category with members := category.members ++ [subscriber.nextSubscription] }
            subscriptions :=
              subscriber.subscriptions.insert subscriber.nextSubscription
                (.new subscriber.nextSubscription name category.epoch)
            nextSubscription := subscriber.nextSubscription + 1 } )
  | first
      (valid : Wire.checkText name = .ok ())
      (running : subscriber.stopped = false)
      (absent : subscriber.categories.find? name = none) :
      Subscribes subscriber name
        ( .ok (subscriber.nextSubscription, true)
        , { subscriber with
            categories :=
              subscriber.categories.insert name
                ⟨subscriber.nextEpoch, ∅, false, [subscriber.nextSubscription]⟩
            serials := subscriber.serials.insert subscriber.nextEpoch 0
            subscriptions :=
              subscriber.subscriptions.insert subscriber.nextSubscription
                (.new subscriber.nextSubscription name subscriber.nextEpoch)
            nextSubscription := subscriber.nextSubscription + 1
            nextEpoch := subscriber.nextEpoch + 1 } )

/-- What becomes of a subscriber when a subscription leaves its category. -/
inductive Leaves
    (subscriber : Subscriber)
    (subscription : Subscription) : Subscriber → Prop where
  | unwatched (absent : subscriber.categories.find? subscription.category = none) :
      Leaves subscriber subscription subscriber
  | ended
      {category : Category}
      (found : subscriber.categories.find? subscription.category = some category)
      (alone : (category.members.filter (· != subscription.id)).isEmpty = true) :
      Leaves subscriber subscription
        { subscriber with
          categories := subscriber.categories.erase subscription.category
          index := subscriber.index.eraseMany category.resources.keys }
  | left
      {category : Category}
      (found : subscriber.categories.find? subscription.category = some category)
      (others : (category.members.filter (· != subscription.id)).isEmpty = false) :
      Leaves subscriber subscription
        { subscriber with
          categories :=
            subscriber.categories.insert subscription.category
              { category with members := category.members.filter (· != subscription.id) } }

/-- What comes of marking a subscription as disposed. -/
inductive Marks (subscriber : Subscriber) (id : Nat) : Bool × Subscriber → Prop where
  | closed
      (closed : ∀ {known}, subscriber.subscriptions.find? id = some known →
        known.disposed = true) :
      Marks subscriber id (false, subscriber)
  | marked
      {known : Subscription}
      (found : subscriber.subscriptions.find? id = some known)
      (isOpen : known.disposed = false) :
      Marks subscriber id
        (true, subscriber.update id fun known => { known with disposed := true })

/-- What comes of disposing a subscription. -/
inductive Disposes (subscriber : Subscriber) (id : Nat) : Bool × Subscriber → Prop where
  | closed
      (closed : ∀ {known}, subscriber.subscriptions.find? id = some known →
        known.disposed = true) :
      Disposes subscriber id (false, subscriber)
  | disposed
      {known : Subscription}
      (found : subscriber.subscriptions.find? id = some known)
      (isOpen : known.disposed = false) :
      Disposes subscriber id (true, (subscriber.markDisposed id).2.leave known)

/-- What becomes of a subscriber when entries of one category may lapse. -/
inductive Expires
    (now : Instant)
    (subscriber : Subscriber)
    (name : String) : Subscriber → Prop where
  | kept : Expires now subscriber name subscriber
  | lapsed
      {category : Category}
      {lapsed : Table ResourceId RemoteEntry}
      (found : subscriber.categories.find? name = some category)
      (isLapsed : lapsed =
        category.resources.filter fun _ entry => decide (entry.expiresAt ≤ now))
      (some : lapsed.isEmpty = false) :
      Expires now subscriber name
        (change { subscriber with index := subscriber.index.eraseMany lapsed.keys } name
          { category with
            resources := category.resources.filter fun _ entry => decide (now < entry.expiresAt) })

/-- What becomes of a subscriber in a turn of its timer. -/
inductive Turns (subscriber : Subscriber) (now : Instant) : Subscriber → Prop where
  | silent
      (silent : (subscriber.timer.turn now).1 = false) :
      Turns subscriber now { subscriber with timer := (subscriber.timer.turn now).2 }
  | stopped
      (stopped : subscriber.stopped = true) :
      Turns subscriber now { subscriber with timer := (subscriber.timer.turn now).2 }
  | swept
      {fired swept : Subscriber}
      (running : subscriber.stopped = false)
      (isFired : fired = { subscriber with timer := (subscriber.timer.turn now).2 })
      (isSwept : swept = subscriber.categories.keys.foldl (expireCategory now) fired) :
      Turns subscriber now { swept with timer := swept.timer.armEarlier? swept.nextLapse? }

variable (subscriber : Subscriber)

theorem subscribes_subscribe (name : String) :
    subscriber.Subscribes name (subscriber.subscribe name) := by
  unfold subscribe
  split
  next invalid => exact .unencodable invalid
  next valid =>
    split
    next stopped => exact .disposed valid stopped
    next notStopped =>
      have running := Bool.eq_false_iff.mpr notStopped
      dsimp only
      split
      next found => exact .further valid running found
      next absent => exact .first valid running absent

theorem leaves_leave (subscription : Subscription) :
    subscriber.Leaves subscription (subscriber.leave subscription) := by
  unfold leave
  split
  next absent => exact .unwatched absent
  next found =>
    dsimp only
    split
    next alone => exact .ended found alone
    next others => exact .left found (Bool.eq_false_iff.mpr others)

theorem marks_markDisposed (id : Nat) : subscriber.Marks id (subscriber.markDisposed id) := by
  unfold markDisposed
  split
  next absent => exact .closed fun found => nomatch absent.symm.trans found
  next known found =>
    split
    next disposed => exact .closed fun again => Option.some.inj (found.symm.trans again) ▸ disposed
    next isOpen => exact .marked found (Bool.eq_false_iff.mpr isOpen)

theorem disposes_dispose (id : Nat) : subscriber.Disposes id (subscriber.dispose id) := by
  have ends := subscriber.marks_markDisposed id
  unfold dispose
  split
  next absent => exact .closed fun found => nomatch absent.symm.trans found
  next known found =>
    generalize marked : subscriber.markDisposed id = result at ends ⊢
    cases ends with
    | closed closed => exact .closed closed
    | @marked other isOther isOpen =>
        cases found.symm.trans isOther
        have disposed := Disposes.disposed found isOpen
        rwa [marked] at disposed

theorem expires_expireCategory (now : Instant) (name : String) :
    Expires now subscriber name (expireCategory now subscriber name) := by
  unfold expireCategory
  split
  next => exact .kept
  next category found =>
    dsimp only
    split
    next => exact .kept
    next some => exact .lapsed found rfl (Bool.eq_false_iff.mpr some)

theorem turns_turn (now : Instant) : subscriber.Turns now (subscriber.turn now) := by
  unfold turn
  dsimp only
  split
  next =>
    unfold expire
    split
    next stopped => exact .stopped stopped
    next running => exact .swept (Bool.eq_false_iff.mpr running) rfl rfl
  next silent => exact .silent (Bool.eq_false_iff.mpr silent)

/--
What holds of a subscriber whatever its timer, and goes on to hold when entries
of a category lapse, holds after a turn of the timer.
-/
theorem turn_induction
    {motive : Subscriber → Prop}
    (now : Instant)
    (start : motive subscriber)
    (timed : ∀ {current : Subscriber} (timer : Timer),
      motive current → motive { current with timer := timer })
    (expired : ∀ {current : Subscriber} (name : String),
      motive current → motive (expireCategory now current name)) :
    motive (subscriber.turn now) := by
  have ends := subscriber.turns_turn now
  generalize subscriber.turn now = next at ends ⊢
  cases ends with
  | silent => exact timed _ start
  | stopped => exact timed _ start
  | swept _ isFired isSwept =>
      subst isSwept isFired
      exact timed _ (List.foldlRecOn (motive := motive) _ _ (timed _ start)
        fun _ holds name _ => expired name holds)

end Discovery.Subscriber
