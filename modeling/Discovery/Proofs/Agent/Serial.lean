import Discovery.Proofs.Agent.Reading
import Discovery.Proofs.Subscriber.Serial

namespace Discovery

/-!
# Serial numbers over the life of an agent

At every moment of an agent the serial numbers of its subscriber are in order.
So whatever happens advances the serial number of a category by one if readers
see another content afterwards and leaves it as it is otherwise, and neither the
serial number that a subscription shows nor the one it has signalled ever
decreases (`Moment.serial_counts_changes`).  Neither of them exceeds the number
of things that have happened (`Moment.serial_le_length`).
-/

namespace Moment

/-- The serial numbers are in order, and subscriptions are concluded only after shutting down. -/
structure Orderly (moment : Moment) : Prop where
  subscriber : moment.agent.subscriberOrNew.Orderly
  ended : ∀ {id}, .conclude id ∈ moment.duties → moment.agent.subscriberOrNew.stopped = true

namespace Orderly

theorem new (settings : AgentSettings) (attempts : List (Option TransportError)) :
    Orderly (.new settings attempts) :=
  ⟨.new, nofun⟩

theorem readable {moment : Moment} (orderly : moment.Orderly) : moment.Readable :=
  ⟨orderly.subscriber.readable, orderly.ended⟩

/-- Whatever happens keeps the serial numbers in order. -/
theorem after
    {moment : Moment}
    (orderly : moment.Orderly)
    (occurrence : Occurrence) :
    (moment.after occurrence).Orderly := by
  obtain ⟨_, _, effect, _⟩ := moment.effect_after occurrence
  exact ⟨orderly.subscriber.step effect.subscriber fun ⟨_, due⟩ => orderly.ended due,
    (orderly.readable.after occurrence).ended⟩

theorem leads
    {first last : Moment}
    (orderly : first.Orderly)
    (leads : Leads first last) :
    last.Orderly := by
  obtain ⟨occurrences, rfl⟩ := leads
  exact List.foldlRecOn occurrences _ orderly
    fun _ orderly occurrence _ => orderly.after occurrence

/-- Whatever happens is counted. -/
theorem counted
    {moment : Moment}
    (orderly : moment.Orderly)
    (occurrence : Occurrence) :
    Subscriber.Counted (moment.after occurrence).agent.subscriberOrNew
      moment.agent.subscriberOrNew := by
  obtain ⟨_, _, effect, _⟩ := moment.effect_after occurrence
  have begun := orderly.subscriber.readable.begun
  exact (effect.subscriber.tallied begun orderly.subscriber.distinct).counted

end Orderly

/-- A subscription shows and signals no smaller serial number later. -/
def NotBehind
    (id : Nat)
    (known : Subscription)
    (first last : Agent) : Prop :=
  ∃ later, last.subscription? id = some later ∧ first.serial id ≤ last.serial id ∧
    known.signal ≤ later.signal

/-- The serial numbers of a subscription only grow while things happen. -/
theorem Leads.notBehind
    {first last : Moment}
    (leads : Leads first last)
    (orderly : first.Orderly)
    {id : Nat}
    {known : Subscription}
    (found : first.agent.subscription? id = some known) :
    NotBehind id known first.agent last.agent := by
  obtain ⟨occurrences, rfl⟩ := leads
  induction occurrences generalizing first known with
  | nil => exact ⟨known, found, Nat.le_refl _, Nat.le_refl _⟩
  | cons occurrence rest inductionHypothesis =>
      obtain ⟨_, _, effect, _⟩ := first.effect_after occurrence
      have had := found
      rw [Agent.subscription?_eq] at had
      obtain ⟨between, isBetween, _, serial, signal⟩ :=
        orderly.subscriber.ahead effect.subscriber had
      change (first.after occurrence).agent.subscriberOrNew.subscriptions.find? id = _ at isBetween
      rw [← Agent.subscription?_eq] at isBetween
      obtain ⟨later, isLater, laterSerial, laterSignal⟩ :=
        inductionHypothesis (orderly.after occurrence) isBetween
      refine ⟨later, isLater, Nat.le_trans ?_ laterSerial, Nat.le_trans signal laterSignal⟩
      rw [Agent.serial_eq found, Agent.serial_eq isBetween]
      exact serial

/--
A serial number counts at most one for each thing that happens, and nothing more
is signalled.  So a counter of 64 bits is wide enough for 2 ^ 64 - 1 of them.
-/
theorem serial_le_length
    (settings : AgentSettings)
    (attempts : List (Option TransportError))
    (occurrences : List Occurrence) :
    let agent := (occurrences.foldl after (.new settings attempts)).agent
    (∀ epoch, agent.subscriberOrNew.serial epoch ≤ occurrences.length) ∧
      ∀ {id known}, agent.subscription? id = some known → known.signal ≤ occurrences.length := by
  intro agent
  have orderly : ∀ earlier : List Occurrence,
      (earlier.foldl after (.new settings attempts)).Orderly :=
    fun earlier => (Orderly.new settings attempts).leads ⟨earlier, rfl⟩
  have serial : ∀ epoch, agent.subscriberOrNew.serial epoch ≤ occurrences.length := by
    intro epoch
    subst agent
    induction occurrences using List.reverseRecOn with
    | nil => exact Nat.le_refl 0
    | append_singleton earlier occurrence inductionHypothesis =>
        rw [List.foldl_append, List.length_append]
        obtain ⟨_, _, effect, _⟩ :=
          (earlier.foldl after (.new settings attempts)).effect_after occurrence
        exact Nat.le_trans (effect.subscriber.serial_le (orderly earlier).subscriber.distinct epoch)
          (Nat.add_le_add_right inductionHypothesis 1)
  refine ⟨serial, fun {id known} found => ?_⟩
  rw [Agent.subscription?_eq] at found
  exact Nat.le_trans ((orderly occurrences).subscriber.reached found) (serial known.epoch)

/--
Whatever happens advances the serial number of a category by one if it changes
what readers see of the category, and leaves it as it is otherwise.  So neither
the serial number that a subscription shows nor the one that it has signalled
ever decreases, between any two moments and over any calls.
-/
theorem serial_counts_changes (settings : AgentSettings) (attempts : List (Option TransportError)) :
    (∀ {moment : Moment} (occurrence : Occurrence), Leads (.new settings attempts) moment →
      Subscriber.Counted (moment.after occurrence).agent.subscriberOrNew
        moment.agent.subscriberOrNew) ∧
    (∀ {first last : Moment} {id : Nat} {known : Subscription},
      Leads (.new settings attempts) first → Leads first last →
        first.agent.subscription? id = some known →
          NotBehind id known first.agent last.agent) ∧
    ∀ {before further : List Call} {tenancy : Tenancy} {id : Nat} {known : Subscription},
      tenancy = before.foldl Tenancy.call (.new settings attempts) →
        tenancy.progress.agent.subscription? id = some known →
          NotBehind id known tenancy.progress.agent
            (further.foldl Tenancy.call tenancy).progress.agent := by
  have orderly : ∀ {moment : Moment}, Leads (.new settings attempts) moment → moment.Orderly :=
    fun reached => (Orderly.new settings attempts).leads reached
  refine ⟨fun occurrence reached => (orderly reached).counted occurrence, ?_, ?_⟩
  · intro first last id known reached leads found
    exact leads.notBehind (orderly reached) found
  · rintro before further tenancy id known rfl found
    obtain ⟨published, reached⟩ := Leads.calls before (.new settings attempts) []
    obtain ⟨later, leads⟩ := Leads.calls further _ published
    exact leads.notBehind (orderly reached) found

/-- A resource is announced with another connection, which counts as one change. -/
theorem serial_counts_changes_reconnected :
    let id : ResourceId := ⟨List.replicate 16 1, List.length_replicate⟩
    let hello (connection : String) : Errand :=
      .receive 0 ⟨id, (Wire.Message.hello ⟨"Room", connection, 30, ∅⟩).encode, .endpoint 1⟩
    let tenancy := [Call.errand (.subscribe "Room"), .errand (hello "here")].foldl
      Tenancy.call (.new ⟨30, 50⟩ [])
    ∃ (first : Moment) (earlier later : Category) (known : Subscription),
      Leads (.new ⟨30, 50⟩ []) first ∧ first.progress = tenancy.progress ∧
        first.agent.subscriberOrNew.categories.find? "Room" = some earlier ∧
        (first.after (.errand (hello "there"))).agent.subscriberOrNew.categories.find? "Room" =
          some later ∧
        later.content ≠ earlier.content ∧
        (first.after (.errand (hello "there"))).agent.subscriberOrNew.serial later.epoch =
          first.agent.subscriberOrNew.serial earlier.epoch + 1 ∧
        first.agent.subscription? 1 = some known ∧
        NotBehind 1 known first.agent (first.after (.errand (hello "there"))).agent ∧
        NotBehind 1 known tenancy.progress.agent
          ([Call.errand (hello "there")].foldl Tenancy.call tenancy).progress.agent := by
  intro id hello tenancy
  let first : Moment := [.errand (.subscribe "Room"), .errand (hello "here")].foldl Moment.after
    (.new ⟨30, 50⟩ [])
  have reached : Leads (.new ⟨30, 50⟩ []) first := ⟨_, rfl⟩
  have isTenancy : first.progress = tenancy.progress := rfl
  have shown : ((first.agent.subscriberOrNew.categories.find? "Room").any fun earlier =>
      ((first.after (.errand (hello "there"))).agent.subscriberOrNew.categories.find? "Room").any
        fun later => decide (later.content ≠ earlier.content)) = true := by decide +kernel
  obtain ⟨earlier, isEarlier, shown⟩ := (Option.any_eq_true ..).mp shown
  obtain ⟨later, isLater, differs⟩ := (Option.any_eq_true ..).mp shown
  have subscribes : (first.agent.subscription? 1).isSome = true := by decide +kernel
  obtain ⟨known, found⟩ := Option.isSome_iff_exists.mp subscribes
  obtain ⟨counts, ahead, between⟩ := serial_counts_changes ⟨30, 50⟩ []
  have counted := (counts (.errand (hello "there")) reached isEarlier isLater).2
  have changed : later.content ≠ earlier.content := of_decide_eq_true differs
  rw [if_neg changed] at counted
  exact ⟨first, earlier, later, known, reached, isTenancy, isEarlier, isLater, changed, counted,
    found, ahead reached (.step first _) found, between rfl found⟩

end Moment

end Discovery
