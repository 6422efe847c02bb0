import Discovery.Publisher.Interval
import Mathlib.Data.Nat.Dist

namespace Discovery

/-!
# The bounds of the announcement interval

A rounded number is at most half a unit away from the exact one, no number that
could have been taken is nearer, and of two that are equally near the even one
is taken (`roundedQuotient_roundHalfEven`, `roundedBits_roundToBits`).  Rounding
also keeps the order of numbers.

Two roundings lead from the expiry to the interval.  Over all expiries that the
wire can state they add up to less than a hundred nanoseconds
(`announceInterval_near`), although the numbers that the product may become
lie further apart than that, so two intervals are always over before the expiry.
-/

section Quotients

/--
A quotient that is rounded: no whole number is nearer, and of two that are
equally near it is the even one.
-/
structure RoundedQuotient (numerator denominator rounded : Nat) : Prop where
  nearest : ∀ other, Nat.dist (rounded * denominator) numerator ≤
    Nat.dist (other * denominator) numerator
  even : ∀ {other}, other ≠ rounded →
    Nat.dist (other * denominator) numerator = Nat.dist (rounded * denominator) numerator →
      rounded % 2 = 0

variable {numerator unit rounded other : Nat}

/-- Different multiples are at least one unit apart. -/
theorem unit_le_dist_of_ne (different : other ≠ rounded) :
    unit ≤ Nat.dist (other * unit) (rounded * unit) := by
  rw [Nat.dist_mul_right]
  exact Nat.le_mul_of_pos_left unit (Nat.dist_pos_of_ne different)

/-- What is at most half a unit away is not further away than another multiple. -/
theorem dist_le_of_half
    (half : 2 * Nat.dist (rounded * unit) numerator ≤ unit)
    (other : Nat) :
    Nat.dist (rounded * unit) numerator ≤ Nat.dist (other * unit) numerator := by
  by_cases same : other = rounded
  · rw [same]
  · have apart : unit ≤ Nat.dist (other * unit) (rounded * unit) := unit_le_dist_of_ne same
    have triangle := Nat.dist.triangle_inequality (other * unit) numerator (rounded * unit)
    rw [Nat.dist_comm numerator] at triangle
    omega

/-- Two multiples that are equally near are half a unit away. -/
theorem tie_of_dist_eq
    (half : 2 * Nat.dist (rounded * unit) numerator ≤ unit)
    (different : other ≠ rounded)
    (same : Nat.dist (other * unit) numerator = Nat.dist (rounded * unit) numerator) :
    2 * Nat.dist (rounded * unit) numerator = unit := by
  have apart : unit ≤ Nat.dist (other * unit) (rounded * unit) := unit_le_dist_of_ne different
  have triangle := Nat.dist.triangle_inequality (other * unit) numerator (rounded * unit)
  rw [Nat.dist_comm numerator] at triangle
  omega

/-- Rounding moves a quotient by half a unit at most, and to an even number if it is half. -/
theorem roundHalfEven_spec (numerator : Nat) (positive : 0 < unit) :
    2 * Nat.dist (roundHalfEven numerator unit * unit) numerator ≤ unit ∧
      (2 * Nat.dist (roundHalfEven numerator unit * unit) numerator = unit →
        roundHalfEven numerator unit % 2 = 0) := by
  have split := Nat.div_add_mod' numerator unit
  have less := Nat.mod_lt numerator positive
  have next : (numerator / unit + 1) * unit = numerator / unit * unit + unit := Nat.succ_mul ..
  unfold roundHalfEven
  dsimp only
  split
  next => unfold Nat.dist; omega
  next =>
    split
    next => rw [next]; unfold Nat.dist; omega
    next =>
      rcases Nat.mod_two_eq_zero_or_one (numerator / unit) with isEven | isOdd
      · rw [isEven, Nat.add_zero]; unfold Nat.dist; omega
      · rw [isOdd, next]; unfold Nat.dist; omega

theorem roundedQuotient_roundHalfEven (numerator : Nat) (positive : 0 < unit) :
    RoundedQuotient numerator unit (roundHalfEven numerator unit) := by
  obtain ⟨half, even⟩ := roundHalfEven_spec numerator positive
  exact ⟨dist_le_of_half half, fun different same => even (tie_of_dist_eq half different same)⟩

/-- A multiple is rounded to itself. -/
theorem roundHalfEven_mul (whole : Nat) (positive : 0 < unit) :
    roundHalfEven (whole * unit) unit = whole := by
  unfold roundHalfEven
  rw [Nat.mul_div_cancel _ positive, Nat.mul_mod_left]
  exact if_pos positive

/-- Rounding keeps the order of quotients. -/
theorem roundHalfEven_mono
    {first second : Nat}
    (le : first ≤ second)
    (unit : Nat) :
    roundHalfEven first unit ≤ roundHalfEven second unit := by
  have bounds : ∀ number, number / unit ≤ roundHalfEven number unit ∧
      roundHalfEven number unit ≤ number / unit + 1 := by
    intro number
    unfold roundHalfEven
    dsimp only
    split
    next => omega
    next => split <;> omega
  rcases Nat.lt_or_eq_of_le (Nat.div_le_div_right (c := unit) le) with less | same
  · exact Nat.le_trans (bounds first).2 (Nat.le_trans less (bounds second).1)
  have rest : first % unit ≤ second % unit := by
    have firstSplit := Nat.div_add_mod first unit
    have secondSplit := Nat.div_add_mod second unit
    rw [same] at firstSplit
    omega
  by_cases down : 2 * (first % unit) < unit
  · have isFirst : roundHalfEven first unit = first / unit := if_pos down
    rw [isFirst, same]
    exact (bounds second).1
  by_cases up : unit < 2 * (second % unit)
  · have isSecond : roundHalfEven second unit = second / unit + 1 := by
      unfold roundHalfEven
      rw [if_neg (Nat.lt_asymm up), if_pos up]
    rw [isSecond, ← same]
    exact (bounds first).2
  · have tie : first % unit = second % unit := by omega
    unfold roundHalfEven
    rw [same, tie]

end Quotients

section Digits

/-- Whether a number has at most the given count of leading binary digits, all others being zero. -/
def FitsBits (bits number : Nat) : Prop :=
  ∃ leading shift, leading < 2 ^ bits ∧ number = leading * 2 ^ shift

/--
A number that is rounded to its leading binary digits: none with so few digits
is nearer, and of two that are equally near it is the one that ends in zero.
-/
structure RoundedBits (bits number rounded : Nat) : Prop where
  fits : FitsBits bits rounded
  nearest : ∀ {other}, FitsBits bits other → Nat.dist rounded number ≤ Nat.dist other number
  even : ∀ {other}, FitsBits bits other → other ≠ rounded →
    Nat.dist other number = Nat.dist rounded number → FitsBits (bits - 1) rounded

variable {bits number other : Nat}

theorem roundToBits_eq (bits number : Nat) :
    roundToBits bits number =
      roundHalfEven number (2 ^ excessBits bits number) * 2 ^ excessBits bits number := by
  unfold roundToBits
  rw [Nat.one_shiftLeft]

/-- The digits beyond the leading ones make up less than a unit. -/
theorem lt_of_excessBits (bits number : Nat) :
    number < 2 ^ bits * 2 ^ excessBits bits number := by
  rw [← Nat.pow_add]
  refine Nat.lt_of_lt_of_le Nat.lt_log2_self (Nat.pow_le_pow_right Nat.two_pos ?_)
  unfold excessBits
  omega

/-- A number that has digits beyond the leading ones has all of the leading ones. -/
theorem le_of_excessBits (exceeds : excessBits (bits + 1) number ≠ 0) :
    2 ^ bits * 2 ^ excessBits (bits + 1) number ≤ number := by
  unfold excessBits at exceeds ⊢
  have positive : number ≠ 0 := by
    rintro rfl
    exact exceeds (Nat.sub_eq_zero_of_le (by simp))
  rw [← Nat.pow_add, show bits + (number.log2 + 1 - (bits + 1)) = number.log2 by omega]
  exact Nat.log2_self_le positive

/-- A number is as long as it is great. -/
theorem excessBits_le
    {extra : Nat}
    (small : number < 2 ^ (bits + 1 + extra)) :
    excessBits (bits + 1) number ≤ extra := by
  by_cases exceeds : excessBits (bits + 1) number = 0
  · exact exceeds ▸ Nat.zero_le extra
  · have great := Nat.lt_of_le_of_lt (le_of_excessBits exceeds) small
    rw [← Nat.pow_add, Nat.pow_lt_pow_iff_right Nat.one_lt_two] at great
    omega

/-- What rounding to leading digits makes of a number lies between powers of two. -/
theorem roundToBits_le (bits number : Nat) :
    roundToBits bits number ≤ 2 ^ bits * 2 ^ excessBits bits number := by
  rw [roundToBits_eq]
  refine Nat.mul_le_mul_right _ ?_
  have most := roundHalfEven_mono (Nat.le_of_lt (lt_of_excessBits bits number))
    (2 ^ excessBits bits number)
  rwa [roundHalfEven_mul _ (Nat.two_pow_pos _)] at most

theorem le_roundToBits (exceeds : excessBits (bits + 1) number ≠ 0) :
    2 ^ bits * 2 ^ excessBits (bits + 1) number ≤ roundToBits (bits + 1) number := by
  rw [roundToBits_eq]
  refine Nat.mul_le_mul_right _ ?_
  have least := roundHalfEven_mono (le_of_excessBits exceeds) (2 ^ excessBits (bits + 1) number)
  rwa [roundHalfEven_mul _ (Nat.two_pow_pos _)] at least

/-- A number with few digits is a multiple of the unit, or too small for the digits to matter. -/
theorem FitsBits.multiple_or_lt
    (fits : FitsBits (bits + 1) other)
    (excess : Nat) :
    (∃ whole, other = whole * 2 ^ excess) ∨ excess ≠ 0 ∧ other < 2 ^ bits * 2 ^ excess := by
  obtain ⟨leading, shift, few, rfl⟩ := fits
  rcases Nat.lt_or_ge shift excess with below | above
  · refine .inr ⟨Nat.ne_of_gt (Nat.zero_lt_of_lt below), ?_⟩
    calc leading * 2 ^ shift
        < 2 ^ (bits + 1) * 2 ^ shift := Nat.mul_lt_mul_of_pos_right few (Nat.two_pow_pos shift)
      _ = 2 ^ bits * 2 ^ (shift + 1) := by
          rw [← Nat.pow_add, ← Nat.pow_add, Nat.add_right_comm]
          rfl
      _ ≤ 2 ^ bits * 2 ^ excess :=
        Nat.mul_le_mul_left _ (Nat.pow_le_pow_right Nat.two_pos below)
  · refine .inl ⟨leading * 2 ^ (shift - excess), ?_⟩
    rw [Nat.mul_assoc, ← Nat.pow_add, Nat.sub_add_cancel above]

/-- A rounded number is half a unit away at most. -/
theorem dist_roundToBits (bits number : Nat) :
    2 * Nat.dist (roundToBits bits number) number ≤ 2 ^ excessBits bits number := by
  rw [roundToBits_eq]
  exact (roundHalfEven_spec number (Nat.two_pow_pos _)).1

theorem fitsBits_mul
    {leading : Nat}
    (few : leading ≤ 2 ^ (bits + 1))
    (shift : Nat) :
    FitsBits (bits + 1) (leading * 2 ^ shift) := by
  rcases Nat.lt_or_eq_of_le few with less | rfl
  · exact ⟨leading, shift, less, rfl⟩
  · refine ⟨1, bits + 1 + shift, Nat.one_lt_two_pow (Nat.succ_ne_zero bits), ?_⟩
    rw [Nat.one_mul, Nat.pow_add 2 (bits + 1)]

/--
Rounding to leading digits leads to the nearest number with so few digits; the
least one with all of them is nearer than any that is shorter.
-/
theorem roundedBits_roundToBits (bits number : Nat) :
    RoundedBits (bits + 2) number (roundToBits (bits + 2) number) := by
  have most : roundHalfEven number (2 ^ excessBits (bits + 2) number) ≤ 2 ^ (bits + 2) :=
    Nat.le_of_mul_le_mul_right (roundToBits_eq (bits + 2) number ▸ roundToBits_le (bits + 2) number)
      (Nat.two_pow_pos _)
  have floor := @le_of_excessBits (bits + 1) number
  obtain ⟨half, even⟩ := roundHalfEven_spec number (Nat.two_pow_pos (excessBits (bits + 2) number))
  rw [roundToBits_eq]
  generalize excessBits (bits + 2) number = excess at *
  generalize roundHalfEven number (2 ^ excess) = leading at *
  have below : ∀ {other}, excess ≠ 0 → other < 2 ^ (bits + 1) * 2 ^ excess →
      Nat.dist (leading * 2 ^ excess) number < Nat.dist other number := by
    intro other exceeds small
    have least := floor exceeds
    refine Nat.lt_of_le_of_lt (dist_le_of_half half (2 ^ (bits + 1))) ?_
    unfold Nat.dist
    omega
  refine ⟨fitsBits_mul most excess, fun {other} fits => ?_, fun {other} fits different same => ?_⟩
  · rcases fits.multiple_or_lt excess with ⟨whole, rfl⟩ | ⟨exceeds, small⟩
    · exact dist_le_of_half half whole
    · exact Nat.le_of_lt (below exceeds small)
  · rcases fits.multiple_or_lt excess with ⟨whole, rfl⟩ | ⟨exceeds, small⟩
    · have isTie := tie_of_dist_eq half (fun isLeading => different (by rw [isLeading])) same
      have isEven := even isTie
      obtain ⟨halved, rfl⟩ := Nat.dvd_of_mod_eq_zero isEven
      rw [Nat.mul_comm 2, Nat.mul_assoc, ← Nat.pow_succ']
      exact fitsBits_mul (by rw [Nat.pow_succ] at most; omega) (excess + 1)
    · exact absurd same (Nat.ne_of_gt (below exceeds small))

/-- Rounding to leading digits keeps the order of numbers. -/
theorem roundToBits_mono
    {first second : Nat}
    (le : first ≤ second)
    (bits : Nat) :
    roundToBits (bits + 1) first ≤ roundToBits (bits + 1) second := by
  have apart : ∀ {less more : Nat}, less < more →
      2 ^ (bits + 1) * 2 ^ less ≤ 2 ^ bits * 2 ^ more := by
    intro less more before
    rw [← Nat.pow_add, ← Nat.pow_add]
    exact Nat.pow_le_pow_right Nat.two_pos (by omega)
  rcases Nat.lt_trichotomy (excessBits (bits + 1) first) (excessBits (bits + 1) second) with
    less | same | more
  · calc roundToBits (bits + 1) first
        ≤ 2 ^ (bits + 1) * 2 ^ excessBits (bits + 1) first := roundToBits_le (bits + 1) first
      _ ≤ 2 ^ bits * 2 ^ excessBits (bits + 1) second := apart less
      _ ≤ roundToBits (bits + 1) second := le_roundToBits (Nat.ne_of_gt (Nat.zero_lt_of_lt less))
  · rw [roundToBits_eq, roundToBits_eq, same]
    exact Nat.mul_le_mul_right _ (roundHalfEven_mono le _)
  · have above := le_of_excessBits (Nat.ne_of_gt (Nat.zero_lt_of_lt more))
    have below := lt_of_excessBits (bits + 1) second
    have order := apart more
    omega

end Digits

section Interval

/-- The fraction is the number of 53 leading digits nearest to nine twentieths. -/
theorem fractionNumerator_rounded :
    RoundedQuotient (9 * 2 ^ fractionBits) 20 fractionNumerator ∧
      2 ^ 52 ≤ fractionNumerator ∧ fractionNumerator < 2 ^ 53 := by
  have rounded : roundHalfEven (9 * 2 ^ fractionBits) 20 = fractionNumerator := by decide
  exact ⟨rounded ▸ roundedQuotient_roundHalfEven _ (by decide), by decide, by decide⟩

/--
How an interval is arrived at: the product of the expiry and the fraction keeps
53 leading digits, and becomes a whole number of nanoseconds, a tenth of a
second at least.
-/
structure IsAnnounceInterval (expiry : Int32) (product nanoseconds : Nat) (interval : Span) :
    Prop where
  multiplied : RoundedBits 53 (expiry.toInt.toNat * fractionNumerator) product
  converted : RoundedQuotient (product * second) (2 ^ fractionBits) nanoseconds
  raised : interval = max minAnnounceInterval nanoseconds

theorem isAnnounceInterval (expiry : Int32) :
    ∃ product nanoseconds,
      IsAnnounceInterval expiry product nanoseconds (announceInterval expiry) := by
  refine ⟨_, _, roundedBits_roundToBits 51 (expiry.toInt.toNat * fractionNumerator),
    roundedQuotient_roundHalfEven _ (Nat.two_pow_pos fractionBits), ?_⟩
  rw [announceInterval, Nat.one_shiftLeft]

/-- However short the expiry, a tenth of a second passes between two announcements. -/
theorem minAnnounceInterval_le (expiry : Int32) :
    minAnnounceInterval ≤ announceInterval expiry :=
  Nat.le_max_left ..

/-- A later expiry does not shorten the interval. -/
theorem announceInterval_mono
    {shorter longer : Int32}
    (le : shorter ≤ longer) :
    announceInterval shorter ≤ announceInterval longer := by
  have seconds := Int.toNat_le_toNat (Int32.le_iff_toInt_le.mp le)
  have product := roundToBits_mono (Nat.mul_le_mul_right fractionNumerator seconds) 52
  have nanoseconds := roundHalfEven_mono (Nat.mul_le_mul_right second product) (1 <<< fractionBits)
  exact max_le_max_left minAnnounceInterval nanoseconds

/-- A product is less than 60 nanoseconds away from the exact one, whatever the expiry. -/
theorem product_bounds {seconds : Nat} (stated : seconds < 2 ^ 31) :
    roundToBits 53 (seconds * fractionNumerator) ≤ seconds * fractionNumerator + 2 ^ 30 ∧
      seconds * fractionNumerator ≤ roundToBits 53 (seconds * fractionNumerator) + 2 ^ 30 := by
  have small : seconds * fractionNumerator < 2 ^ (52 + 1 + 31) := by
    rw [Nat.pow_add, Nat.mul_comm seconds]
    exact Nat.mul_lt_mul'' (by decide) stated
  have near := Nat.le_trans (dist_roundToBits 53 (seconds * fractionNumerator))
    (Nat.pow_le_pow_right Nat.two_pos (excessBits_le small))
  unfold Nat.dist at near
  omega

/-- A quotient is half a nanosecond away from the exact one at most. -/
theorem nanoseconds_bounds (product : Nat) :
    let nanoseconds := roundHalfEven (product * second) (2 ^ fractionBits)
    nanoseconds * 2 ^ fractionBits ≤ product * second + 2 ^ (fractionBits - 1) ∧
      product * second ≤ nanoseconds * 2 ^ fractionBits + 2 ^ (fractionBits - 1) := by
  have near := (roundHalfEven_spec (product * second) (Nat.two_pow_pos fractionBits)).1
  unfold Nat.dist at near
  rw [show 2 ^ (fractionBits - 1) = 2 ^ fractionBits / 2 by decide]
  omega

/-- The interval is less than a hundred nanoseconds away from 0.45 of the expiry. -/
theorem announceInterval_near
    {expiry : Int32}
    (lasting : 1 ≤ expiry.toInt) :
    450000000 * expiry.toInt.toNat < announceInterval expiry + 100 ∧
      announceInterval expiry < 450000000 * expiry.toInt.toNat + 100 := by
  have stated : expiry.toInt.toNat < 2 ^ 31 := by
    have := expiry.toInt_lt
    omega
  obtain ⟨most, least⟩ := product_bounds stated
  obtain ⟨longest, shortest⟩ :=
    nanoseconds_bounds (roundToBits 53 (expiry.toInt.toNat * fractionNumerator))
  have positive : 1 ≤ expiry.toInt.toNat := by omega
  rw [announceInterval, Nat.one_shiftLeft]
  generalize expiry.toInt.toNat = seconds at *
  generalize roundToBits 53 (seconds * fractionNumerator) = product at *
  generalize roundHalfEven (product * second) (2 ^ fractionBits) = nanoseconds at *
  simp only [fractionNumerator, fractionBits, second] at *
  have above : nanoseconds < 450000000 * seconds + 100 := by omega
  have below : 450000000 * seconds < nanoseconds + 100 := by omega
  have long : 100000000 ≤ nanoseconds := by omega
  rw [show max minAnnounceInterval nanoseconds = nanoseconds from max_eq_right long]
  exact ⟨below, above⟩

/-- What hardly exceeds 0.45 of some seconds fits into them twice, two milliseconds to spare. -/
theorem margin_of_near
    {seconds interval : Nat}
    (positive : 1 ≤ seconds)
    (near : interval < 450000000 * seconds + 100) :
    2 * (interval + millisecond) ≤ seconds * second := by
  unfold millisecond second
  omega

/-- Two intervals end before an announcement lapses, even if both end a millisecond late. -/
theorem announceInterval_margin
    {expiry : Int32}
    (lasting : 1 ≤ expiry.toInt) :
    2 * (announceInterval expiry + millisecond) ≤ expiry.toInt.toNat * second := by
  have positive : 1 ≤ expiry.toInt.toNat := by omega
  exact margin_of_near positive (announceInterval_near lasting).2

/-- The next announcement comes before the last one lapses, unless that lapses at once. -/
theorem announceInterval_le
    {expiry : Int32}
    (lasting : 1 ≤ expiry.toInt) :
    announceInterval expiry ≤ expiry.toInt.toNat * second := by
  refine Nat.le_trans ?_ (announceInterval_margin lasting)
  rw [Nat.two_mul, Nat.add_assoc]
  exact Nat.le_add_right ..

/--
The interval is the expiry times the fraction nearest to 0.45, in 53 leading
digits and then in whole nanoseconds, and a tenth of a second at least.  It does
not shrink when the expiry grows; two intervals are over before the expiry; and
it is less than a hundred nanoseconds away from 0.45 of the expiry.
-/
theorem announceInterval_bounds :
    (RoundedQuotient (9 * 2 ^ fractionBits) 20 fractionNumerator ∧
      2 ^ 52 ≤ fractionNumerator ∧ fractionNumerator < 2 ^ 53) ∧
    (∀ expiry, ∃ product nanoseconds,
      IsAnnounceInterval expiry product nanoseconds (announceInterval expiry)) ∧
    (∀ expiry, 100 * millisecond ≤ announceInterval expiry) ∧
    (∀ {shorter longer : Int32}, shorter ≤ longer →
      announceInterval shorter ≤ announceInterval longer) ∧
    ∀ {expiry : Int32}, 1 ≤ expiry →
      2 * announceInterval expiry < expiry.toInt.toNat * second ∧
        Nat.dist (announceInterval expiry) (450000000 * expiry.toInt.toNat) < 100 := by
  refine ⟨fractionNumerator_rounded, isAnnounceInterval, minAnnounceInterval_le,
    announceInterval_mono, ?_⟩
  intro expiry lasting
  have positive : 1 ≤ expiry.toInt := Int32.le_iff_toInt_le.mp lasting
  obtain ⟨below, above⟩ := announceInterval_near positive
  have near : ∀ {first second : Nat}, first < second + 100 → second < first + 100 →
      Nat.dist first second < 100 := by
    unfold Nat.dist
    omega
  have sooner : 2 * announceInterval expiry < 2 * (announceInterval expiry + millisecond) :=
    Nat.mul_lt_mul_of_pos_left (Nat.lt_add_of_pos_right (by decide)) Nat.two_pos
  exact ⟨Nat.lt_of_lt_of_le sooner (announceInterval_margin positive), near above below⟩

/-- The longest expiry that the wire can state. -/
theorem announceInterval_bounds_longest :
    announceInterval 2147483646 ≤ announceInterval 2147483647 ∧
      2 * announceInterval 2147483647 < 2147483647 * second ∧
      Nat.dist (announceInterval 2147483647) (450000000 * 2147483647) < 100 := by
  obtain ⟨_, _, _, mono, lasting⟩ := announceInterval_bounds
  have longest : (2147483647 : Int32).toInt.toNat = 2147483647 := by decide
  obtain ⟨twice, near⟩ := @lasting 2147483647 (by decide)
  rw [longest] at twice near
  exact ⟨mono (by decide), twice, near⟩

end Interval

end Discovery
