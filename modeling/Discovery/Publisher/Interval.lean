import Discovery.Clock
import Discovery.Rounding

namespace Discovery

/-!
# The announcement interval

A resource is announced again when 0.45 of its expiry has passed, so that one
lost announcement does not let it lapse.  The fraction is the binary number
nearest to 0.45, the product keeps 53 binary digits, and the result is a whole
number of nanoseconds.  A floor keeps an expiry of zero from announcing
without pause.
-/

/-- The numerator of the fraction nearest to 0.45 whose denominator is `2 ^ 54`. -/
def fractionNumerator : Nat := 8106479329266893

/-- The power of two under the fraction nearest to 0.45. -/
def fractionBits : Nat := 54

/-- The shortest time between two announcements. -/
def minAnnounceInterval : Span := 100 * millisecond

/-- The time after which a resource with the given expiry in seconds is announced again. -/
def announceInterval (expiry : Int32) : Span :=
  let product := roundToBits 53 (expiry.toInt.toNat * fractionNumerator)
  max minAnnounceInterval (roundHalfEven (product * second) (1 <<< fractionBits))

end Discovery
