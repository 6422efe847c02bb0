namespace Discovery

/-!
# Time

All times are whole numbers of nanoseconds: an `Instant` counts them from the
start of the clock and a `Span` is a length of time.  Two spans of one second
or less are named because rules elsewhere are stated in them.
-/

/-- A point in time. -/
abbrev Instant := Nat

/-- A length of time. -/
abbrev Span := Nat

/-- One thousandth of a second. -/
def millisecond : Span := 1000000

/-- One second. -/
def second : Span := 1000000000

end Discovery
