import ScalingMetrics.Time.Span
import ScalingMetrics.Time.Timestamp

/-!
# When values expire

A value expires a fixed time after its insertion. A lifetime beyond `2 ^ 63 - 1` milliseconds is
replaced by a year, and an expiry beyond the last representable year is an overflow.
-/

namespace ScalingMetrics

namespace Timestamp

/-- The order of points in time. -/
def le (s t : Timestamp) : Bool :=
  s.seconds < t.seconds || (s.seconds == t.seconds && s.nanos ≤ t.nanos)

/-- The point in time a number of nanoseconds later, or earlier for a negative number. None lies
outside the representable years. -/
def addNanos? (t : Timestamp) (nanos : Int) : Option Timestamp :=
  let total := t.nanos + nanos
  let seconds := t.seconds + total / nanosPerSecond
  if firstSecond ≤ seconds ∧ seconds ≤ lastSecond then
    some ⟨seconds, (total % nanosPerSecond).toNat⟩
  else none

end Timestamp

/-- The lifetime of stored values, in nanoseconds. Negative ones expire at once. -/
structure Lifetime where
  nanos : Int
deriving DecidableEq

namespace Lifetime

/-- A number of seconds. -/
def ofSeconds (n : Int) : Lifetime := ⟨n * nanosPerSecond⟩

/-- The greatest lifetime that can be asked for, in whole milliseconds. -/
def maxMillis : Nat := Nat.pow 2 63 - 1

/-- The lifetime of a span; one beyond the greatest is replaced by 365 days. -/
def ofSpan (s : Span) : Lifetime :=
  if s.nanos ≤ maxMillis * nanosPerMilli then ⟨s.nanos⟩ else ofSeconds (365 * 86400)

/-- The general lifetime: a quarter of an hour. -/
def standard : Span := .ofSeconds (15 * 60)

/-- The expiry of a value inserted now; none if it overflows. -/
def expiry? (l : Lifetime) (now : Timestamp) : Option Timestamp := now.addNanos? l.nanos

/-- The report of an expiry that overflows, or of a lifetime beyond the greatest. -/
def overflowMessage (l : Lifetime) : String :=
  if l.nanos.natAbs ≤ maxMillis * nanosPerMilli then "`DateTime + TimeDelta` overflowed"
  else "TimeDelta::seconds out of bounds"

end Lifetime

end ScalingMetrics
