/-!
# Lengths of time

A length of time is a number of nanoseconds. Timers count milliseconds, so a sleep is rounded up to
the next one.
-/

namespace ScalingMetrics

/-- The nanoseconds in a second. -/
def nanosPerSecond : Nat := 1000000000

/-- The nanoseconds in a millisecond. -/
def nanosPerMilli : Nat := 1000000

/-- A length of time, in nanoseconds. -/
structure Span where
  nanos : Nat
deriving DecidableEq

namespace Span

/-- A number of milliseconds. -/
def ofMillis (n : Nat) : Span := ⟨n * nanosPerMilli⟩

/-- A number of seconds. -/
def ofSeconds (n : Nat) : Span := ⟨n * nanosPerSecond⟩

/-- The whole seconds. -/
def seconds (s : Span) : Nat := s.nanos / nanosPerSecond

/-- The nanoseconds beyond the whole seconds. -/
def subsecondNanos (s : Span) : Nat := s.nanos % nanosPerSecond

/-- The whole milliseconds. -/
def millis (s : Span) : Nat := s.nanos / nanosPerMilli

/-- The milliseconds that a timer waits: none less than the span. -/
def timerMillis (s : Span) : Nat := (s.nanos + (nanosPerMilli - 1)) / nanosPerMilli

/-- The span is empty. -/
def isZero (s : Span) : Bool := s.nanos == 0

@[simp] theorem seconds_ofSeconds (n : Nat) : (ofSeconds n).seconds = n := by
  simp [seconds, ofSeconds, nanosPerSecond]

theorem ofSeconds_isZero (n : Nat) : (ofSeconds n).isZero = (n == 0) := by
  rw [Bool.eq_iff_iff]
  simp only [isZero, ofSeconds, nanosPerSecond, beq_iff_eq]
  omega

end Span

end ScalingMetrics
