import ScalingMetrics.Telemetry.Basic

/-!
# Meters

The meters sum up the measurements: counters, the latest sizes, and a histogram of the durations of
passes.
-/

namespace ScalingMetrics

/-- Observations sorted into classes by upper bounds, with their sum. -/
structure Histogram where
  /-- For each bound, the number of observations at most as large. -/
  atMost : List Nat
  sum : Double
  count : Nat
deriving DecidableEq

namespace Histogram

/-- The upper bounds of the classes, in seconds. -/
def bounds : List Double :=
  [5, 10, 25, 50, 100, 250, 500, 1000, 2500, 5000, 10000].map fun n => .ofFraction false n 1000

/-- No observations. -/
def empty : Histogram := ⟨bounds.map fun _ => 0, .zero false, 0⟩

/-- Takes in an observation. One that is no number is in no class. -/
def observe (h : Histogram) (x : Double) : Histogram where
  atMost := List.zipWith (fun bound n => if x.le bound then n + 1 else n) bounds h.atMost
  sum := h.sum.add x
  count := h.count + 1

end Histogram

/-- The state of all meters. -/
structure Meters where
  collectionSuccesses : Nat
  collectionErrors : Nat
  passSuccesses : Nat
  passErrors : Nat
  activeCollectors : Nat
  /-- The numbers of stored values of each kind, once they have been measured. -/
  storedMetrics : Option (Nat × Nat)
  passDurations : Histogram
deriving DecidableEq

namespace Meters

/-- Nothing measured yet. -/
def zero : Meters := ⟨0, 0, 0, 0, 0, none, .empty⟩

/-- Takes in a measurement. -/
def record (m : Meters) : Measurement → Meters
  | .collectionSucceeded => { m with collectionSuccesses := m.collectionSuccesses + 1 }
  | .collectionFailed => { m with collectionErrors := m.collectionErrors + 1 }
  | .passSucceeded => { m with passSuccesses := m.passSuccesses + 1 }
  | .passFailed => { m with passErrors := m.passErrors + 1 }
  | .activeCollectors n => { m with activeCollectors := n }
  | .storedMetrics custom external => { m with storedMetrics := some (custom, external) }
  | .passDuration x => { m with passDurations := m.passDurations.observe x }

/-- Takes in measurements in order. -/
def recordAll (m : Meters) (measured : List Measurement) : Meters := measured.foldl record m

@[simp] theorem recordAll_nil (m : Meters) : m.recordAll [] = m := rfl

@[simp] theorem recordAll_append (m : Meters) (xs ys : List Measurement) :
    m.recordAll (xs ++ ys) = (m.recordAll xs).recordAll ys := List.foldl_append

end Meters

end ScalingMetrics
