import ScalingMetrics.Metric.Identity
import ScalingMetrics.Metric.Object
import ScalingMetrics.Time.Span

/-!
# Metric declarations

A declaration says which metric is collected for an autoscaler and by which collector, with the
parameters of its source.
-/

namespace ScalingMetrics

/-- One metric to be collected. -/
structure Declaration where
  metric : MetricRef
  /-- The collector asked for; none means any. -/
  collectorName : Option String
  /-- The parameters of the source. -/
  parameters : Labels
  describedObject : Option ObjectRef
  perReplica : Bool
  /-- The polling interval, where it differs from the general one. -/
  interval : Option Span
deriving DecidableEq

namespace Declaration

/-- The declaration of a metric with nothing else said. -/
def plain (metric : MetricRef) : Declaration := ⟨metric, none, ∅, none, false, none⟩

/-- The collector asked for; the empty name asks for any. -/
def collector (d : Declaration) : String := d.collectorName.getD ""

/-- The kind of the described object, empty if there is none. -/
def objectKind (d : Declaration) : String :=
  match d.describedObject with
  | none => ""
  | some o => o.kind

end Declaration

end ScalingMetrics
