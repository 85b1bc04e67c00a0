import ScalingMetrics.Metric.Identity
import ScalingMetrics.Metric.Object
import ScalingMetrics.Double.Basic
import ScalingMetrics.Time.Timestamp

/-!
# Collected values

A value of a pods or object metric describes an object of the cluster; one of an external metric is
addressed by namespace, name and labels. The namespace that a value was collected in is kept beside
it, apart from the namespace of the object.
-/

namespace ScalingMetrics

/-- A value that describes an object. -/
structure ObjectValue where
  describedObject : ObjectRef
  metric : MetricId
  timestamp : Timestamp
  windowSeconds : Option Int
  value : Double
deriving DecidableEq

/-- A value addressed by name and labels. -/
structure ExternalValue where
  metricName : String
  metricLabels : Labels
  timestamp : Timestamp
  windowSeconds : Option Int
  value : Double
deriving DecidableEq

/-- One value of a poll. -/
inductive Sample where
  | pods (ns : String) (value : ObjectValue)
  | object (ns : String) (value : ObjectValue)
  | external (ns : String) (value : ExternalValue)
deriving DecidableEq

namespace Sample

/-- The source of the value. -/
def source : Sample → Source
  | pods .. => .pods
  | object .. => .object
  | external .. => .external

/-- The namespace that the value was collected in. -/
def ns : Sample → String
  | pods ns _ => ns
  | object ns _ => ns
  | external ns _ => ns

/-- The name of the metric. -/
def metricName : Sample → String
  | pods _ v => v.metric.name
  | object _ v => v.metric.name
  | external _ v => v.metricName

end Sample

end ScalingMetrics
