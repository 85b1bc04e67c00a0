import ScalingMetrics.Cause
import ScalingMetrics.Metric.Identity

/-!
# Why a collector is not built
-/

namespace ScalingMetrics

/-- Why a declaration gets no collector. -/
inductive CollectorError where
  /-- No plugin serves the metric. -/
  | pluginNotFound (metric : MetricRef)
  /-- The plugin refused. -/
  | build (metric : MetricRef) (cause : Cause)
deriving DecidableEq

namespace CollectorError

/-- The metric that was declared. -/
def metric : CollectorError → MetricRef
  | pluginNotFound metric => metric
  | build metric _ => metric

/-- The error as text. -/
def message : CollectorError → String
  | pluginNotFound metric => "no collector plugin registered for metric " ++ metric.render
  | build metric cause =>
    "failed to create collector for metric " ++ metric.render ++ ": " ++ cause.render

end CollectorError

end ScalingMetrics
