import ScalingMetrics.Autoscaler.Basic
import ScalingMetrics.Collector.Registry

/-!
# Requests for collectors

A collector is built by the plugin that serves the declaration. The plugin may refuse.
-/

namespace ScalingMetrics

/-- A request to a plugin for a collector that is polled at an interval. -/
structure CollectorRequest (π : Type) where
  plugin : π
  autoscaler : Autoscaler
  declaration : Declaration
  interval : Span
deriving DecidableEq

/-- A collector, or why there is none, with the request that was made for it. No request is made
where no plugin serves the declaration. -/
structure CollectorAnswer (π κ : Type) where
  result : Except CollectorError κ
  request : Option (CollectorRequest π)

namespace Registry

variable {π κ : Type}

/-- Asks the plugin for a declaration to build a collector. -/
def collector (r : Registry π) (build : CollectorRequest π → Except Cause κ) (a : Autoscaler)
    (d : Declaration) (interval : Span) : CollectorAnswer π κ :=
  match r.resolve d with
  | .error e => ⟨.error e, none⟩
  | .ok plugin =>
    let request : CollectorRequest π := ⟨plugin, a, d, interval⟩
    ⟨(build request).mapError (.build d.metric), some request⟩

end Registry

end ScalingMetrics
