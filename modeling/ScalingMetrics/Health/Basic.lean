import ScalingMetrics.Collections.SortedMap

/-!
# Health of the long-running loops

Each loop reports its own condition under its name, and the latest report counts. The overall
condition is the worst one. Readiness also waits for the first completed pass.
-/

namespace ScalingMetrics

/-- How a component fares. -/
inductive Condition where
  | healthy
  /-- The component still works, but its last attempt failed. -/
  | degraded
  | unhealthy
deriving DecidableEq

/-- The latest report of a component. -/
structure ComponentHealth where
  condition : Condition
  message : Option String
  /-- Seconds since 1970. -/
  checkedAt : Int
deriving DecidableEq

/-- The overall condition with the reports it follows from. -/
structure HealthReport where
  condition : Condition
  components : SortedMap String ComponentHealth
deriving DecidableEq

/-- Whether requests may be sent to the program, and if not, why. -/
structure Readiness where
  ready : Bool
  reason : Option String
deriving DecidableEq

namespace Component

/-- The loop that reconciles autoscalers. -/
def provider : String := "provider"

/-- The consumer of collected values. -/
def collectorSink : String := "collector_sink"

/-- The sweep of expired values. -/
def storeSweep : String := "store_gc"

end Component

/-- The latest reports by component, and whether a pass has been completed. -/
structure HealthRegistry where
  components : SortedMap String ComponentHealth
  ready : Bool
deriving DecidableEq

namespace HealthRegistry

/-- No component has reported. -/
def empty : HealthRegistry := ⟨∅, false⟩

/-- Takes a report in. -/
def report (h : HealthRegistry) (name : String) (condition : Condition) (message : Option String)
    (now : Int) : HealthRegistry :=
  { h with components := h.components.insert name ⟨condition, message, now⟩ }

/-- A component reports that it works. -/
def setHealthy (h : HealthRegistry) (name : String) (now : Int) : HealthRegistry :=
  h.report name .healthy none now

/-- A component reports that its last attempt failed. -/
def setDegraded (h : HealthRegistry) (name message : String) (now : Int) : HealthRegistry :=
  h.report name .degraded (some message) now

/-- A component reports that it no longer works. -/
def setUnhealthy (h : HealthRegistry) (name message : String) (now : Int) : HealthRegistry :=
  h.report name .unhealthy (some message) now

/-- Says whether a pass has been completed. -/
def setReady (h : HealthRegistry) (ready : Bool) : HealthRegistry := { h with ready }

/-- The overall condition after further reports, given the one so far. An unhealthy component ends
the walk. -/
def overallFrom (soFar : Condition) : List ComponentHealth → Condition
  | [] => soFar
  | c :: rest =>
    match c.condition with
    | .unhealthy => .unhealthy
    | .degraded => overallFrom .degraded rest
    | .healthy => overallFrom soFar rest

/-- The overall condition of reports in any order. -/
def overall (reports : List ComponentHealth) : Condition := overallFrom .healthy reports

/-- The overall condition with its reports. -/
def health (h : HealthRegistry) : HealthReport := ⟨overall h.components.values, h.components⟩

/-- Why the program is not ready. -/
def unreadyReason (h : HealthRegistry) : Option String :=
  if !h.ready then some "no reconciliation pass completed yet"
  else if h.health.condition = .unhealthy then some "a component is unhealthy"
  else none

/-- Whether the program is ready. -/
def readiness (h : HealthRegistry) : Readiness := ⟨h.unreadyReason.isNone, h.unreadyReason⟩

end HealthRegistry

end ScalingMetrics
