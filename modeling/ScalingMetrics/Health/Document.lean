import ScalingMetrics.Health.Basic
import ScalingMetrics.Json.Record

/-!
# Health reports as documents

Absent messages and reasons are left out.
-/

namespace ScalingMetrics

/-- The name of a condition. -/
def Condition.name : Condition → String
  | healthy => "healthy"
  | degraded => "degraded"
  | unhealthy => "unhealthy"

/-- Reads a condition by its name. -/
def Condition.ofJson? (j : Json) : Option Condition :=
  j.asVariant?.bind fun s => [healthy, degraded, unhealthy].find? fun c => c.name == s

/-- A condition as a string. -/
def Condition.toJson (c : Condition) : Json := .str c.name

/-- Reads the report of a component. -/
def ComponentHealth.ofJson? (j : Json) : Option ComponentHealth := do
  let fields ← j.fields? ["status", "message", "last_check_timestamp"] 0
  let condition ← fields.required "status" Condition.ofJson?
  let message ← fields.optional "message" Json.asString?
  let checkedAt ← fields.required "last_check_timestamp" (Json.asSigned? 64)
  some ⟨condition, message, checkedAt⟩

/-- The report of a component as an object. -/
def ComponentHealth.toJson (c : ComponentHealth) : Json :=
  .obj (("status", c.condition.toJson) :: Json.presentMember "message" c.message ++
    [("last_check_timestamp", .int c.checkedAt)])

/-- Reads a health report. -/
def HealthReport.ofJson? (j : Json) : Option HealthReport := do
  let fields ← j.fields? ["status", "components"] 0
  let condition ← fields.required "status" Condition.ofJson?
  let components ← fields.required "components" (Json.asMapOf? ComponentHealth.ofJson?)
  some ⟨condition, components⟩

/-- A health report as an object. -/
def HealthReport.toJson (r : HealthReport) : Json :=
  .obj [("status", r.condition.toJson), ("components", .ofMap ComponentHealth.toJson r.components)]

/-- Reads the readiness. -/
def Readiness.ofJson? (j : Json) : Option Readiness := do
  let fields ← j.fields? ["ready", "reason"] 0
  let ready ← fields.required "ready" Json.asBool?
  let reason ← fields.optional "reason" Json.asString?
  some ⟨ready, reason⟩

/-- The readiness as an object. -/
def Readiness.toJson (r : Readiness) : Json :=
  .obj (("ready", .bool r.ready) :: Json.presentMember "reason" r.reason)

end ScalingMetrics
