import ScalingMetrics.Double.Decimal
import ScalingMetrics.Json.Basic
import ScalingMetrics.Selector.Grammar

/-!
# Failures shown to clients

A failure is answered by a status document with a code, a reason and a message.
-/

namespace ScalingMetrics

/-- Why a request for metrics fails. -/
inductive ApiError where
  | invalidSelector (error : SelectorError)
  | metricNotFound (resource name metric : String)
  | notFound
  | invalidQuantity (value : Double)
deriving DecidableEq

namespace ApiError

/-- The failure as text. -/
def message : ApiError → String
  | invalidSelector error => "invalid label selector: " ++ error.message
  | metricNotFound resource name metric =>
    "the server could not find the metric " ++ metric ++ " for " ++ resource ++ " " ++ name
  | notFound => "the server could not find the requested resource"
  | invalidQuantity value => "metric value " ++ value.text ++ " cannot be rendered as a quantity"

/-- The status code. -/
def code : ApiError → Nat
  | invalidSelector _ => 400
  | metricNotFound .. => 404
  | notFound => 404
  | invalidQuantity _ => 500

/-- The reason, in one word. -/
def reason : ApiError → String
  | invalidSelector _ => "BadRequest"
  | metricNotFound .. => "NotFound"
  | notFound => "NotFound"
  | invalidQuantity _ => "InternalError"

/-- The status document. -/
def toJson (e : ApiError) : Json :=
  .obj [("kind", .str "Status"), ("apiVersion", .str "v1"), ("metadata", .obj []),
    ("status", .str "Failure"), ("message", .str e.message), ("reason", .str e.reason),
    ("code", .int e.code)]

end ApiError

end ScalingMetrics
