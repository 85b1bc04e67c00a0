import ScalingMetrics.Autoscaler.Document
import ScalingMetrics.Cause
import ScalingMetrics.Cluster.Request
import ScalingMetrics.Telemetry.Basic

/-!
# Listing autoscalers

The autoscalers of a namespace, or of the whole cluster, are listed by one request.
-/

namespace ScalingMetrics

namespace Listing

/-- The request for the autoscalers of a namespace; without one, or with an empty one, of all. -/
def request (ns : Option String) : ClusterRequest :=
  ⟨"GET", ClusterRequest.objectsAddress "autoscaling/v2" (ns.filter (!·.isEmpty))
    "horizontalpodautoscalers", none⟩

/-- Whether a document has the form of the metadata of a list. -/
def isMetadata : Json → Bool :=
  Json.hasFields
    [("continue", Json.isText), ("remainingItemCount", Json.isSigned 64),
      ("resourceVersion", Json.isText), ("selfLink", Json.isText)]

/-- Reads the items of a list; `null` stands for none. -/
def items? : Json → Option (List Autoscaler)
  | .null => some []
  | j => j.asListOf? Autoscaler.ofJson?

/-- Reads a list of autoscalers. -/
def ofJson? (j : Json) : Option (List Autoscaler) := do
  let fields ← j.fields? ["metadata", "items"] 0
  let _ ← fields.required "metadata" fun m => if isMetadata m then some m else none
  fields.required "items" items?

/-- Reads the answer to a request. -/
def ofResponse? (r : ClusterResponse) : Option (List Autoscaler) :=
  if r.isFailure then none else ofJson? r.body

/-- The autoscalers of a namespace, as the cluster answers. -/
def autoscalers (ns : Option String) (respond : ClusterRequest → ClusterResponse) :
    Traced (Except Cause (List Autoscaler)) :=
  match (request ns).sent?.bind fun r => ofResponse? (respond r) with
  | some items => do
    Traced.line .debug "Listed autoscalers" [("count", .count items.length)]
    return .ok items
  | none => return .error (.root "listing HorizontalPodAutoscalers")

end Listing

end ScalingMetrics
