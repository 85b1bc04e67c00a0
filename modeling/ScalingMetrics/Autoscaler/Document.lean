import ScalingMetrics.Autoscaler.Basic
import ScalingMetrics.Selector.Document
import ScalingMetrics.Time.Document

/-!
# Autoscalers as documents

Every object of the cluster is an object with members. A member that is absent or `null` has no
value, and where a value is needed it is the empty one. Members without a meaning here are ignored.
-/

namespace ScalingMetrics

/-- A field that is empty if it is absent or `null`. -/
def Json.Fields.orEmpty {α : Type} (fields : Json.Fields) (name : String) (read : Json → Option α)
    (empty : α) : Option α :=
  (fields.optional name read).map (·.getD empty)

/-- A field that holds a text, empty if it is absent. -/
def Json.Fields.text (fields : Json.Fields) (name : String) : Option String :=
  fields.orEmpty name Json.asString? ""

/-- Reads a requirement. -/
def DeclaredRequirement.ofJson? (j : Json) : Option DeclaredRequirement := do
  let fields ← j.objectFields?
  let key ← fields.text "key"
  let operator ← fields.text "operator"
  let values ← fields.optional "values" (Json.asListOf? Json.asString?)
  some ⟨key, operator, values⟩

/-- Reads a selector. -/
def DeclaredSelector.ofJson? (j : Json) : Option DeclaredSelector := do
  let fields ← j.objectFields?
  let labels ← fields.optional "matchLabels" Labels.ofJson?
  let requirements ←
    fields.optional "matchExpressions" (Json.asListOf? DeclaredRequirement.ofJson?)
  some ⟨labels, requirements⟩

/-- Reads an owner. -/
def Owner.ofJson? (j : Json) : Option Owner := do
  let fields ← j.objectFields?
  let apiVersion ← fields.text "apiVersion"
  let kind ← fields.text "kind"
  let name ← fields.text "name"
  let uid ← fields.text "uid"
  let controller ← fields.optional "controller" Json.asBool?
  let blockOwnerDeletion ← fields.optional "blockOwnerDeletion" Json.asBool?
  some ⟨apiVersion, kind, name, uid, controller, blockOwnerDeletion⟩

/-- Whether a document has the form of a record of field management. -/
def FieldManager.isDocument : Json → Bool :=
  Json.hasFields
    [("apiVersion", Json.isText), ("fieldsType", Json.isText), ("manager", Json.isText),
      ("operation", Json.isText), ("subresource", Json.isText),
      ("time", Json.isReadable Timestamp.ofJson?)]

/-- Reads a record of field management. -/
def FieldManager.ofJson? (j : Json) : Option FieldManager := do
  if !isDocument j then none
  let fields ← j.objectFields?
  let manager ← fields.optional "manager" Json.asString?
  let operation ← fields.optional "operation" Json.asString?
  some ⟨manager, operation⟩

/-- Reads metadata. -/
def Metadata.ofJson? (j : Json) : Option Metadata := do
  let fields ← j.objectFields?
  let name ← fields.optional "name" Json.asString?
  let ns ← fields.optional "namespace" Json.asString?
  let resourceVersion ← fields.optional "resourceVersion" Json.asString?
  let managedFields ← fields.optional "managedFields" (Json.asListOf? FieldManager.ofJson?)
  let labels ← fields.optional "labels" Labels.ofJson?
  let annotations ← fields.optional "annotations" Labels.ofJson?
  let generation ← fields.optional "generation" (Json.asSigned? 64)
  let uid ← fields.optional "uid" Json.asString?
  let creationTimestamp ← fields.optional "creationTimestamp" Timestamp.ofJson?
  let deletionTimestamp ← fields.optional "deletionTimestamp" Timestamp.ofJson?
  let deletionGracePeriodSeconds ← fields.optional "deletionGracePeriodSeconds" (Json.asSigned? 64)
  let finalizers ← fields.optional "finalizers" (Json.asListOf? Json.asString?)
  let generateName ← fields.optional "generateName" Json.asString?
  let selfLink ← fields.optional "selfLink" Json.asString?
  let owners ← fields.optional "ownerReferences" (Json.asListOf? Owner.ofJson?)
  some ⟨name, ns, resourceVersion, managedFields, labels, annotations, generation, uid,
    creationTimestamp, deletionTimestamp, deletionGracePeriodSeconds, finalizers, generateName,
    selfLink, owners⟩

/-- The reference that names nothing. -/
def CrossReference.empty : CrossReference := ⟨none, "", ""⟩

/-- Reads a reference to an object. -/
def CrossReference.ofJson? (j : Json) : Option CrossReference := do
  let fields ← j.objectFields?
  let apiVersion ← fields.optional "apiVersion" Json.asString?
  let kind ← fields.text "kind"
  let name ← fields.text "name"
  some ⟨apiVersion, kind, name⟩

/-- Reads a metric. -/
def DeclaredMetric.ofJson? (j : Json) : Option DeclaredMetric := do
  let fields ← j.objectFields?
  let name ← fields.text "name"
  let selector ← fields.optional "selector" DeclaredSelector.ofJson?
  some ⟨name, selector⟩

/-- Reads a target. -/
def MetricTarget.ofJson? (j : Json) : Option MetricTarget := do
  let fields ← j.objectFields?
  let kind ← fields.text "type"
  let value ← fields.optional "value" Json.asString?
  let averageValue ← fields.optional "averageValue" Json.asString?
  let averageUtilization ← fields.optional "averageUtilization" (Json.asSigned? 32)
  some ⟨kind, value, averageValue, averageUtilization⟩

/-- Reads a field that holds a metric. -/
def Json.Fields.metric (fields : Json.Fields) : Option DeclaredMetric :=
  fields.orEmpty "metric" DeclaredMetric.ofJson? ⟨"", none⟩

/-- Reads a field that holds a target. -/
def Json.Fields.target (fields : Json.Fields) : Option MetricTarget :=
  fields.orEmpty "target" MetricTarget.ofJson? ⟨"", none, none, none⟩

/-- Reads a metric with its target. -/
def TargetedMetric.ofJson? (j : Json) : Option TargetedMetric := do
  let fields ← j.objectFields?
  some ⟨← fields.metric, ← fields.target⟩

/-- Reads a metric of another object. -/
def ObjectMetric.ofJson? (j : Json) : Option ObjectMetric := do
  let fields ← j.objectFields?
  let described ← fields.orEmpty "describedObject" CrossReference.ofJson? .empty
  some ⟨described, ← fields.metric, ← fields.target⟩

/-- Reads a resource metric. -/
def ResourceMetric.ofJson? (j : Json) : Option ResourceMetric := do
  let fields ← j.objectFields?
  some ⟨← fields.text "name", ← fields.target⟩

/-- Reads a resource metric of a container. -/
def ContainerMetric.ofJson? (j : Json) : Option ContainerMetric := do
  let fields ← j.objectFields?
  some ⟨← fields.text "container", ← fields.text "name", ← fields.target⟩

/-- Reads one metric of a specification. -/
def MetricSpec.ofJson? (j : Json) : Option MetricSpec := do
  let fields ← j.objectFields?
  let kind ← fields.text "type"
  let pods ← fields.optional "pods" TargetedMetric.ofJson?
  let object ← fields.optional "object" ObjectMetric.ofJson?
  let external ← fields.optional "external" TargetedMetric.ofJson?
  let resource ← fields.optional "resource" ResourceMetric.ofJson?
  let container ← fields.optional "containerResource" ContainerMetric.ofJson?
  some ⟨kind, pods, object, external, resource, container⟩

/-- A field that holds an integer of 32 bits, zero if it is absent. -/
def Json.Fields.integer (fields : Json.Fields) (name : String) : Option Int :=
  fields.orEmpty name (Json.asSigned? 32) 0

/-- Reads a bound on the change within a period. -/
def ScalingPolicy.ofJson? (j : Json) : Option ScalingPolicy := do
  let fields ← j.objectFields?
  some ⟨← fields.text "type", ← fields.integer "value", ← fields.integer "periodSeconds"⟩

/-- Reads the rules of one direction. -/
def ScalingRules.ofJson? (j : Json) : Option ScalingRules := do
  let fields ← j.objectFields?
  let policies ← fields.optional "policies" (Json.asListOf? ScalingPolicy.ofJson?)
  let select ← fields.optional "selectPolicy" Json.asString?
  let window ← fields.optional "stabilizationWindowSeconds" (Json.asSigned? 32)
  some ⟨policies, select, window⟩

/-- Reads how scaling is slowed down. -/
def ScalingBehavior.ofJson? (j : Json) : Option ScalingBehavior := do
  let fields ← j.objectFields?
  let up ← fields.optional "scaleUp" ScalingRules.ofJson?
  let down ← fields.optional "scaleDown" ScalingRules.ofJson?
  some ⟨up, down⟩

/-- Reads a specification. -/
def AutoscalerSpec.ofJson? (j : Json) : Option AutoscalerSpec := do
  let fields ← j.objectFields?
  let minReplicas ← fields.optional "minReplicas" (Json.asSigned? 32)
  let maxReplicas ← fields.integer "maxReplicas"
  let target ← fields.orEmpty "scaleTargetRef" CrossReference.ofJson? .empty
  let metrics ← fields.optional "metrics" (Json.asListOf? MetricSpec.ofJson?)
  let behavior ← fields.optional "behavior" ScalingBehavior.ofJson?
  some ⟨minReplicas, maxReplicas, target, metrics, behavior⟩

/-! ### Status -/

/-- Whether a document has the form of a condition of an autoscaler. -/
def isConditionDocument : Json → Bool :=
  Json.hasFields
    [("lastTransitionTime", Json.isReadable Timestamp.ofJson?), ("message", Json.isText),
      ("reason", Json.isText), ("status", Json.isText), ("type", Json.isText)]

/-- The form of the fields of a current metric, whatever its source. -/
def currentFields : List (String × (Json → Bool)) :=
  [("current",
    Json.hasFields
      [("averageUtilization", Json.isSigned 32), ("averageValue", Json.isText),
        ("value", Json.isText)])]

/-- The form of the field that names a current metric. -/
def currentMetricField : String × (Json → Bool) :=
  ("metric", Json.isReadable DeclaredMetric.ofJson?)

/-- Whether a document has the form of a current metric. -/
def isCurrentMetricDocument : Json → Bool :=
  Json.hasFields
    [("type", Json.isText),
      ("containerResource",
        Json.hasFields (currentFields ++ [("container", Json.isText), ("name", Json.isText)])),
      ("external", Json.hasFields (currentFields ++ [currentMetricField])),
      ("object",
        Json.hasFields (currentFields ++
          [currentMetricField, ("describedObject", Json.isReadable CrossReference.ofJson?)])),
      ("pods", Json.hasFields (currentFields ++ [currentMetricField])),
      ("resource", Json.hasFields (currentFields ++ [("name", Json.isText)]))]

/-- Whether a document has the form of a status. -/
def AutoscalerStatus.isDocument : Json → Bool :=
  Json.hasFields
    [("conditions", Json.isListOf isConditionDocument),
      ("currentMetrics", Json.isListOf isCurrentMetricDocument),
      ("lastScaleTime", Json.isReadable Timestamp.ofJson?),
      ("observedGeneration", Json.isSigned 64)]

/-- Reads a status. -/
def AutoscalerStatus.ofJson? (j : Json) : Option AutoscalerStatus := do
  if !isDocument j then none
  let fields ← j.objectFields?
  let desired ← fields.integer "desiredReplicas"
  let current ← fields.optional "currentReplicas" (Json.asSigned? 32)
  some ⟨desired, current⟩

/-! ### Autoscalers -/

/-- Whether a field is absent or names what is expected. -/
def Json.Fields.permits (fields : Json.Fields) (name expected : String) : Bool :=
  match fields name with
  | none => true
  | some (.str s) => s == expected
  | some _ => false

/-- Reads an autoscaler. The kind and the API version may be left out. -/
def Autoscaler.ofJson? (j : Json) : Option Autoscaler := do
  let fields ← j.objectFields?
  if !(fields.permits "apiVersion" "autoscaling/v2" &&
      fields.permits "kind" "HorizontalPodAutoscaler") then none
  let metadata ← fields.orEmpty "metadata" Metadata.ofJson? .empty
  let spec ← fields.optional "spec" AutoscalerSpec.ofJson?
  let status ← fields.optional "status" AutoscalerStatus.ofJson?
  some ⟨metadata, spec, status⟩

end ScalingMetrics
