import ScalingMetrics.Metric.Address
import ScalingMetrics.Metric.Declaration
import ScalingMetrics.Metric.Sample
import ScalingMetrics.Selector.Document
import ScalingMetrics.Time.Document

/-!
# Metrics as documents

Every record of the metric model is read from a document and written as one. A collected value is an
object with one member, named for its source.
-/

namespace ScalingMetrics

/-- Reads a source by its name. -/
def Source.ofJson? (j : Json) : Option Source := j.asVariant?.bind ofName?

/-- A source as a string. -/
def Source.toJson (s : Source) : Json := .str s.name

/-- Reads a metric identifier. -/
def MetricId.ofJson? (j : Json) : Option MetricId := do
  let fields ← j.fields? ["name", "selector"] 0
  let name ← fields.required "name" Json.asString?
  let selector ← fields.optional "selector" Selector.ofJson?
  some ⟨name, selector⟩

/-- A metric identifier as an object. -/
def MetricId.toJson (m : MetricId) : Json :=
  .obj [("name", .str m.name), ("selector", .ofOption Selector.toJson m.selector)]

/-- Reads a metric with its source. -/
def MetricRef.ofJson? (j : Json) : Option MetricRef := do
  let fields ← j.fields? ["kind", "metric"] 0
  let source ← fields.required "kind" Source.ofJson?
  let metric ← fields.required "metric" MetricId.ofJson?
  some ⟨source, metric⟩

/-- A metric with its source as an object. -/
def MetricRef.toJson (r : MetricRef) : Json :=
  .obj [("kind", r.source.toJson), ("metric", r.metric.toJson)]

/-- Reads an object reference. -/
def ObjectRef.ofJson? (j : Json) : Option ObjectRef := do
  let fields ← j.fields? ["api_version", "kind", "name", "namespace"] 0
  let apiVersion ← fields.required "api_version" Json.asString?
  let kind ← fields.required "kind" Json.asString?
  let name ← fields.required "name" Json.asString?
  let ns ← fields.required "namespace" Json.asString?
  some ⟨apiVersion, kind, name, ns⟩

/-- An object reference as an object. -/
def ObjectRef.toJson (o : ObjectRef) : Json :=
  .obj [("api_version", .str o.apiVersion), ("kind", .str o.kind), ("name", .str o.name),
    ("namespace", .str o.ns)]

/-- Reads a declaration. -/
def Declaration.ofJson? (j : Json) : Option Declaration := do
  let fields ← j.fields?
    ["type_name", "collector_name", "config", "object_reference", "per_replica", "interval"] 0
  let metric ← fields.required "type_name" MetricRef.ofJson?
  let collectorName ← fields.optional "collector_name" Json.asString?
  let parameters ← fields.required "config" Labels.ofJson?
  let describedObject ← fields.optional "object_reference" ObjectRef.ofJson?
  let perReplica ← fields.required "per_replica" Json.asBool?
  let interval ← fields.optional "interval" Span.ofJson?
  some ⟨metric, collectorName, parameters, describedObject, perReplica, interval⟩

/-- A declaration as an object. -/
def Declaration.toJson (d : Declaration) : Json :=
  .obj [("type_name", d.metric.toJson), ("collector_name", .ofOption .str d.collectorName),
    ("config", d.parameters.toJson),
    ("object_reference", .ofOption ObjectRef.toJson d.describedObject),
    ("per_replica", .bool d.perReplica), ("interval", .ofOption Span.toJson d.interval)]

/-- Reads a value that describes an object. -/
def ObjectValue.ofJson? (j : Json) : Option ObjectValue := do
  let fields ← j.fields? ["described_object", "metric", "timestamp", "window_seconds", "value"] 0
  let describedObject ← fields.required "described_object" ObjectRef.ofJson?
  let metric ← fields.required "metric" MetricId.ofJson?
  let timestamp ← fields.required "timestamp" Timestamp.ofJson?
  let windowSeconds ← fields.optional "window_seconds" (Json.asSigned? 64)
  let value ← fields.required "value" Json.asDouble?
  some ⟨describedObject, metric, timestamp, windowSeconds, value⟩

/-- A value that describes an object as an object. -/
def ObjectValue.toJson (v : ObjectValue) : Json :=
  .obj [("described_object", v.describedObject.toJson), ("metric", v.metric.toJson),
    ("timestamp", v.timestamp.toJson), ("window_seconds", .ofOption .int v.windowSeconds),
    ("value", .real v.value)]

/-- Reads a value addressed by labels. -/
def ExternalValue.ofJson? (j : Json) : Option ExternalValue := do
  let fields ← j.fields? ["metric_name", "metric_labels", "timestamp", "window_seconds", "value"] 0
  let metricName ← fields.required "metric_name" Json.asString?
  let metricLabels ← fields.required "metric_labels" Labels.ofJson?
  let timestamp ← fields.required "timestamp" Timestamp.ofJson?
  let windowSeconds ← fields.optional "window_seconds" (Json.asSigned? 64)
  let value ← fields.required "value" Json.asDouble?
  some ⟨metricName, metricLabels, timestamp, windowSeconds, value⟩

/-- A value addressed by labels as an object. -/
def ExternalValue.toJson (v : ExternalValue) : Json :=
  .obj [("metric_name", .str v.metricName), ("metric_labels", v.metricLabels.toJson),
    ("timestamp", v.timestamp.toJson), ("window_seconds", .ofOption .int v.windowSeconds),
    ("value", .real v.value)]

/-- Reads the namespace and the value of a collected value. -/
def Sample.readContent? {α : Type} (read : Json → Option α) (j : Json) : Option (String × α) := do
  let fields ← j.objectFields?
  let ns ← fields.required "namespace" Json.asString?
  let value ← fields.required "value" read
  some (ns, value)

/-- Reads a collected value from an object with one member, named for the source. -/
def Sample.ofJson? : Json → Option Sample
  | .obj [(name, content)] =>
    match Source.ofName? name with
    | some .pods => (readContent? ObjectValue.ofJson? content).map fun (ns, v) => .pods ns v
    | some .object => (readContent? ObjectValue.ofJson? content).map fun (ns, v) => .object ns v
    | some .external =>
      (readContent? ExternalValue.ofJson? content).map fun (ns, v) => .external ns v
    | none => none
  | _ => none

/-- A collected value as an object with one member. -/
def Sample.toJson (s : Sample) : Json :=
  let value :=
    match s with
    | pods _ v => v.toJson
    | object _ v => v.toJson
    | external _ v => v.toJson
  .obj [(s.source.name, .obj [("namespace", .str s.ns), ("value", value)])]

/-- Reads a reference to an autoscaler. -/
def AutoscalerRef.ofJson? (j : Json) : Option AutoscalerRef := do
  let fields ← j.fields? ["namespace", "name"] 0
  let ns ← fields.required "namespace" Json.asString?
  let name ← fields.required "name" Json.asString?
  some ⟨ns, name⟩

/-- A reference to an autoscaler as an object. -/
def AutoscalerRef.toJson (r : AutoscalerRef) : Json :=
  .obj [("namespace", .str r.ns), ("name", .str r.name)]

/-- Reads a group-resource. -/
def GroupResource.ofJson? (j : Json) : Option GroupResource := do
  let fields ← j.fields? ["group", "resource"] 0
  let group ← fields.required "group" Json.asString?
  let resource ← fields.required "resource" Json.asString?
  some ⟨group, resource⟩

/-- A group-resource as an object. -/
def GroupResource.toJson (g : GroupResource) : Json :=
  .obj [("group", .str g.group), ("resource", .str g.resource)]

/-- Reads the address of a custom metric. -/
def CustomAddress.ofJson? (j : Json) : Option CustomAddress := do
  let fields ← j.fields? ["group_resource", "namespaced", "metric"] 0
  let groupResource ← fields.required "group_resource" GroupResource.ofJson?
  let namespaced ← fields.required "namespaced" Json.asBool?
  let metric ← fields.required "metric" Json.asString?
  some ⟨groupResource, namespaced, metric⟩

/-- The address of a custom metric as an object. -/
def CustomAddress.toJson (a : CustomAddress) : Json :=
  .obj [("group_resource", a.groupResource.toJson), ("namespaced", .bool a.namespaced),
    ("metric", .str a.metric)]

/-- Reads the address of an external metric. -/
def ExternalAddress.ofJson? (j : Json) : Option ExternalAddress := do
  let fields ← j.fields? ["metric"] 0
  let metric ← fields.required "metric" Json.asString?
  some ⟨metric⟩

/-- The address of an external metric as an object. -/
def ExternalAddress.toJson (a : ExternalAddress) : Json := .obj [("metric", .str a.metric)]

end ScalingMetrics
