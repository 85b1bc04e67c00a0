import ScalingMetrics.Http.Error
import ScalingMetrics.Metric.Address
import ScalingMetrics.Metric.Sample
import ScalingMetrics.Quantity
import ScalingMetrics.Selector.Document
import ScalingMetrics.Time.Rfc3339

/-!
# Documents served to clients

A value is served as a quantity; one without a quantity cannot be served. Metric lists and discovery
documents wrap the served values and the addresses of the stored ones.
-/

namespace ScalingMetrics

/-- The API that serves values of objects. -/
def customGroupVersion : String := "custom.metrics.k8s.io/v1beta1"

/-- The API that serves other values. -/
def externalGroupVersion : String := "external.metrics.k8s.io/v1beta1"

/-- The object that a served value describes. -/
def ObjectRef.view (o : ObjectRef) : Json :=
  .obj [("kind", .str o.kind), ("namespace", .str o.ns), ("name", .str o.name),
    ("apiVersion", .str o.apiVersion)]

/-- A member for the window, if there is one. -/
def windowMember : Option Int → List (String × Json)
  | none => []
  | some seconds => [("windowSeconds", .int seconds)]

/-- A member for a selector with terms. -/
def selectorMember : Option Selector → List (String × Json)
  | none => []
  | some s => if s.isEmpty then [] else [("selector", .str s.render)]

/-- The quantity of a value, or the failure to write it as one. -/
def quantityOf (x : Double) : Except ApiError String :=
  match quantity? x with
  | some text => .ok text
  | none => .error (.invalidQuantity x)

/-- A value that describes an object, as it is served. -/
def ObjectValue.view (v : ObjectValue) : Except ApiError Json :=
  (quantityOf v.value).map fun quantity =>
    .obj ([("describedObject", v.describedObject.view), ("metricName", .str v.metric.name),
      ("timestamp", .str (v.timestamp.render .offset))] ++ windowMember v.windowSeconds ++
      [("value", .str quantity)] ++ selectorMember v.metric.selector)

/-- A value addressed by labels, as it is served. -/
def ExternalValue.view (v : ExternalValue) : Except ApiError Json :=
  (quantityOf v.value).map fun quantity =>
    .obj ([("metricName", .str v.metricName), ("metricLabels", v.metricLabels.toJson),
      ("timestamp", .str (v.timestamp.render .offset))] ++ windowMember v.windowSeconds ++
      [("value", .str quantity)])

/-- A list of served values. -/
def valueList (kind apiVersion : String) (items : List Json) : Json :=
  .obj [("kind", .str kind), ("apiVersion", .str apiVersion), ("metadata", .obj []),
    ("items", .arr items)]

/-- An entry of a discovery document. -/
def resourceEntry (name : String) (namespaced : Bool) (kind : String) : Json :=
  .obj [("name", .str name), ("singularName", .str ""), ("namespaced", .bool namespaced),
    ("kind", .str kind), ("verbs", .arr [.str "get"])]

/-- A discovery document. -/
def resourceList (groupVersion : String) (entries : List Json) : Json :=
  .obj [("kind", .str "APIResourceList"), ("apiVersion", .str "v1"),
    ("groupVersion", .str groupVersion), ("resources", .arr entries)]

/-- The name that a custom metric is listed under. -/
def CustomAddress.listedName (a : CustomAddress) : String :=
  a.groupResource.render ++ "/" ++ a.metric

/-- The discovery document of values of objects. -/
def customDiscovery (addresses : List CustomAddress) : Json :=
  resourceList customGroupVersion
    (addresses.map fun a => resourceEntry a.listedName a.namespaced "MetricValueList")

/-- The discovery document of other values. -/
def externalDiscovery (addresses : List ExternalAddress) : Json :=
  resourceList externalGroupVersion
    (addresses.map fun a => resourceEntry a.metric true "ExternalMetricValueList")

end ScalingMetrics
