import ScalingMetrics.Autoscaler.Basic
import ScalingMetrics.Cause
import ScalingMetrics.Metric.Declaration

/-!
# The metrics that an autoscaler declares

The metrics of a specification are read in order, and the first fault refuses them all. Resource
metrics are served elsewhere and declare nothing.
-/

namespace ScalingMetrics

/-- Why the metrics of an autoscaler are refused. -/
inductive SpecError where
  /-- The type names a source that is not given. -/
  | missingSource (source : Source)
  | invalidSelector (metric : String) (error : SelectorError)
  | unsupportedType (kind : String)
deriving DecidableEq

/-- The field of a specification that holds a source. -/
def Source.fieldName : Source → String
  | pods => "pods"
  | object => "object"
  | external => "external"

/-- The refusal as a chain of messages. -/
def SpecError.cause : SpecError → Cause
  | missingSource source =>
    .root ("metric of type " ++ source.name ++ " has no " ++ source.fieldName ++ " source")
  | invalidSelector metric error =>
    (Cause.root error.message).inContext ("invalid selector on metric '" ++ metric ++ "'")
  | unsupportedType kind => .root ("unsupported metric type '" ++ kind ++ "'")

/-- The identifier meant by a declared metric. -/
def DeclaredMetric.resolve (m : DeclaredMetric) : Except SpecError MetricId :=
  match m.selector with
  | none => .ok ⟨m.name, none⟩
  | some selector =>
    match selector.resolve with
    | .ok s => .ok ⟨m.name, some s⟩
    | .error e => .error (.invalidSelector m.name e)

/-- The object meant by a reference from a namespace. -/
def CrossReference.resolve (r : CrossReference) (ns : String) : ObjectRef :=
  ⟨r.apiVersion.getD "", r.kind, r.name, ns⟩

namespace MetricSpec

/-- The declaration of a metric of the scaled pods, about the scaled object. -/
def declarePods (target : CrossReference) (ns : String) (m : TargetedMetric) :
    Except SpecError Declaration :=
  m.metric.resolve.map fun metric =>
    { Declaration.plain ⟨.pods, metric⟩ with describedObject := some (target.resolve ns) }

/-- The declaration of a metric of another object. -/
def declareObject (ns : String) (m : ObjectMetric) : Except SpecError Declaration :=
  m.metric.resolve.map fun metric =>
    { Declaration.plain ⟨.object, metric⟩ with
      describedObject := some (m.describedObject.resolve ns)
      perReplica := m.target.kind == "AverageValue" }

/-- The declaration of an external metric. The labels of its selector are the parameters of its
source. -/
def declareExternal (m : TargetedMetric) : Except SpecError Declaration :=
  m.metric.resolve.map fun metric =>
    { Declaration.plain ⟨.external, metric⟩ with parameters := metric.labels }

/-- The source that a type names. -/
def required {α : Type} (source : Source) : Option α → Except SpecError α
  | some m => .ok m
  | none => .error (.missingSource source)

/-- The declaration of one metric, if it declares any. -/
def declare (target : CrossReference) (ns : String) (m : MetricSpec) :
    Except SpecError (Option Declaration) :=
  match m.kind with
  | "Pods" => (required .pods m.pods).bind fun p => (declarePods target ns p).map some
  | "Object" => (required .object m.object).bind fun o => (declareObject ns o).map some
  | "External" => (required .external m.external).bind fun e => (declareExternal e).map some
  | "Resource" => .ok none
  | "ContainerResource" => .ok none
  | kind => .error (.unsupportedType kind)

/-- The declarations of metrics in order, up to the first fault. -/
def declareAll (target : CrossReference) (ns : String) :
    List MetricSpec → Except SpecError (List Declaration)
  | [] => .ok []
  | m :: rest =>
    match m.declare target ns with
    | .error e => .error e
    | .ok d => (declareAll target ns rest).map (d.toList ++ ·)

end MetricSpec

/-- The metrics to collect for an autoscaler. -/
def Autoscaler.declarations (a : Autoscaler) : Except SpecError (List Declaration) :=
  match a.spec with
  | none => .ok []
  | some spec =>
    MetricSpec.declareAll spec.scaleTarget (a.metadata.ns.getD "") (spec.metrics.getD [])

end ScalingMetrics
