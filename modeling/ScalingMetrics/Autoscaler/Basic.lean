import ScalingMetrics.Metric.Object
import ScalingMetrics.Selector.Declared
import ScalingMetrics.Time.Timestamp

/-!
# Autoscalers

An autoscaler as the cluster keeps it: metadata, the specification of what to scale by which
metrics, and a status. Absent parts are told apart from empty ones.
-/

namespace ScalingMetrics

/-- An object that owns another. -/
structure Owner where
  apiVersion : String
  kind : String
  name : String
  uid : String
  controller : Option Bool
  blockOwnerDeletion : Option Bool
deriving DecidableEq

/-- A record of who manages which fields of an object. -/
structure FieldManager where
  manager : Option String
  operation : Option String
deriving DecidableEq

/-- The metadata of an object. -/
structure Metadata where
  name : Option String
  ns : Option String
  resourceVersion : Option String
  managedFields : Option (List FieldManager)
  labels : Option Labels
  annotations : Option Labels
  generation : Option Int
  uid : Option String
  creationTimestamp : Option Timestamp
  deletionTimestamp : Option Timestamp
  deletionGracePeriodSeconds : Option Int
  finalizers : Option (List String)
  generateName : Option String
  selfLink : Option String
  owners : Option (List Owner)
deriving DecidableEq

/-- An object named by kind and name, in the namespace of the autoscaler. -/
structure CrossReference where
  apiVersion : Option String
  kind : String
  name : String
deriving DecidableEq

/-- A metric as an autoscaler names it. -/
structure DeclaredMetric where
  name : String
  selector : Option DeclaredSelector
deriving DecidableEq

/-- The value that an autoscaler aims at. -/
structure MetricTarget where
  kind : String
  value : Option String
  averageValue : Option String
  averageUtilization : Option Int
deriving DecidableEq

/-- A metric of the pods that are scaled, or one from outside the cluster. -/
structure TargetedMetric where
  metric : DeclaredMetric
  target : MetricTarget
deriving DecidableEq

/-- A metric of another object. -/
structure ObjectMetric where
  describedObject : CrossReference
  metric : DeclaredMetric
  target : MetricTarget
deriving DecidableEq

/-- A resource that pods consume. -/
structure ResourceMetric where
  name : String
  target : MetricTarget
deriving DecidableEq

/-- A resource that one container of each pod consumes. -/
structure ContainerMetric where
  container : String
  name : String
  target : MetricTarget
deriving DecidableEq

/-- One metric of an autoscaler: a type, and the source that the type names. -/
structure MetricSpec where
  kind : String
  pods : Option TargetedMetric
  object : Option ObjectMetric
  external : Option TargetedMetric
  resource : Option ResourceMetric
  container : Option ContainerMetric
deriving DecidableEq

/-- A bound on the change within a period. -/
structure ScalingPolicy where
  kind : String
  value : Int
  periodSeconds : Int
deriving DecidableEq

/-- How scaling in one direction is slowed down. -/
structure ScalingRules where
  policies : Option (List ScalingPolicy)
  selectPolicy : Option String
  stabilizationWindowSeconds : Option Int
deriving DecidableEq

/-- How scaling is slowed down. -/
structure ScalingBehavior where
  scaleUp : Option ScalingRules
  scaleDown : Option ScalingRules
deriving DecidableEq

/-- What to scale, between which bounds and by which metrics. -/
structure AutoscalerSpec where
  minReplicas : Option Int
  maxReplicas : Int
  scaleTarget : CrossReference
  metrics : Option (List MetricSpec)
  behavior : Option ScalingBehavior
deriving DecidableEq

/-- What was last seen and decided. -/
structure AutoscalerStatus where
  desiredReplicas : Int
  currentReplicas : Option Int
deriving DecidableEq

/-- An autoscaler. -/
structure Autoscaler where
  metadata : Metadata
  spec : Option AutoscalerSpec
  status : Option AutoscalerStatus
deriving DecidableEq

/-- Metadata that says nothing. -/
def Metadata.empty : Metadata :=
  ⟨none, none, none, none, none, none, none, none, none, none, none, none, none, none, none⟩

/-- The metadata without what the cluster changes on its own. -/
def Metadata.settled (m : Metadata) : Metadata :=
  { m with resourceVersion := none, managedFields := none }

namespace Autoscaler

/-- An autoscaler that says nothing. -/
def empty : Autoscaler := ⟨.empty, none, none⟩

/-- Namespace and name; absent ones are empty. -/
def ref (a : Autoscaler) : AutoscalerRef := ⟨a.metadata.ns.getD "", a.metadata.name.getD ""⟩

/-- Whether two copies of an autoscaler ask for the same. Versions, field managers and the status
change on their own and do not count. -/
def agrees (a b : Autoscaler) : Bool :=
  a.metadata.settled == b.metadata.settled && a.spec == b.spec

@[simp] theorem agrees_self (a : Autoscaler) : a.agrees a = true := by simp [agrees]

end Autoscaler

end ScalingMetrics
