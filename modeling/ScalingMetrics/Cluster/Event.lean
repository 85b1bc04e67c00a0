import ScalingMetrics.Autoscaler.Basic
import ScalingMetrics.Cluster.Request

/-!
# Events about autoscalers

A warning about an autoscaler is published as an event in its namespace. Events about objects
outside namespaces are kept with the system.
-/

namespace ScalingMetrics

/-- Who publishes events. -/
structure Reporter where
  controller : String
  /-- The pod that reports, if it is known. -/
  pod : Option String
deriving DecidableEq

namespace Reporter

/-- The reference of an event to its autoscaler. -/
def regarding (a : Autoscaler) : Json :=
  .obj ([("apiVersion", .str "autoscaling/v2"), ("kind", .str "HorizontalPodAutoscaler")] ++
    Json.presentMember "name" a.metadata.name ++ Json.presentMember "namespace" a.metadata.ns ++
    Json.presentMember "uid" a.metadata.uid)

/-- The event of a warning. -/
def event (r : Reporter) (a : Autoscaler) (reason note : String) : Json :=
  .obj [("apiVersion", .str "events.k8s.io/v1"), ("kind", .str "Event"),
    ("metadata",
      .obj (("generateName", .str (r.controller ++ "-")) ::
        Json.presentMember "namespace" a.metadata.ns)),
    ("type", .str "Warning"), ("action", .str "CollectMetrics"), ("reason", .str reason),
    ("note", .str note), ("regarding", regarding a),
    ("reportingController", .str r.controller),
    ("reportingInstance", .str (r.pod.getD r.controller))]

/-- The request that publishes a warning. -/
def publication (r : Reporter) (a : Autoscaler) (reason note : String) : ClusterRequest :=
  ⟨"POST", ClusterRequest.objectsAddress "events.k8s.io/v1"
    (some (a.metadata.ns.getD "kube-system")) "events", some (r.event a reason note)⟩

end Reporter

end ScalingMetrics
