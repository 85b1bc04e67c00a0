import ScalingMetrics.Text.Pieces

/-!
# Objects of the cluster

A described object is served under a group-resource, which a fixed table gives for its kind. The
text of a group-resource is `resource.group`, or the resource alone in the core group.
-/

namespace ScalingMetrics

/-- The object that a metric value describes. -/
structure ObjectRef where
  apiVersion : String
  kind : String
  name : String
  ns : String
deriving DecidableEq

namespace ObjectRef

/-- Objects are ordered by API version, kind, name and namespace. -/
def compareFields : ObjectRef → ObjectRef → Ordering :=
  compareLex (compareOn apiVersion)
    (compareLex (compareOn kind) (compareLex (compareOn name) (compareOn ns)))

instance : Ord ObjectRef := ⟨compareFields⟩

instance : Std.TransOrd ObjectRef :=
  inferInstanceAs (Std.TransCmp (compareLex _ (compareLex _ (compareLex _ _))))

instance : Std.LawfulEqOrd ObjectRef where
  eq_of_compare {a b} h := by
    change compareFields a b = .eq at h
    simp only [compareFields, compareLex_eq_eq, compareOn, Std.compare_eq_iff_eq] at h
    cases a; cases b; simp_all

/-- The API group: what stands before the first slash of the API version, if there is one. -/
def group (o : ObjectRef) : String :=
  match Text.cut? '/' o.apiVersion.toList with
  | some (group, _) => .ofList group
  | none => ""

end ObjectRef

/-- An API group and a resource of it. -/
structure GroupResource where
  group : String
  resource : String
deriving DecidableEq

namespace GroupResource

/-- Group-resources are ordered by group, then by resource. -/
def compareFields : GroupResource → GroupResource → Ordering :=
  compareLex (compareOn group) (compareOn resource)

instance : Ord GroupResource := ⟨compareFields⟩

instance : Std.TransOrd GroupResource := inferInstanceAs (Std.TransCmp (compareLex _ _))

instance : Std.LawfulEqOrd GroupResource where
  eq_of_compare {a b} h := by
    change compareFields a b = .eq at h
    simp only [compareFields, compareLex_eq_eq, compareOn, Std.compare_eq_iff_eq] at h
    cases a; cases b; simp_all

/-- Reads `resource.group`; without a dot the group is empty. -/
def parse (s : String) : GroupResource :=
  match Text.cut? '.' s.toList with
  | some (resource, group) => ⟨.ofList group, .ofList resource⟩
  | none => ⟨"", s⟩

/-- Writes `resource.group`, or the resource alone in the core group. -/
def render (g : GroupResource) : String :=
  if g.group.isEmpty then g.resource else g.resource ++ "." ++ g.group

/-- The group-resource that an object is served under. Kinds outside the table share the empty
one. -/
def ofObject (o : ObjectRef) : GroupResource :=
  match o.kind with
  | "Pod" => ⟨"", "pods"⟩
  | "Ingress" => ⟨o.group, "ingresses"⟩
  | "RouteGroup" => ⟨"zalando.org", "routegroups"⟩
  | "ScalingSchedule" => ⟨"zalando.org", "scalingschedules"⟩
  | "ClusterScalingSchedule" => ⟨"zalando.org", "clusterscalingschedules"⟩
  | _ => ⟨"", ""⟩

end GroupResource

/-- Namespace and name of an autoscaler, the unit of scheduling. -/
structure AutoscalerRef where
  ns : String
  name : String
deriving DecidableEq

namespace AutoscalerRef

/-- References are ordered by namespace, then by name. -/
def compareFields : AutoscalerRef → AutoscalerRef → Ordering :=
  compareLex (compareOn ns) (compareOn name)

instance : Ord AutoscalerRef := ⟨compareFields⟩

instance : Std.TransOrd AutoscalerRef := inferInstanceAs (Std.TransCmp (compareLex _ _))

instance : Std.LawfulEqOrd AutoscalerRef where
  eq_of_compare {a b} h := by
    change compareFields a b = .eq at h
    simp only [compareFields, compareLex_eq_eq, compareOn, Std.compare_eq_iff_eq] at h
    cases a; cases b; simp_all

/-- Writes `namespace/name`. -/
def render (r : AutoscalerRef) : String := r.ns ++ "/" ++ r.name

end AutoscalerRef

end ScalingMetrics
