import ScalingMetrics.Metric.Object

/-!
# Addresses of stored metrics
-/

namespace ScalingMetrics

/-- A custom metric as the discovery document lists it. -/
structure CustomAddress where
  groupResource : GroupResource
  namespaced : Bool
  metric : String
deriving DecidableEq

namespace CustomAddress

/-- Addresses are ordered by group-resource, then root scope before namespaces, then by metric. -/
def compareFields : CustomAddress → CustomAddress → Ordering :=
  compareLex (compareOn groupResource) (compareLex (compareOn namespaced) (compareOn metric))

instance : Ord CustomAddress := ⟨compareFields⟩

instance : Std.TransOrd CustomAddress :=
  inferInstanceAs (Std.TransCmp (compareLex _ (compareLex _ _)))

instance : Std.LawfulEqOrd CustomAddress where
  eq_of_compare {a b} h := by
    change compareFields a b = .eq at h
    simp only [compareFields, compareLex_eq_eq, compareOn, Std.compare_eq_iff_eq] at h
    cases a; cases b; simp_all

end CustomAddress

/-- An external metric as the discovery document lists it. -/
structure ExternalAddress where
  metric : String
deriving DecidableEq

namespace ExternalAddress

instance : Ord ExternalAddress := ⟨compareOn metric⟩

instance : Std.TransOrd ExternalAddress := inferInstanceAs (Std.TransCmp (compareOn metric))

instance : Std.LawfulEqOrd ExternalAddress where
  eq_of_compare {a b} h := by
    have h := Std.LawfulEqOrd.eq_of_compare (a := a.metric) (b := b.metric) h
    cases a; cases b; simp_all

end ExternalAddress

end ScalingMetrics
