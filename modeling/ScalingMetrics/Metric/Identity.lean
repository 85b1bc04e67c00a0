import ScalingMetrics.Selector.Display

/-!
# Which metric is meant

A metric is identified by where it comes from, by its name and by an optional selector. A selector
without terms is not the same as none.
-/

namespace ScalingMetrics

/-- Where a metric comes from and how an autoscaler addresses it. -/
inductive Source where
  | pods
  | object
  | external
deriving DecidableEq

namespace Source

/-- The place of a source in the order of sources. -/
def rank : Source → Nat
  | pods => 0
  | object => 1
  | external => 2

theorem rank_injective {a b : Source} (h : a.rank = b.rank) : a = b := by
  cases a <;> cases b <;> first | rfl | cases h

instance : Ord Source := ⟨compareOn rank⟩

instance : Std.TransOrd Source := inferInstanceAs (Std.TransCmp (compareOn rank))

instance : Std.LawfulEqOrd Source where
  eq_of_compare h := rank_injective (Std.LawfulEqOrd.eq_of_compare h)

/-- The name of a source. -/
def name : Source → String
  | pods => "Pods"
  | object => "Object"
  | external => "External"

/-- The source of a name. -/
def ofName? (s : String) : Option Source := [pods, object, external].find? fun k => k.name == s

end Source

/-- A metric name with an optional selector. -/
structure MetricId where
  name : String
  selector : Option Selector
deriving DecidableEq

namespace MetricId

/-- The labels attached to the metric: those that its selector fixes. -/
def labels (m : MetricId) : Labels :=
  match m.selector with
  | none => ∅
  | some s => s.matchLabels

/-- Identifiers are ordered by name, then by selector, no selector first. -/
def compareFields : MetricId → MetricId → Ordering :=
  compareLex (compareOn name) (compareOn selector)

instance : Ord MetricId := ⟨compareFields⟩

instance : Std.TransOrd MetricId := inferInstanceAs (Std.TransCmp (compareLex _ _))

instance : Std.LawfulEqOrd MetricId where
  eq_of_compare {a b} h := by
    change compareFields a b = .eq at h
    simp only [compareFields, compareLex_eq_eq, compareOn, Std.compare_eq_iff_eq] at h
    cases a; cases b; simp_all

end MetricId

/-- A metric together with its source, independent of how it is collected. -/
structure MetricRef where
  source : Source
  metric : MetricId
deriving DecidableEq

namespace MetricRef

/-- References are ordered by source, then by identifier. -/
def compareFields : MetricRef → MetricRef → Ordering :=
  compareLex (compareOn source) (compareOn metric)

instance : Ord MetricRef := ⟨compareFields⟩

instance : Std.TransOrd MetricRef := inferInstanceAs (Std.TransCmp (compareLex _ _))

instance : Std.LawfulEqOrd MetricRef where
  eq_of_compare {a b} h := by
    change compareFields a b = .eq at h
    simp only [compareFields, compareLex_eq_eq, compareOn, Std.compare_eq_iff_eq] at h
    cases a; cases b; simp_all

/-- The reference as text. A selector without terms is not shown. -/
def render (r : MetricRef) : String :=
  r.source.name ++ "/" ++ r.metric.name ++
    match r.metric.selector with
    | none => ""
    | some s => if s.isEmpty then "" else "\x7b" ++ s.render ++ "\x7d"

end MetricRef

end ScalingMetrics
