import ScalingMetrics.Collections.SortedMap

/-!
# Label selectors

A selector is a conjunction: every label it names must be present with the value it gives, and every
requirement must hold. The selector without terms matches every label set.
-/

namespace ScalingMetrics

/-- A set of labels: one value for each key. -/
abbrev Labels := SortedMap String String

/-- How a requirement reads the value of its key. -/
inductive Operator where
  | isIn
  | notIn
  | exists
  | doesNotExist
deriving DecidableEq, Repr

namespace Operator

/-- The place of an operator in the order of operators. -/
def rank : Operator → Nat
  | isIn => 0
  | notIn => 1
  | .exists => 2
  | doesNotExist => 3

theorem rank_injective {a b : Operator} (h : a.rank = b.rank) : a = b := by
  cases a <;> cases b <;> first | rfl | cases h

instance : Ord Operator := ⟨compareOn rank⟩

instance : Std.TransOrd Operator := inferInstanceAs (Std.TransCmp (compareOn rank))

instance : Std.LawfulEqOrd Operator where
  eq_of_compare h := rank_injective (Std.LawfulEqOrd.eq_of_compare h)

/-- The name of an operator in a set-based requirement. -/
def name : Operator → String
  | isIn => "In"
  | notIn => "NotIn"
  | .exists => "Exists"
  | doesNotExist => "DoesNotExist"

/-- The operator of a name. -/
def ofName? (s : String) : Option Operator :=
  [isIn, notIn, .exists, doesNotExist].find? fun o => o.name == s

@[simp] theorem ofName?_name (o : Operator) : ofName? o.name = some o := by
  cases o <;> decide

end Operator

/-- A condition on the value of one key. -/
structure Requirement where
  key : String
  operator : Operator
  values : List String
deriving DecidableEq

namespace Requirement

/-- Whether a label set meets the requirement. An absent key meets `notIn` and `doesNotExist`. -/
def accepts (r : Requirement) (labels : Labels) : Bool :=
  match r.operator, labels.get? r.key with
  | .isIn, some v => r.values.contains v
  | .isIn, none => false
  | .notIn, some v => !r.values.contains v
  | .notIn, none => true
  | .exists, v => v.isSome
  | .doesNotExist, v => v.isNone

/-- Requirements are ordered by key, operator and values. -/
def compareFields : Requirement → Requirement → Ordering :=
  compareLex (compareOn key) (compareLex (compareOn operator) (compareOn values))

instance : Ord Requirement := ⟨compareFields⟩

instance : Std.TransOrd Requirement :=
  inferInstanceAs (Std.TransCmp (compareLex _ (compareLex _ _)))

instance : Std.LawfulEqOrd Requirement where
  eq_of_compare {a b} h := by
    change compareFields a b = .eq at h
    simp only [compareFields, compareLex_eq_eq, compareOn, Std.compare_eq_iff_eq] at h
    cases a; cases b; simp_all

end Requirement

/-- A conjunction of equal labels and requirements. -/
structure Selector where
  matchLabels : Labels
  matchExpressions : List Requirement
deriving DecidableEq

namespace Selector

/-- The selector without terms, which matches every label set. -/
def everything : Selector := ⟨∅, []⟩

instance : Inhabited Selector := ⟨everything⟩

/-- The selector that asks for given labels and nothing else; the later of two values for a key
counts. -/
def ofLabels (pairs : List (String × String)) : Selector := ⟨.ofList pairs, []⟩

/-- Whether the selector has no terms. -/
def isEmpty (s : Selector) : Bool := s.matchLabels.isEmpty && s.matchExpressions.isEmpty

/-- Whether a label set meets every term. -/
def accepts (s : Selector) (labels : Labels) : Bool :=
  s.matchLabels.entries.all (fun e => labels.get? e.1 == some e.2) &&
    s.matchExpressions.all (·.accepts labels)

@[simp] theorem everything_accepts (labels : Labels) : everything.accepts labels = true := rfl

theorem accepts_iff {s : Selector} {labels : Labels} :
    s.accepts labels = true ↔
      (∀ k v, s.matchLabels.get? k = some v → labels.get? k = some v) ∧
        ∀ r ∈ s.matchExpressions, r.accepts labels = true := by
  simp only [Selector.accepts, Bool.and_eq_true, List.all_eq_true, beq_iff_eq,
    SortedMap.get?_eq_some_iff]
  exact and_congr_left' ⟨fun h k v => h (k, v), fun h e => h e.1 e.2⟩

/-- Selectors are ordered by their labels, then by their requirements. -/
def compareFields : Selector → Selector → Ordering :=
  compareLex (compareOn matchLabels) (compareOn matchExpressions)

instance : Ord Selector := ⟨compareFields⟩

instance : Std.TransOrd Selector := inferInstanceAs (Std.TransCmp (compareLex _ _))

instance : Std.LawfulEqOrd Selector where
  eq_of_compare {a b} h := by
    change compareFields a b = .eq at h
    simp only [compareFields, compareLex_eq_eq, compareOn, Std.compare_eq_iff_eq] at h
    cases a; cases b; simp_all

end Selector

end ScalingMetrics
