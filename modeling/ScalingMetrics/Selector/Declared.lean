import ScalingMetrics.Selector.Grammar

/-!
# Selectors of cluster objects

An object of the cluster names its operators by strings and may leave out every part of a selector.
-/

namespace ScalingMetrics

/-- A requirement as written in a cluster object. -/
structure DeclaredRequirement where
  key : String
  operator : String
  values : Option (List String)
deriving DecidableEq

/-- A selector as written in a cluster object. -/
structure DeclaredSelector where
  matchLabels : Option Labels
  matchExpressions : Option (List DeclaredRequirement)
deriving DecidableEq

/-- The requirement meant; the fault of an unknown operator names the key. -/
def DeclaredRequirement.resolve (r : DeclaredRequirement) : Except SelectorError Requirement :=
  match Operator.ofName? r.operator with
  | some operator => .ok ⟨r.key, operator, r.values.getD []⟩
  | none => .error (.unknownOperator r.key r.operator)

/-- The requirements meant, up to the first fault. -/
def DeclaredRequirement.resolveAll :
    List DeclaredRequirement → Except SelectorError (List Requirement)
  | [] => .ok []
  | r :: rest =>
    match r.resolve with
    | .error e => .error e
    | .ok q => (resolveAll rest).map (q :: ·)

/-- The selector meant; absent parts are empty. -/
def DeclaredSelector.resolve (s : DeclaredSelector) : Except SelectorError Selector :=
  (DeclaredRequirement.resolveAll (s.matchExpressions.getD [])).map
    fun requirements => ⟨s.matchLabels.getD ∅, requirements⟩

end ScalingMetrics
