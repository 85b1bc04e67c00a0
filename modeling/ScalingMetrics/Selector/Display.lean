import ScalingMetrics.Selector.Basic
import ScalingMetrics.Text.Pieces

/-!
# Writing selectors

The labels come first, by ascending key, then the requirements in their own order, all between
commas.
-/

namespace ScalingMetrics

/-- The term of a requirement. -/
def Requirement.render (r : Requirement) : String :=
  match r.operator with
  | .isIn => r.key ++ " in (" ++ Text.joinStrings "," r.values ++ ")"
  | .notIn => r.key ++ " notin (" ++ Text.joinStrings "," r.values ++ ")"
  | .exists => r.key
  | .doesNotExist => "!" ++ r.key

/-- The term of a label. -/
def renderLabel (label : String × String) : String := label.1 ++ "=" ++ label.2

/-- The selector as a string. -/
def Selector.render (s : Selector) : String :=
  Text.joinStrings ","
    (s.matchLabels.entries.map renderLabel ++ s.matchExpressions.map Requirement.render)

/-- The labels as sorted `key=value` pairs between commas. -/
def Labels.render (labels : Labels) : String :=
  Text.joinStrings "," (labels.entries.map renderLabel)

end ScalingMetrics
