import ScalingMetrics.Json.Record
import ScalingMetrics.Selector.Basic

/-!
# Selectors as documents
-/

namespace ScalingMetrics

/-- Reads labels. -/
def Labels.ofJson? (j : Json) : Option Labels := j.asMapOf? Json.asString?

/-- Labels as an object. -/
def Labels.toJson (labels : Labels) : Json := .ofMap .str labels

/-- Reads an operator by its name. -/
def Operator.ofJson? (j : Json) : Option Operator := j.asVariant?.bind ofName?

/-- Reads a requirement; the values may be left out. -/
def Requirement.ofJson? (j : Json) : Option Requirement := do
  let fields ← j.fields? ["key", "operator", "values"] 1
  let key ← fields.required "key" Json.asString?
  let operator ← fields.required "operator" Operator.ofJson?
  let values ← fields.defaulted "values" (Json.asListOf? Json.asString?) []
  some ⟨key, operator, values⟩

/-- A requirement as an object. -/
def Requirement.toJson (r : Requirement) : Json :=
  .obj [("key", .str r.key), ("operator", .str r.operator.name),
    ("values", .ofList .str r.values)]

/-- Reads a selector; either part may be left out. -/
def Selector.ofJson? (j : Json) : Option Selector := do
  let fields ← j.fields? ["match_labels", "match_expressions"] 2
  let labels ← fields.defaulted "match_labels" Labels.ofJson? ∅
  let requirements ← fields.defaulted "match_expressions" (Json.asListOf? Requirement.ofJson?) []
  some ⟨labels, requirements⟩

/-- A selector as an object. -/
def Selector.toJson (s : Selector) : Json :=
  .obj [("match_labels", s.matchLabels.toJson),
    ("match_expressions", .ofList Requirement.toJson s.matchExpressions)]

end ScalingMetrics
