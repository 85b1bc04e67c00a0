import ScalingMetrics.Json.Basic
import ScalingMetrics.Telemetry.Basic

/-!
# Log lines as documents

The message of a line is one of its fields.
-/

namespace ScalingMetrics

/-- The value of a field as a document. -/
def LogValue.toJson : LogValue → Json
  | text s => .str s
  | count n => .int n

/-- Fields as an object. -/
def fieldsToJson (fields : List (String × LogValue)) : Json :=
  .obj (fields.map fun f => (f.1, f.2.toJson))

/-- A line as an object. -/
def LogLine.toJson (l : LogLine) : Json :=
  .obj [("level", .str l.level.name),
    ("fields", fieldsToJson (("message", .text l.message) :: l.fields))]

end ScalingMetrics
