import ScalingMetrics.Json.Record
import ScalingMetrics.Time.Rfc3339
import ScalingMetrics.Time.Span

/-!
# Times as documents

A point in time is its text. A span is an object with its seconds and the nanoseconds beyond them.
-/

namespace ScalingMetrics

/-- Reads a point in time. -/
def Timestamp.ofJson? (j : Json) : Option Timestamp := j.asString?.bind Timestamp.parse?

/-- A point in time as a string. -/
def Timestamp.toJson (t : Timestamp) : Json := .str (t.render .letter)

/-- Reads a span. Nanoseconds beyond a second are carried; an object has no further members. -/
def Span.ofJson? (j : Json) : Option Span := do
  let fields ← j.fields? ["secs", "nanos"] 0
  let foreign :=
    match j with
    | .obj members => members.any fun m => m.1 != "secs" && m.1 != "nanos"
    | _ => false
  if foreign then none
  let seconds ← fields.required "secs" (Json.asUnsigned? 64)
  let nanos ← fields.required "nanos" (Json.asUnsigned? 32)
  let span : Span := ⟨seconds * nanosPerSecond + nanos⟩
  if span.seconds < Nat.pow 2 64 then some span else none

/-- A span as an object. -/
def Span.toJson (s : Span) : Json :=
  .obj [("secs", .int s.seconds), ("nanos", .int s.subsecondNanos)]

end ScalingMetrics
