import ScalingMetrics.Double.Decimal
import ScalingMetrics.Telemetry.Meters

/-!
# The text format of the meters

Every family of meters has a line of help, a line with its type and its samples. The families are
sorted by name, and one that has not been measured is left out. A sample is written as a
double-precision number.
-/

namespace ScalingMetrics

/-- A family of meters with its samples as name and value. -/
structure MeterFamily where
  name : String
  help : String
  kind : String
  samples : List (String × String)

namespace MeterFamily

/-- The lines of a family. -/
def lines (f : MeterFamily) : List String :=
  ("# HELP " ++ f.name ++ " " ++ f.help) :: ("# TYPE " ++ f.name ++ " " ++ f.kind) ::
    f.samples.map fun s => s.1 ++ " " ++ s.2

/-- A family with one sample. -/
def single (name help kind : String) (value : Int) : MeterFamily :=
  ⟨name, help, kind, [(name, (Double.ofInt value).text)]⟩

/-- The name of a sample with a label. -/
def labelled (name label value : String) : String :=
  name ++ "\x7b" ++ label ++ "=\x22" ++ value ++ "\x22\x7d"

/-- A size as a signed 64-bit number. -/
def signed (n : Nat) : Int := (n : Int).bmod (Nat.pow 2 64)

end MeterFamily

namespace Meters

open MeterFamily

/-- The number of running pollers. -/
def activeFamily (m : Meters) : MeterFamily :=
  single "metrics_adapter_active_collectors" "Number of metric pollers currently running" "gauge"
    (signed m.activeCollectors)

/-- The number of failed collections. -/
def collectionErrorsFamily (m : Meters) : MeterFamily :=
  single "metrics_adapter_collection_errors_total" "Total number of failed metric collections"
    "counter" m.collectionErrors

/-- The number of successful collections. -/
def collectionSuccessesFamily (m : Meters) : MeterFamily :=
  single "metrics_adapter_collection_successes_total"
    "Total number of successful metric collections" "counter" m.collectionSuccesses

/-- The durations of passes. -/
def passDurationsFamily (m : Meters) : MeterFamily :=
  let name := "metrics_adapter_reconcile_duration_seconds"
  let classes := List.zipWith
    (fun bound (n : Nat) => (labelled (name ++ "_bucket") "le" bound.text, (Double.ofInt n).text))
    Histogram.bounds m.passDurations.atMost
  let count := (Double.ofInt m.passDurations.count).text
  ⟨name, "Time spent reconciling autoscalers against running pollers", "histogram",
    classes ++ [(labelled (name ++ "_bucket") "le" "+Inf", count),
      (name ++ "_sum", m.passDurations.sum.text), (name ++ "_count", count)]⟩

/-- The numbers of stored values, if they have been measured. -/
def storedFamily (m : Meters) : List MeterFamily :=
  match m.storedMetrics with
  | none => []
  | some (custom, external) =>
    let name := "metrics_adapter_stored_metrics"
    let sample (api : String) (n : Nat) := (labelled name "api" api, (Double.ofInt (signed n)).text)
    [⟨name, "Number of metric values currently held in the store", "gauge",
      [sample "custom" custom, sample "external" external]⟩]

/-- The number of failed passes. -/
def passErrorsFamily (m : Meters) : MeterFamily :=
  single "metrics_adapter_update_errors_total" "Total number of failed autoscaler reconciliations"
    "counter" m.passErrors

/-- The number of completed passes. -/
def passSuccessesFamily (m : Meters) : MeterFamily :=
  single "metrics_adapter_update_successes_total"
    "Total number of successful autoscaler reconciliations" "counter" m.passSuccesses

/-- All families, sorted by name. -/
def families (m : Meters) : List MeterFamily :=
  [m.activeFamily, m.collectionErrorsFamily, m.collectionSuccessesFamily, m.passDurationsFamily] ++
    m.storedFamily ++ [m.passErrorsFamily, m.passSuccessesFamily]

/-- The lines of all families. -/
def expositionLines (m : Meters) : List String := m.families.flatMap MeterFamily.lines

/-- The text of all families; every line is ended. -/
def exposition (m : Meters) : String := .join (m.expositionLines.map (· ++ "\n"))

end Meters

end ScalingMetrics
