import ScalingMetrics.Store.Basic

/-!
# Keeping collected values

Each value of a batch is kept from its own point in time for the lifetime of the store. A batch ends
early at a value whose expiry overflows.
-/

namespace ScalingMetrics

namespace Store

/-- Keeps a value from now on; none if its expiry overflows. -/
def keep? (s : Store) (lifetime : Lifetime) (now : Timestamp) (sample : Sample) : Option Store :=
  (lifetime.expiry? now).map (s.insert sample)

/-- The log line of a value to be kept. -/
def keepingLine (sample : Sample) : Traced Unit :=
  Traced.line .debug "Storing collected metric"
    [("kind", .text sample.source.name), ("namespace", .text sample.ns),
      ("metric", .text sample.metricName)]

/-- Keeps values in order, the first one at the first reading of the clock, and says whether all of
them were kept. -/
def keepAll (lifetime : Lifetime) :
    (Nat → Timestamp) → List Sample → Store → Traced (Store × Bool)
  | _, [], s => pure (s, true)
  | clock, sample :: rest, s => do
    keepingLine sample
    match s.keep? lifetime (clock 0) sample with
    | none => return (s, false)
    | some s => keepAll lifetime (fun n => clock (n + 1)) rest s

end Store

end ScalingMetrics
