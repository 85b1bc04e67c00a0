import ScalingMetrics.Telemetry.Basic

/-!
# Runs

A machine acts in steps, and each step reports what it did. A run takes actions in order; it is
possible if each action is possible in the state that it finds.
-/

namespace ScalingMetrics

namespace Traced

variable {σ α : Type}

/-- The state after actions in order, if all of them are possible. -/
def run? (step? : σ → α → Option (Traced σ)) (s : σ) : List α → Option (Traced σ)
  | [] => some (pure s)
  | a :: rest =>
    match step? s a with
    | none => none
    | some next =>
      match run? step? next.value rest with
      | none => none
      | some last => some (do let _ ← next; last)

end Traced

end ScalingMetrics
