import ScalingMetrics.Autoscaler.Basic
import ScalingMetrics.Telemetry.Basic

/-!
# Warnings about autoscalers

What operators should know about an autoscaler is raised as a warning: a reason in one word, and a
note.
-/

namespace ScalingMetrics

/-- Why operators are warned. -/
inductive WarningReason where
  /-- The metrics of the autoscaler are refused. -/
  | parseMetrics
  /-- A declaration gets no collector. -/
  | createCollector
deriving DecidableEq

/-- The reason in one word. -/
def WarningReason.name : WarningReason → String
  | parseMetrics => "ParseHPAMetrics"
  | createCollector => "CreateNewMetricsCollector"

/-- A warning about an autoscaler. -/
structure Warning where
  autoscaler : Autoscaler
  reason : WarningReason
  note : String
deriving DecidableEq

/-- Writes a warning to the log. -/
def Warning.announce (w : Warning) : Traced Unit :=
  Traced.line .warn "Autoscaler warning"
    [("event", .text "autoscaler_warning"), ("resource", .text w.autoscaler.ref.render),
      ("reason", .text w.reason.name), ("note", .text w.note)]

end ScalingMetrics
