import ScalingMetrics.Settings
import ScalingMetrics.Telemetry.Filter

/-!
# Starting the program

The program reads its settings, connects to the cluster and builds the provider. Each step can end
it with an error.
-/

namespace ScalingMetrics

/-- Why the program does not start. -/
inductive StartupError where
  | settings (error : SettingsError)
  /-- No cluster is configured. -/
  | noCluster
  | build (error : BuildError)
deriving DecidableEq

namespace StartupError

/-- The error as text. -/
def message : StartupError → String
  | settings error => error.message
  | noCluster => "no cluster"
  | build error => error.message

end StartupError

namespace Startup

/-- The version of the program. -/
def version : String := "0.1.0"

/-- The name that the program logs under. -/
def logTarget : String := "metrics_adapter"

/-- The variable that holds the log filter. -/
def filterVariable : String := "RUST_LOG"

/-- The log line of the settings. -/
def configured (s : Settings) : Traced Unit :=
  Traced.line .info "Adapter configured"
    [("api_port", .count s.apiPort.toNat), ("namespace", .text s.ns),
      ("sync_interval_secs", .count s.syncSeconds.toNat),
      ("metrics_ttl_secs", .count s.ttlSeconds.toNat)]

/-- Reads the settings and checks what the provider needs. -/
def prepare (env : Settings.Environment) (cluster : Bool) :
    Traced (Except StartupError Settings) := do
  Traced.line .info "Starting metrics-adapter" [("version", .text version)]
  match Settings.load env with
  | .error e => return .error (.settings e)
  | .ok settings =>
    configured settings
    if !cluster then return .error .noCluster
    match settings.providerConfig.refusal? .complete with
    | some e => return .error (.build e)
    | none => return .ok settings

/-- The lines that are shown of a log. -/
def shownLines (env : Settings.Environment) (log : List LogLine) : List LogLine :=
  let setting := (env.reverse.find? fun v => v.1 == filterVariable).map (·.2)
  log.filter ((LogFilter.ofSetting setting).shows logTarget)

end Startup

end ScalingMetrics
