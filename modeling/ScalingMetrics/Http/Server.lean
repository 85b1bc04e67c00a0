import ScalingMetrics.Telemetry.Basic

/-!
# The server

The server listens on a port of all interfaces until it is told to stop.
-/

namespace ScalingMetrics

namespace Http

/-- Why the server does not listen. -/
inductive ServerError where
  /-- Another program listens on the port. -/
  | addressInUse
deriving DecidableEq

/-- The error as text. -/
def ServerError.message : ServerError → String
  | addressInUse => "Address already in use (os error 98)"

/-- The address that the server listens on. -/
def listenAddress (port : UInt16) : String := "0.0.0.0:" ++ toString port.toNat

/-- Starts to listen on a port that is free or not. -/
def startServer (port : UInt16) (free : Bool) : Traced (Except ServerError Unit) := do
  Traced.line .info "Starting API server" [("addr", .text (listenAddress port))]
  return if free then .ok () else .error .addressInUse

/-- Stops the server. -/
def stopServer : Traced Unit := Traced.line .info "API server stopped" []

end Http

end ScalingMetrics
