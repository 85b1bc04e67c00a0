import ScalingMetrics.Provider.Pass
import ScalingMetrics.Store.Keeping

/-!
# The loops of the provider

Three loops run beside the pollers: one makes passes, one takes collected values from the channel
into the store, and one sweeps the store. Each reports its condition. They act in any order; an
action names which loop acts and what it learns.

## Implementation notes

A value whose expiry overflows ends the loop that takes values, and the channel has no reader then.

A pass is one action, though it waits for plugins and others act meanwhile. It does not notice what
they do (`Provider.passes_amid_others`).
-/

namespace ScalingMetrics

namespace Provider

variable {π κ : Type}

/-- Takes a collected result in, and says whether all its values were kept. -/
def handle (p : Provider π κ) (c : Collection) (clock : Nat → Timestamp) :
    Traced (Provider π κ × Bool) :=
  match c.result with
  | .ok samples => do
    Traced.measure .collectionSucceeded
    Traced.line .debug "Collected metrics"
      [("resource", .text c.resource.render), ("metric", .text c.metric.render),
        ("count", .count samples.length)]
    let (store, complete) ← Store.keepAll p.lifetime clock samples p.store
    let p := { p with store }
    if complete then p.measureStore
    return (p, complete)
  | .error e => do
    Traced.measure .collectionFailed
    Traced.line .warn "Failed to collect metrics"
      [("event", .text "collection_failed"), ("resource", .text c.resource.render),
        ("metric", .text c.metric.render), ("error", .text e.render)]
    return (p, true)

/-- Sweeps the store. -/
def sweep (p : Provider π κ) (now : Timestamp) : Traced (Provider π κ) := do
  let (store, removed) ← p.store.removeExpired now
  let p := { p with store, health := p.health.setHealthy Component.storeSweep now.seconds }
  p.measureStore
  if 0 < removed then Traced.line .info "Removed expired metrics" [("removed", .count removed)]
  return p

/-- One pass of the loop, which ends at a point in time and took a number of seconds. -/
def pass (p : Provider π κ) (input : PassInput π κ) (now : Timestamp) (seconds : Double) :
    Traced (Provider π κ × Option (PassReport π)) := do
  let (p, outcome) ← p.reconcile input
  match outcome with
  | .ok report =>
    Traced.measure .passSucceeded
    Traced.line .debug "Reconciliation pass complete" report.summary.fields
    Traced.measure (.passDuration seconds)
    let health := (p.health.setHealthy Component.provider now.seconds).setReady true
    return ({ p with health }, some report)
  | .error e =>
    Traced.measure .passFailed
    Traced.line .error "Failed to reconcile autoscalers"
      [("event", .text "reconcile_failed"), ("error", .text e.render)]
    Traced.measure (.passDuration seconds)
    let health := p.health.setDegraded Component.provider e.render now.seconds
    return ({ p with health }, none)

/-- The loop that takes values begins. -/
def openSink (p : Provider π κ) (now : Timestamp) : Provider π κ :=
  { p with health := p.health.setHealthy Component.collectorSink now.seconds }

/-- Takes the oldest result from the channel in, if there is one. -/
def consume? (p : Provider π κ) (clock : Nat → Timestamp) : Option (Traced (Provider π κ)) :=
  match p.scheduler.receive? with
  | none => none
  | some (d, scheduler) => some do
    let (p, complete) ← { p with scheduler }.handle d.collection clock
    return if complete then p else { p with scheduler := p.scheduler.close }

end Provider

/-- Whether an action is one of a poller, or time passing. -/
def SchedulerAction.isOfPoller {κ ρ : Type} : SchedulerAction κ ρ → Bool
  | start _ => true
  | finish .. => true
  | look _ => true
  | accept .. => true
  | stop _ => true
  | wake _ => true
  | elapse _ => true
  | _ => false

/-- One step of the provider and its pollers. -/
inductive ProviderAction (π κ : Type) where
  /-- A pass, which ends at a point in time and took a number of seconds. -/
  | pass (input : PassInput π κ) (now : Timestamp) (seconds : Double)
  /-- The loop that takes values begins. -/
  | openSink (now : Timestamp)
  /-- The oldest result is taken from the channel. -/
  | consume (clock : Nat → Timestamp)
  | sweep (now : Timestamp)
  /-- A poller acts, or time passes. -/
  | poller (action : SchedulerAction κ Outcome)
  /-- All pollers are cancelled. -/
  | cancel

namespace Provider

variable {π κ : Type}

/-- The state after an action, if the action is possible. -/
def step? (p : Provider π κ) : ProviderAction π κ → Option (Traced (Provider π κ))
  | .pass input now seconds => some ((·.1) <$> p.pass input now seconds)
  | .openSink now => some (pure (p.openSink now))
  | .consume clock => p.consume? clock
  | .sweep now => some (p.sweep now)
  | .poller action =>
    if action.isOfPoller then
      (p.scheduler.step? action).map fun next => (fun scheduler => { p with scheduler }) <$> next
    else none
  | .cancel => some (pure { p with scheduler := p.scheduler.cancelRoot })

/-- The state after actions in order, if all of them are possible. -/
def run? (p : Provider π κ) : List (ProviderAction π κ) → Option (Traced (Provider π κ)) :=
  Traced.run? step? p

end Provider

end ScalingMetrics
