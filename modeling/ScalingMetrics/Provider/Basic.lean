import ScalingMetrics.Autoscaler.Basic
import ScalingMetrics.Collector.Registry
import ScalingMetrics.Health.Basic
import ScalingMetrics.Provider.Config
import ScalingMetrics.Scheduler.Step
import ScalingMetrics.Store.Basic

/-!
# The provider

The provider keeps one poller running for each metric that the autoscalers declare, and the
collected values in the store.

## Implementation notes

Autoscalers whose declarations all have a collector are remembered. They are left alone as long as
they ask for the same.
-/

namespace ScalingMetrics

/-- The result of one poll. -/
abbrev Outcome := Except Cause (List Sample)

/-- The values of a poll; a failed one has none. -/
def Outcome.samples : Outcome → List Sample
  | .ok samples => samples
  | .error _ => []

/-- The result of a poll with the slot that it belongs to. -/
structure Collection where
  resource : AutoscalerRef
  metric : MetricRef
  result : Outcome

/-- A delivered result, whoever polled it. -/
def Delivery.collection (d : Delivery Outcome) : Collection := ⟨d.resource, d.metric, d.result⟩

/-- The parts of the provider. -/
structure Provider (π κ : Type) where
  config : ProviderConfig
  registry : Registry π
  lifetime : Lifetime
  scheduler : Scheduler κ Outcome
  store : Store
  health : HealthRegistry
  /-- The autoscalers that were fully scheduled in the last pass. -/
  cache : SortedMap AutoscalerRef Autoscaler

namespace Provider

variable {π κ : Type}

/-- A provider that has done nothing yet. -/
def create (config : ProviderConfig) (registry : Registry π) (lifetime : Lifetime) : Provider π κ :=
  ⟨config, registry, lifetime, .create config.resultsBuffer, .empty, .empty, ∅⟩

/-- The interval at which a declaration is polled. -/
def interval (p : Provider π κ) (d : Declaration) : Span :=
  d.interval.getD p.config.collectorInterval

/-- Measures the store. -/
def measureStore (p : Provider π κ) : Traced Unit :=
  Traced.measure (.storedMetrics p.store.counts.1 p.store.counts.2)

end Provider

end ScalingMetrics
