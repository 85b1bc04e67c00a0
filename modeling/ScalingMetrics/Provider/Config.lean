import ScalingMetrics.Scheduler.Basic
import ScalingMetrics.Time.Span

/-!
# The parameters of the provider

A provider needs a lister, a plugin registry and a recorder, and intervals between its passes and
sweeps that are not empty. The first thing that is missing is reported.
-/

namespace ScalingMetrics

/-- Intervals, and the capacity of the channel that results are sent through. -/
structure ProviderConfig where
  /-- The time between passes. -/
  syncInterval : Span
  /-- The time between polls where a declaration gives none. -/
  collectorInterval : Span
  /-- The time between sweeps of the store. -/
  sweepInterval : Span
  resultsBuffer : Nat
deriving DecidableEq

/-- What a provider is built with unless something else is asked for. -/
def ProviderConfig.standard : ProviderConfig :=
  ⟨.ofSeconds 30, .ofSeconds 60, .ofSeconds 60, 1⟩

/-- Why no provider is built. -/
inductive BuildError where
  | noLister
  | noRegistry
  | noRecorder
  | noSyncInterval
  | noSweepInterval
  /-- The channel would hold more results than a channel can. -/
  | channelTooLarge
deriving DecidableEq

/-- The refusal as text. -/
def BuildError.message : BuildError → String
  | noLister => "Autoscaler lister is required"
  | noRegistry => "Collector factory is required"
  | noRecorder => "Metrics recorder is required"
  | noSyncInterval => "Sync interval must be non-zero"
  | noSweepInterval => "Store sweep interval must be non-zero"
  | channelTooLarge =>
    "a semaphore may not have more than MAX_PERMITS permits (" ++
      toString Scheduler.channelLimit ++ ")"

/-- The capacity of the channel: one at least. -/
def ProviderConfig.capacity (c : ProviderConfig) : Nat := max c.resultsBuffer 1

/-- Which parts a provider is built from. -/
structure ProviderParts where
  lister : Bool
  registry : Bool
  recorder : Bool
deriving DecidableEq

/-- Every part. -/
def ProviderParts.complete : ProviderParts := ⟨true, true, true⟩

/-- The first reason not to build a provider. -/
def ProviderConfig.refusal? (c : ProviderConfig) (parts : ProviderParts) : Option BuildError :=
  if !parts.lister then some .noLister
  else if !parts.registry then some .noRegistry
  else if !parts.recorder then some .noRecorder
  else if c.syncInterval.isZero then some .noSyncInterval
  else if c.sweepInterval.isZero then some .noSweepInterval
  else if Scheduler.channelLimit < c.capacity then some .channelTooLarge
  else none

end ScalingMetrics
