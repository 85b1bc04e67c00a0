import Mathlib.Logic.Basic
import ScalingMetrics.Provider.Basic
import ScalingMetrics.Settings

/-!
# Building a provider from the settings

Any settings can be read, but not all of them give a provider. A provider needs intervals that are
not empty, and a channel that holds at least one result and at most as many as a channel can. Empty
intervals are refused, an empty channel is made one larger, and a channel that is too large is only
noticed when it is made.
-/

namespace ScalingMetrics

theorem Scheduler.channelLimit_pos : 0 < channelLimit := by decide

namespace Settings

variable {π κ : Type}

theorem toNat_eq_zero_iff {n : UInt64} : n.toNat = 0 ↔ n = 0 := by
  rw [← UInt64.toNat_inj]
  rfl

theorem syncInterval_isZero_iff {settings : Settings} :
    settings.providerConfig.syncInterval.isZero = true ↔ settings.syncSeconds = 0 := by
  rw [providerConfig, Span.ofSeconds_isZero, beq_iff_eq, toNat_eq_zero_iff]

theorem sweepInterval_isZero_iff {settings : Settings} :
    settings.providerConfig.sweepInterval.isZero = true ↔ settings.sweepSeconds = 0 := by
  rw [providerConfig, Span.ofSeconds_isZero, beq_iff_eq, toNat_eq_zero_iff]

/-- The capacity that the settings give to the channel: one at least. -/
theorem capacity_eq (settings : Settings) :
    settings.providerConfig.capacity = max settings.resultsBuffer.toNat 1 :=
  Nat.max_eq_left (Nat.le_max_right _ _)

theorem exceeds_iff (settings : Settings) :
    Scheduler.channelLimit < settings.providerConfig.capacity ↔
      Scheduler.channelLimit < settings.resultsBuffer.toNat := by
  have := Scheduler.channelLimit_pos
  rw [capacity_eq]
  omega

/-- The intervals are looked at first, and the channel is made last. -/
theorem refusal?_eq (settings : Settings) :
    settings.providerConfig.refusal? .complete =
      if settings.syncSeconds = 0 then some .noSyncInterval
      else if settings.sweepSeconds = 0 then some .noSweepInterval
      else if Scheduler.channelLimit < settings.resultsBuffer.toNat then some .channelTooLarge
      else none := by
  simp only [ProviderConfig.refusal?, ProviderParts.complete, Bool.not_true, Bool.false_eq_true,
    if_false, syncInterval_isZero_iff, sweepInterval_isZero_iff, exceeds_iff]

/-- An empty interval is refused, that of the passes first. With other intervals no provider comes
about exactly if the channel cannot be made, because it would hold more results than a channel can.
In all other cases there is a provider, and its channel has room for one result at least. -/
theorem provider_built_iff (settings : Settings) (registry : Registry π) (lifetime : Lifetime) :
    (settings.providerConfig.refusal? .complete = some .noSyncInterval ↔
      settings.syncSeconds = 0) ∧
    (settings.providerConfig.refusal? .complete = some .noSweepInterval ↔
      settings.syncSeconds ≠ 0 ∧ settings.sweepSeconds = 0) ∧
    (settings.providerConfig.refusal? .complete = some .channelTooLarge ↔
      settings.syncSeconds ≠ 0 ∧ settings.sweepSeconds ≠ 0 ∧
        (Scheduler.create? settings.providerConfig.resultsBuffer :
          Option (Scheduler κ Outcome)) = none) ∧
    (settings.providerConfig.refusal? .complete = none ↔
      settings.syncSeconds ≠ 0 ∧ settings.sweepSeconds ≠ 0 ∧
        Scheduler.create? settings.providerConfig.resultsBuffer =
          some (Provider.create settings.providerConfig registry lifetime :
            Provider π κ).scheduler) ∧
    ((Scheduler.create? settings.providerConfig.resultsBuffer :
        Option (Scheduler κ Outcome)) = none ↔
      Scheduler.channelLimit < settings.resultsBuffer.toNat) ∧
    (Provider.create settings.providerConfig registry lifetime :
      Provider π κ).scheduler.capacity = max settings.resultsBuffer.toNat 1 := by
  have made : (Scheduler.create? settings.providerConfig.resultsBuffer :
      Option (Scheduler κ Outcome)) =
        if Scheduler.channelLimit < settings.resultsBuffer.toNat then none
        else some (Provider.create settings.providerConfig registry lifetime).scheduler :=
    if_congr settings.exceeds_iff rfl rfl
  rw [refusal?_eq, made]
  refine ⟨?_, ?_, ?_, ?_, ?_, settings.capacity_eq⟩
  all_goals grind

/-- Settings that are read and have intervals, but no provider is built from them, nor is one of the
intervals refused. -/
theorem channel_not_made :
    ∃ settings, load [("ADAPTER_RESULTS_BUFFER", "2305843009213693952")] = .ok settings ∧
      settings.syncSeconds ≠ 0 ∧ settings.sweepSeconds ≠ 0 ∧
      settings.providerConfig.refusal? .complete = some .channelTooLarge ∧
      (Scheduler.create? settings.providerConfig.resultsBuffer :
        Option (Scheduler Nat Outcome)) = none := by
  have loaded : load [("ADAPTER_RESULTS_BUFFER", "2305843009213693952")] =
      .ok { standard with resultsBuffer := 2305843009213693952 } := rfl
  have sync : standard.syncSeconds ≠ 0 := by decide
  have sweep : standard.sweepSeconds ≠ 0 := by decide
  refine ⟨_, loaded, sync, sweep, ?_, by decide⟩
  rw [refusal?_eq]
  decide

end Settings

end ScalingMetrics
