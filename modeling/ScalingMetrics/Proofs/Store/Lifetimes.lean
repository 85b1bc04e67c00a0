import ScalingMetrics.Settings
import ScalingMetrics.Store.Keeping

/-!
# How long values are kept

The settings give the lifetime of stored values in seconds. One beyond the greatest lifetime counts
as a year. All others are taken as they are, and most of them end after the last representable year:
then a value cannot be kept.
-/

namespace ScalingMetrics

namespace Timestamp

variable {t : Timestamp} {m n : Int}

/-- A number of seconds later. -/
def addSeconds (t : Timestamp) (n : Int) : Timestamp := ⟨t.seconds + n, t.nanos⟩

/-- Whole seconds leave the nanoseconds as they are. -/
theorem addNanos?_seconds (h : t.nanos < nanosPerSecond) (n : Int) :
    t.addNanos? (n * nanosPerSecond) =
      if firstSecond ≤ t.seconds + n ∧ t.seconds + n ≤ lastSecond then some (t.addSeconds n)
      else none := by
  have seconds : (t.nanos + n * nanosPerSecond) / nanosPerSecond = n := by
    simp only [nanosPerSecond] at h ⊢
    omega
  have nanos : ((t.nanos + n * nanosPerSecond) % nanosPerSecond).toNat = t.nanos := by
    simp only [nanosPerSecond] at h ⊢
    omega
  rw [addNanos?, seconds, nanos]
  rfl

theorem addSeconds_le_iff : (t.addSeconds m).le (t.addSeconds n) = true ↔ m ≤ n := by
  rw [Int.le_iff_lt_or_eq]
  simp [le, addSeconds]

/-- A reading of the clock that has a representable point in time a year later. -/
structure IsPresent (now : Timestamp) : Prop where
  nanos : now.nanos < nanosPerSecond
  first : firstSecond ≤ now.seconds
  last : now.seconds + 365 * 86400 ≤ lastSecond

end Timestamp

namespace Lifetime

/-- The greatest lifetime in whole seconds. -/
def maxSeconds : Nat := maxMillis / 1000

/-- The seconds that values are kept for: one number beyond the greatest counts as a year. -/
def keptSeconds (n : Nat) : Nat := if n ≤ maxSeconds then n else 365 * 86400

theorem ofSpan_ofSeconds (n : Nat) : ofSpan (.ofSeconds n) = ofSeconds (keptSeconds n) := by
  have greatest : maxMillis = 9223372036854775807 := by decide
  simp only [ofSpan, keptSeconds, Span.ofSeconds, maxSeconds, greatest, nanosPerSecond,
    nanosPerMilli]
  split
  · next h =>
      rw [if_pos (by omega), ofSeconds]
      congr 1
  · next h =>
      rw [if_neg (by omega)]
      rfl

variable {now e e' : Timestamp} {m n : Nat}

theorem expiry?_ofSpan (present : now.IsPresent) (n : Nat) :
    (ofSpan (.ofSeconds n)).expiry? now =
      if now.seconds + keptSeconds n ≤ Timestamp.lastSecond then
        some (now.addSeconds (keptSeconds n))
      else none := by
  have first : Timestamp.firstSecond ≤ now.seconds + keptSeconds n := by
    have := present.first
    omega
  rw [expiry?, ofSpan_ofSeconds, ofSeconds, Timestamp.addNanos?_seconds present.nanos]
  simp only [first, true_and]

/-- Too late are the ends of lifetimes that are neither replaced nor over in the representable
years. -/
theorem expiry?_eq_none_iff (present : now.IsPresent) :
    (ofSpan (.ofSeconds n)).expiry? now = none ↔
      Timestamp.lastSecond < now.seconds + n ∧ n ≤ maxSeconds := by
  rw [expiry?_ofSpan present, keptSeconds]
  split
  · next h => simp [h]
  · next h =>
      have last : now.seconds + (365 * 86400 : Nat) ≤ Timestamp.lastSecond := present.last
      rw [if_pos last]
      simp [h]

theorem expiry?_eq_some (present : now.IsPresent)
    (h : (ofSpan (.ofSeconds n)).expiry? now = some e) : e = now.addSeconds (keptSeconds n) := by
  rw [expiry?_ofSpan present] at h
  split at h
  · exact (Option.some.inj h).symm
  · cases h

theorem keptSeconds_le_iff (h : m ≤ n) :
    keptSeconds m ≤ keptSeconds n ↔ n ≤ maxSeconds ∨ keptSeconds m ≤ 365 * 86400 := by
  by_cases hn : n ≤ maxSeconds
  · have hm : m ≤ maxSeconds := Nat.le_trans h hn
    simp [keptSeconds, hn, hm, h]
  · rw [keptSeconds, keptSeconds, if_neg hn]
    simp [hn]

end Lifetime

namespace Settings

variable {now : Timestamp}

/-- A value of any kind is kept, unless the lifetime of the settings ends after the last
representable year and still is not beyond the greatest one. A kept value expires after the lifetime
or, if that is beyond the greatest one, after a year. So a longer lifetime means no earlier expiry
exactly if it is not beyond the greatest one or if the shorter one is at most a year. -/
theorem kept_for_lifetime (present : now.IsPresent) (settings : Settings) :
    (∀ (s : Store) (sample : Sample), s.keep? (.ofSpan settings.ttl) now sample = none ↔
      Timestamp.lastSecond < now.seconds + settings.ttlSeconds.toNat ∧
        settings.ttlSeconds.toNat ≤ Lifetime.maxSeconds) ∧
    (∀ (s s' : Store) (sample : Sample),
      s.keep? (.ofSpan settings.ttl) now sample = some s' → s' = s.insert sample
        ⟨now.seconds + Lifetime.keptSeconds settings.ttlSeconds.toNat, now.nanos⟩) ∧
    ∀ longer : Settings, settings.ttlSeconds ≤ longer.ttlSeconds → ∀ e e',
      (Lifetime.ofSpan settings.ttl).expiry? now = some e →
      (Lifetime.ofSpan longer.ttl).expiry? now = some e' →
        (e.le e' = true ↔ longer.ttlSeconds.toNat ≤ Lifetime.maxSeconds ∨
          Lifetime.keptSeconds settings.ttlSeconds.toNat ≤ 365 * 86400) := by
  refine ⟨?_, ?_, ?_⟩
  · intro s sample
    rw [Store.keep?, Option.map_eq_none_iff]
    exact Lifetime.expiry?_eq_none_iff present
  · intro s s' sample h
    obtain ⟨e, he, rfl⟩ := Option.map_eq_some_iff.mp h
    rw [Lifetime.expiry?_eq_some present he]
    rfl
  · intro longer h e e' he he'
    rw [Lifetime.expiry?_eq_some present he, Lifetime.expiry?_eq_some present he',
      Timestamp.addSeconds_le_iff, Int.ofNat_le]
    exact Lifetime.keptSeconds_le_iff h

/-- The standard settings with another lifetime of stored values. -/
def withTtl (seconds : UInt64) : Settings := { standard with ttlSeconds := seconds }

/-- A reading of the clock in the year 2023. -/
def reading : Timestamp := ⟨1700000000, 0⟩

theorem reading_isPresent : reading.IsPresent := ⟨by decide, by decide, by decide⟩

theorem kept_for_lifetime_replaced :
    ∃ e e', reading.IsPresent ∧ standard.ttlSeconds ≤ (withTtl 18446744073709551615).ttlSeconds ∧
      (Lifetime.ofSpan standard.ttl).expiry? reading = some e ∧
      (Lifetime.ofSpan (withTtl 18446744073709551615).ttl).expiry? reading = some e' ∧
      e.le e' = true := by
  have comparison := (kept_for_lifetime reading_isPresent standard).2.2
    (withTtl 18446744073709551615) (by decide) ⟨1700000900, 0⟩ ⟨1731536000, 0⟩ (by decide)
    (by decide)
  exact ⟨_, _, reading_isPresent, by decide, by decide, by decide, comparison.mpr (by decide)⟩

/-- A lifetime that the settings allow ends too late to keep any value, and one of 400 days outlasts
the longest that can be asked for. -/
theorem lifetime_not_kept :
    reading.IsPresent ∧
    (∃ settings, load [("ADAPTER_METRICS_TTL_SECS", "10000000000000")] = .ok settings ∧
      ∀ (s : Store) (sample : Sample),
        s.keep? (.ofSpan settings.ttl) reading sample = none) ∧
    ∃ e e', (withTtl 34560000).ttlSeconds ≤ (withTtl 18446744073709551615).ttlSeconds ∧
      (Lifetime.ofSpan (withTtl 34560000).ttl).expiry? reading = some e ∧
      (Lifetime.ofSpan (withTtl 18446744073709551615).ttl).expiry? reading = some e' ∧
      e.le e' = false := by
  have loaded : load [("ADAPTER_METRICS_TTL_SECS", "10000000000000")] =
      .ok (withTtl 10000000000000) := rfl
  have late : (Lifetime.ofSpan (withTtl 10000000000000).ttl).expiry? reading = none := by decide
  refine ⟨reading_isPresent, ⟨_, loaded, fun s sample => ?_⟩, ⟨1734560000, 0⟩, ⟨1731536000, 0⟩,
    by decide, by decide, by decide, by decide⟩
  rw [Store.keep?, late]
  rfl

end Settings

end ScalingMetrics
