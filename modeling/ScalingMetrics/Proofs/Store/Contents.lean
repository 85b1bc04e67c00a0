import Mathlib.Data.Set.Card
import ScalingMetrics.Proofs.Store.Lookup

/-!
# What the store says about its contents

The lists for discovery, the counts and the queries all speak of the values that stand. A sweep
reports how many values it took away, leaves the others as they were and has nothing left to do at
the same reading of the clock.
-/

namespace ScalingMetrics

/-- The number of bindings is the number of bound keys. -/
theorem SortedMap.size_eq_ncard {κ α : Type} [Ord κ] [Std.LawfulEqOrd κ] [DecidableEq κ]
    (m : SortedMap κ α) : m.size = {k | ∃ a, m.get? k = some a}.ncard := by
  have bound : {k | ∃ a, m.get? k = some a} = (m.keys.toFinset : Set κ) := by
    ext k
    simp [mem_keys_iff]
  rw [bound, Set.ncard_coe_finset, List.toFinset_card_of_nodup m.nodup_keys, length_keys]

/-- The keys under which a value stands. -/
def liveKeys {κ α : Type} (entry : Sample → Option (κ × α)) (history : List StoreAction) : Set κ :=
  {k | ∃ v expiry, Stands entry history k v expiry}

namespace Store

variable {history : List StoreAction} {s : Store} {metric : String}

/-! ### Lists for discovery -/

theorem mem_customAddresses_iff {a : CustomAddress} :
    a ∈ s.customAddresses ↔ ∃ k ∈ s.custom.keys, k.address = a := by
  rw [customAddresses, SortedMap.mem_keys_ofList_iff]
  simp

/-- Listed are the addresses of the held values. -/
theorem mem_customAddresses_replay_iff {a : CustomAddress} :
    a ∈ (replay history).customAddresses ↔
      ∃ v, (replay history).Has v ∧ (ObjectKey.ofValue v).address = a := by
  rw [mem_customAddresses_iff]
  constructor
  · rintro ⟨k, hk, rfl⟩
    obtain ⟨e, he⟩ := SortedMap.mem_keys_iff.mp hk
    obtain ⟨hkey, hvalue⟩ := custom_consistent (SortedMap.get?_eq_some_iff.mp he)
    change k = .ofValue e.value.value at hkey
    change e.value = .ofValue e.value.value at hvalue
    refine ⟨e.value.value, ⟨e.expiry, ?_⟩, by rw [hkey]⟩
    rw [← hkey, ← hvalue]
    exact he
  · rintro ⟨v, ⟨expiry, hv⟩, rfl⟩
    exact ⟨_, SortedMap.mem_keys_iff.mpr ⟨_, hv⟩, rfl⟩

/-- A value is listed under its group-resource and its metric, as namespaced if it is. -/
theorem address_ofValue_eq_iff {v : ObjectValue} {a : CustomAddress} :
    (ObjectKey.ofValue v).address = a ↔
      GroupResource.ofObject v.describedObject = a.groupResource ∧ v.metric.name = a.metric ∧
        (v.describedObject.ns ≠ "" ↔ a.namespaced = true) := by
  obtain ⟨groupResource, namespaced, name⟩ := a
  simp only [ObjectKey.address, ObjectKey.ofValue, CustomAddress.mk.injEq]
  refine and_congr_right fun _ => ?_
  rw [and_comm]
  refine and_congr_right fun _ => ?_
  cases namespaced <;> simp

theorem mem_externalAddresses_iff :
    ⟨metric⟩ ∈ s.externalAddresses ↔ ∃ k ∈ s.external.keys, k.metric = metric := by
  rw [externalAddresses, SortedMap.mem_keys_ofList_iff]
  simp

/-- An external metric is listed while some namespace has a value of it. -/
theorem mem_externalAddresses_iff_exists_values :
    ⟨metric⟩ ∈ s.externalAddresses ↔ ∃ ns, s.externalValues ns metric .everything ≠ [] := by
  rw [mem_externalAddresses_iff]
  constructor
  · rintro ⟨k, hk, rfl⟩
    obtain ⟨e, he⟩ := SortedMap.mem_keys_iff.mp hk
    refine ⟨k.ns, List.ne_nil_of_mem (a := e.value) ?_⟩
    have hmem := SortedMap.get?_eq_some_iff.mp he
    exact List.mem_map.mpr ⟨(k, e), List.mem_filter.mpr ⟨hmem, by simp⟩, rfl⟩
  · rintro ⟨ns, hne⟩
    obtain ⟨v, hv⟩ := List.exists_mem_of_ne_nil _ hne
    obtain ⟨⟨k, e⟩, hmem, -⟩ := List.mem_map.mp hv
    obtain ⟨he, hasked⟩ := List.mem_filter.mp hmem
    simp only [Selector.everything_accepts, Bool.and_true, Bool.and_eq_true, beq_iff_eq] at hasked
    exact ⟨k, SortedMap.mem_keys_iff.mpr ⟨e, SortedMap.get?_eq_some_iff.mpr he⟩, hasked.2⟩

/-! ### Counts -/

/-- Counted are the keys with a value that stands. -/
theorem counts_replay :
    (replay history).counts =
      ((liveKeys Sample.custom? history).ncard, (liveKeys Sample.external? history).ncard) := by
  have custom :
      liveKeys Sample.custom? history = {k | ∃ e, (replay history).custom.get? k = some e} := by
    ext k
    simp only [liveKeys, Set.mem_ofPred_eq, SortedMap.get?_eq_some_iff, mem_custom_replay_iff]
    exact ⟨fun ⟨v, expiry, h⟩ => ⟨⟨v, expiry⟩, h⟩, fun ⟨e, h⟩ => ⟨e.value, e.expiry, h⟩⟩
  have external :
      liveKeys Sample.external? history = {k | ∃ e, (replay history).external.get? k = some e} := by
    ext k
    simp only [liveKeys, Set.mem_ofPred_eq, SortedMap.get?_eq_some_iff, mem_external_replay_iff]
    exact ⟨fun ⟨v, expiry, h⟩ => ⟨⟨v, expiry⟩, h⟩, fun ⟨e, h⟩ => ⟨e.value, e.expiry, h⟩⟩
  rw [counts, SortedMap.size_eq_ncard, SortedMap.size_eq_ncard, custom, external]

/-! ### Sweeps -/

@[simp] theorem value_removeExpired (s : Store) (now : Timestamp) :
    (s.removeExpired now).value = (s.sweep now, s.size - (s.sweep now).size) := by
  simp only [removeExpired]
  split <;> rfl

theorem size_sweep_le (s : Store) (now : Timestamp) : (s.sweep now).size ≤ s.size :=
  Nat.add_le_add (SortedMap.size_filter_le _ _) (SortedMap.size_filter_le _ _)

/-- A sweep at the same reading of the clock finds nothing more. -/
theorem sweep_sweep (s : Store) (now : Timestamp) : (s.sweep now).sweep now = s.sweep now := by
  simp only [sweep, SortedMap.filter_filter, Bool.and_self]

theorem counts_sweep (s : Store) (now : Timestamp) :
    (s.sweep now).counts.1 + (s.sweep now).counts.2 + (s.size - (s.sweep now).size) =
      s.counts.1 + s.counts.2 :=
  Nat.add_sub_cancel' (size_sweep_le s now)

/-- After any changes the list of custom metrics is ascending and has one line for each
group-resource and metric with a value that stands, in and outside namespaces. The list of external
metrics is ascending and names those with a value in some namespace. The counts are those of the
keys with a value that stands. A sweep reports by how much it lowers the counts, takes away the
expired values and leaves the others with their expiry, and a second one at the same reading of the
clock does nothing. -/
theorem contents_agree (history : List StoreAction) :
    ((replay history).customAddresses.Pairwise (fun a b => compare a b = .lt) ∧
      ∀ a, a ∈ (replay history).customAddresses ↔
        ∃ v expiry, Stands Sample.custom? history (.ofValue v) (.ofValue v) expiry ∧
          GroupResource.ofObject v.describedObject = a.groupResource ∧ v.metric.name = a.metric ∧
          (v.describedObject.ns ≠ "" ↔ a.namespaced = true)) ∧
    ((replay history).externalAddresses.Pairwise (fun a b => compare a b = .lt) ∧
      ∀ metric, ⟨metric⟩ ∈ (replay history).externalAddresses ↔
        ∃ ns, (replay history).externalValues ns metric .everything ≠ []) ∧
    (replay history).counts =
      ((liveKeys Sample.custom? history).ncard, (liveKeys Sample.external? history).ncard) ∧
    ∀ now, ∃ swept removed, ((replay history).removeExpired now).value = (swept, removed) ∧
      swept.counts.1 + swept.counts.2 + removed =
        (replay history).counts.1 + (replay history).counts.2 ∧
      (∀ k e, swept.custom.get? k = some e ↔
        (replay history).custom.get? k = some e ∧ now.le e.expiry = true) ∧
      (∀ k e, swept.external.get? k = some e ↔
        (replay history).external.get? k = some e ∧ now.le e.expiry = true) ∧
      (swept.removeExpired now).value = (swept, 0) := by
  refine ⟨⟨SortedMap.pairwise_keys _, fun a => ?_⟩,
    ⟨SortedMap.pairwise_keys _, fun metric => mem_externalAddresses_iff_exists_values⟩,
    counts_replay, fun now => ⟨_, _, value_removeExpired _ now, counts_sweep _ now, ?_, ?_, ?_⟩⟩
  · rw [mem_customAddresses_replay_iff]
    simp only [has_replay_iff, address_ofValue_eq_iff, exists_and_right]
  · intro k e
    rw [sweep, SortedMap.get?_filter, Option.filter_eq_some_iff]
  · intro k e
    rw [sweep, SortedMap.get?_filter, Option.filter_eq_some_iff]
  · rw [value_removeExpired, sweep_sweep, Nat.sub_self]

end Store

end ScalingMetrics
