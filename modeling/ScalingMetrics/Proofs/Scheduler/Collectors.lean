import ScalingMetrics.Proofs.Scheduler.Slots

/-!
# The collectors of slots

The operations on the table, as seen through the collector that each slot polls.
-/

namespace ScalingMetrics

namespace Scheduler

variable {κ ρ : Type} {s t : Scheduler κ ρ}

/-- The collector that the poller of a slot polls. -/
def collector? (s : Scheduler κ ρ) (resource : AutoscalerRef) (metric : MetricRef) : Option κ :=
  (s.poller? resource metric).map (·.collector)

private theorem collector?_eq (s : Scheduler κ ρ) (r : AutoscalerRef) (m : MetricRef) :
    s.collector? r m = (s.occupant? r m).bind fun i =>
      ((s.pollers.map Poller.assignment)[i]?).map (·.2.2) := by
  rw [collector?, poller?, Option.map_bind]
  congr 1
  funext i
  rw [List.getElem?_map, Option.map_map]
  rfl

/-- The collectors of slots depend on the table and on what the pollers were added for. -/
theorem collector?_congr (htable : t.table = s.table)
    (hpollers : t.pollers.map Poller.assignment = s.pollers.map Poller.assignment)
    (r : AutoscalerRef) (m : MetricRef) : t.collector? r m = s.collector? r m := by
  have hocc : t.occupant? r m = s.occupant? r m := by
    simp only [occupant?, slots, htable]
  rw [collector?_eq, collector?_eq, hocc, hpollers]

theorem Coherent.contains_eq_isSome (h : s.Coherent) (r : AutoscalerRef) (m : MetricRef) :
    s.contains r m = (s.collector? r m).isSome := by
  rw [Bool.eq_iff_iff, contains_eq_true_iff, collector?, Option.isSome_map,
    Option.isSome_iff_exists]
  constructor
  · rintro ⟨i, ho⟩
    obtain ⟨p, hp, -⟩ := h.occupied r m i ho
    exact ⟨p, poller?_eq_some_iff.mpr ⟨i, ho, hp⟩⟩
  · rintro ⟨p, hp⟩
    obtain ⟨i, ho, -⟩ := poller?_eq_some_iff.mp hp
    exact ⟨i, ho⟩

/-- The poller of a slot is not cancelled before the root, and ends only for want of a reader. -/
theorem Coherent.live_of_poller? (h : s.Coherent) {r : AutoscalerRef} {m : MetricRef}
    {p : Poller κ ρ} (hp : s.poller? r m = some p) (hroot : s.rootCancelled = false) :
    p.cancelled = false ∧ (s.isOpen = true → p.phase ≠ .ended) := by
  obtain ⟨i, ho, hi⟩ := poller?_eq_some_iff.mp hp
  obtain ⟨q, hq, -, -, hc⟩ := h.occupied r m i ho
  obtain rfl : p = q := Option.some.inj (hi.symm.trans hq)
  have live : p.cancelled = false := hc.trans hroot
  refine ⟨live, ?_⟩
  intro heard hended
  rcases h.ended i p hi hended with hcancelled | hclosed
  · exact Bool.false_ne_true (live.symm.trans hcancelled)
  · exact Bool.false_ne_true (hclosed.symm.trans heard)

theorem Coherent.add_value (h : s.Coherent) (r : AutoscalerRef) (m : MetricRef) (c : κ) :
    (s.add r m c).value.1.Coherent := by
  rw [Scheduler.add_value]
  exact h.add r m c

/-- An added poller polls its collector, and no other slot notices. -/
theorem Coherent.collector?_add (h : s.Coherent) (r r' : AutoscalerRef) (m m' : MetricRef)
    (c : κ) : (s.add r m c).value.1.collector? r' m' =
      if r' = r ∧ m' = m then some c else s.collector? r' m' := by
  have hadded : (s.add r m c).value.1.pollers.map Poller.assignment =
      s.pollers.map Poller.assignment ++ [(r, m, c)] := by
    rw [Scheduler.add_value]
    exact assignments_step (Step.add s r m c)
  have hocc : (s.add r m c).value.1.occupant? r' m' =
      if r' = r ∧ m' = m then some s.pollers.length else s.occupant? r' m' := by
    rw [Scheduler.add_value, occupant?_replace]
  rw [collector?_eq, hocc, hadded]
  split
  · rw [Option.bind_some, List.getElem?_append_right (by simp)]
    simp
  · rw [collector?_eq]
    cases ho : s.occupant? r' m' with
    | none => rfl
    | some i =>
        have hi : i < (s.pollers.map Poller.assignment).length := by
          rw [List.length_map]
          exact h.occupant_lt ho
        rw [Option.bind_some, Option.bind_some, List.getElem?_append_left hi]

theorem collector?_withdraw (s : Scheduler κ ρ) (r r' : AutoscalerRef) (m : MetricRef)
    (keep : MetricRef → Bool) : (s.withdraw r keep).collector? r' m =
      if r' = r ∧ keep m = false then none else s.collector? r' m := by
  have hassigned : (s.withdraw r keep).pollers.map Poller.assignment =
      s.pollers.map Poller.assignment := assignments_cancel s _
  rw [collector?_eq, occupant?_withdraw, hassigned, collector?_eq]
  split <;> rfl

/-- Actions other than those on the table leave the collectors of slots alone. -/
theorem collector?_step {a : SchedulerAction κ ρ} (h : Step s a t)
    (hadd : ∀ r m c, a ≠ .add r m c) (hremove : ∀ r, a ≠ .remove r)
    (hretain : ∀ r keep, a ≠ .retain r keep) (r : AutoscalerRef) (m : MetricRef) :
    t.collector? r m = s.collector? r m := by
  have htable : t.table = s.table := by
    cases h with
    | add r m c => exact absurd rfl (hadd r m c)
    | remove r => exact absurd rfl (hremove r)
    | retain r keep => exact absurd rfl (hretain r keep)
    | _ => rfl
  have hadded : a.added? = none := by
    cases a with
    | add r m c => exact absurd rfl (hadd r m c)
    | _ => rfl
  have hassigned := assignments_step h
  rw [hadded, Option.toList_none, List.append_nil] at hassigned
  exact collector?_congr htable hassigned r m

/-- An autoscaler that loses all its pollers leaves the table. -/
theorem mem_resources_withdraw {r r' : AutoscalerRef} :
    r' ∈ (s.withdraw r fun _ => false).resources ↔ r' ∈ s.resources ∧ r' ≠ r := by
  have htable : (s.withdraw r fun _ => false).table = s.table.erase r := by
    have hrow : ((s.slots r).filter fun _ _ => false) = ∅ := SortedMap.ext (by simp)
    rw [withdraw, hrow]
    rfl
  rw [resources, htable, resources, SortedMap.mem_keys_iff, SortedMap.mem_keys_iff]
  simp only [SortedMap.get?_erase]
  by_cases hr : r' = r
  · simp [hr]
  · simp [hr]

end Scheduler

end ScalingMetrics
