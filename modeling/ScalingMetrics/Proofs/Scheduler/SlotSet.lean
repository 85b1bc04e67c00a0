import Mathlib.Data.Finset.Card
import ScalingMetrics.Proofs.Scheduler.Sizes

/-!
# The table as a set of slots

Of the table only the set of slots with a poller matters: what the operations return and what is
measured can be told from it. Work on the table adds to the set and takes from it; pollers, the
reader and time leave it as it is.
-/

namespace ScalingMetrics

namespace SchedulerAction

variable {κ ρ : Type}

/-- The slots with a poller after an action, from those before. -/
def slotsAfter (slots : Finset (AutoscalerRef × MetricRef)) :
    SchedulerAction κ ρ → Finset (AutoscalerRef × MetricRef)
  | add resource metric _ => insert (resource, metric) slots
  | remove resource => slots.filter fun slot => slot.1 ≠ resource
  | retain resource keep => slots.filter fun slot => slot.1 = resource → slot.2 ∈ keep
  | _ => slots

/-- The slots with a poller after actions, from none before. -/
def slotsTaken (as : List (SchedulerAction κ ρ)) : Finset (AutoscalerRef × MetricRef) :=
  as.foldl slotsAfter ∅

end SchedulerAction

namespace Scheduler

variable {κ ρ : Type} {s t : Scheduler κ ρ} {a : SchedulerAction κ ρ}
  {as : List (SchedulerAction κ ρ)} {r : AutoscalerRef} {m : MetricRef}

/-- The slots that have a poller. -/
def slotSet (s : Scheduler κ ρ) : Finset (AutoscalerRef × MetricRef) := ⟨s.taken, s.nodup_taken⟩

theorem mem_slotSet_iff : (r, m) ∈ s.slotSet ↔ ∃ i, s.occupant? r m = some i :=
  mem_taken_iff.trans contains_eq_true_iff

theorem card_slotSet (s : Scheduler κ ρ) : s.slotSet.card = s.size := s.length_taken

theorem slotSet_eq_of_table (h : t.table = s.table) : t.slotSet = s.slotSet := by
  ext ⟨r, m⟩
  simp only [mem_slotSet_iff, occupant?, slots, h]

theorem slotSet_replace (s : Scheduler κ ρ) (r : AutoscalerRef) (m : MetricRef) (c : κ) :
    (s.replace r m c).slotSet = insert (r, m) s.slotSet := by
  ext ⟨r', m'⟩
  rw [Finset.mem_insert, mem_slotSet_iff, mem_slotSet_iff, occupant?_replace, Prod.mk.injEq]
  split
  · next h => simp [h]
  · next h => simp [h]

theorem slotSet_withdraw (s : Scheduler κ ρ) (r : AutoscalerRef) (keep : MetricRef → Bool) :
    (s.withdraw r keep).slotSet =
      s.slotSet.filter fun slot => slot.1 = r → keep slot.2 = true := by
  ext ⟨r', m⟩
  rw [Finset.mem_filter, mem_slotSet_iff, mem_slotSet_iff, occupant?_withdraw]
  split
  · next h => simp [h]
  · next h =>
      have kept : r' = r → keep m = true := by
        intro hr
        by_contra hm
        exact h ⟨hr, Bool.eq_false_iff.mpr hm⟩
      exact (and_iff_left kept).symm

/-- A step does to the slots what its action says. -/
theorem slotSet_step (h : Step s a t) : t.slotSet = a.slotsAfter s.slotSet := by
  cases h with
  | add r m c => exact slotSet_replace s r m c
  | remove r =>
      rw [slotSet_withdraw, SchedulerAction.slotsAfter]
      simp
  | retain r keep =>
      rw [slotSet_withdraw, SchedulerAction.slotsAfter]
      simp
  | _ => exact slotSet_eq_of_table rfl

theorem slotSet_reaches {n : Nat} (run : Traced.Reaches step? (create n) as t) :
    t.slotSet = SchedulerAction.slotsTaken as := by
  induction run with
  | refl => rfl
  | step _ h ih =>
      rw [slotSet_step (step_of_step? h), ih, SchedulerAction.slotsTaken,
        SchedulerAction.slotsTaken, List.foldl_append]
      rfl

/-! ### Counts -/

/-- The slots of an autoscaler are as many as its pollers in the table. -/
theorem card_slotSet_filter (s : Scheduler κ ρ) (r : AutoscalerRef) (p : MetricRef → Bool) :
    (s.slotSet.filter fun slot => slot.1 = r ∧ p slot.2 = true).card =
      ((s.slots r).filter fun metric _ => p metric).size := by
  have listed : (s.slotSet.filter fun slot => slot.1 = r ∧ p slot.2 = true) =
      (((s.slots r).filter fun metric _ => p metric).keys.map
        fun metric => (r, metric)).toFinset := by
    ext ⟨r', m⟩
    rw [Finset.mem_filter, mem_slotSet_iff, List.mem_toFinset, List.mem_map]
    simp only [SortedMap.mem_keys_iff, SortedMap.get?_filter, Option.filter_eq_some_iff,
      Prod.mk.injEq]
    constructor
    · rintro ⟨⟨i, ho⟩, rfl, hm⟩
      exact ⟨m, ⟨i, ho, hm⟩, rfl, rfl⟩
    · rintro ⟨_, ⟨i, ho, hm⟩, rfl, rfl⟩
      exact ⟨⟨i, ho⟩, rfl, hm⟩
  have distinct : (((s.slots r).filter fun metric _ => p metric).keys.map
      fun metric => (r, metric)).Nodup :=
    (SortedMap.nodup_keys _).map fun _ _ heq => (Prod.mk.inj heq).2
  rw [listed, List.toFinset_card_of_nodup distinct, List.length_map, SortedMap.keys,
    List.length_map, SortedMap.size]

theorem remove_count (s : Scheduler κ ρ) (r : AutoscalerRef) :
    (s.remove r).value.2 = (s.slotSet.filter fun slot => slot.1 = r).card := by
  have counted : (s.remove r).value.2 = (s.slots r).size := by
    unfold remove
    split
    · next h => simp [slots, h]
    · next row h => simp [slots, h]
  have whole : ((s.slots r).filter fun _ _ => true) = s.slots r :=
    SortedMap.ext (by simp)
  rw [counted, ← whole, ← card_slotSet_filter s r fun _ => true]
  simp

theorem retain_count (s : Scheduler κ ρ) (r : AutoscalerRef) (keep : List MetricRef) :
    (s.retain r keep).value.2 =
      (s.slotSet.filter fun slot => slot.1 = r ∧ slot.2 ∉ keep).card := by
  have counted : (s.retain r keep).value.2 =
      ((s.slots r).filter fun metric _ => !keep.contains metric).size := by
    unfold retain
    split
    · next h =>
        rw [slots, h]
        rfl
    · next row h =>
        rw [slots, h]
        simp only [Traced.value_bind]
        split <;> rfl
  rw [counted, ← card_slotSet_filter s r fun metric => !keep.contains metric]
  simp

/-- A slot that has a poller already loses it: its number is returned, and it is cancelled. -/
theorem add_returned (coherent : s.Coherent) (r : AutoscalerRef) (m : MetricRef) (c : κ) :
    ((s.add r m c).value.2.isSome = true ↔ (r, m) ∈ s.slotSet) ∧
      ∀ i, (s.add r m c).value.2 = some i → ∃ p, (s.add r m c).value.1.pollers[i]? = some p ∧
        p.resource = r ∧ p.metric = m ∧ p.cancelled = true := by
  rw [add_value]
  constructor
  · rw [mem_slotSet_iff, Option.isSome_iff_exists]
  · intro i ho
    change s.occupant? r m = some i at ho
    obtain ⟨p, hp, hr, hm, -⟩ := coherent.occupied r m i ho
    have old : i ≠ s.pollers.length := Nat.ne_of_lt (coherent.occupant_lt ho)
    refine ⟨p.cancelIf (s.occupant? r m == some i), ?_, hr, hm, ?_⟩
    · rw [getElem?_replace, if_neg old, hp, Option.map_some]
    · simp [Poller.cancelIf, ho]

theorem Populated.mem_resources_iff_slot (h : s.Populated) :
    r ∈ s.resources ↔ ∃ m, (r, m) ∈ s.slotSet :=
  h.mem_resources_iff.trans (exists_congr fun _ => mem_taken_iff.symm)

/-- A table answers as the set of its slots would. Adding a poller to a slot of the set returns the
one before it, cancelled; removing and retaining pollers returns how many slots are lost. Each
autoscaler with a slot is listed once, and the meter of running pollers shows the size of the set. -/
theorem table_refines_slots {n : Nat} {last : Traced (Scheduler κ ρ)}
    (run : (create n).run? as = some last) :
    (∀ r m, last.value.contains r m = true ↔ (r, m) ∈ SchedulerAction.slotsTaken as) ∧
      last.value.size = (SchedulerAction.slotsTaken as).card ∧
      (last.value.isEmpty = true ↔ SchedulerAction.slotsTaken as = ∅) ∧
      last.value.resources.Nodup ∧
      (∀ r, r ∈ last.value.resources ↔ ∃ m, (r, m) ∈ SchedulerAction.slotsTaken as) ∧
      (Meters.zero.recordAll last.measured).activeCollectors =
        (SchedulerAction.slotsTaken as).card ∧
      (∀ r m c, ((last.value.add r m c).value.2.isSome = true ↔
          (r, m) ∈ SchedulerAction.slotsTaken as) ∧
        ∀ i, (last.value.add r m c).value.2 = some i →
          ∃ p, (last.value.add r m c).value.1.pollers[i]? = some p ∧
            p.resource = r ∧ p.metric = m ∧ p.cancelled = true) ∧
      (∀ r, (last.value.remove r).value.2 =
        ((SchedulerAction.slotsTaken as).filter fun slot => slot.1 = r).card) ∧
      ∀ r keep, (last.value.retain r keep).value.2 =
        ((SchedulerAction.slotsTaken as).filter fun slot =>
          slot.1 = r ∧ slot.2 ∉ keep).card := by
  have reached : Traced.Reaches step? (create n) as last.value := Traced.reaches_of_run? run
  have populated := (populated_create n).reaches reached
  have coherent := (coherent_create n).reaches reached
  have sized := last.value.card_slotSet
  rw [← slotSet_reaches reached]
  refine ⟨?_, sized.symm, ?_, SortedMap.nodup_keys _, ?_, ?_, ?_, ?_, ?_⟩
  · intro r m
    exact mem_taken_iff.symm
  · rw [isEmpty, beq_iff_eq, ← sized, Finset.card_eq_zero]
  · intro r
    exact populated.mem_resources_iff_slot
  · rw [sized]
    exact gauges_run run Meters.zero rfl
  · exact add_returned coherent
  · exact remove_count last.value
  · exact retain_count last.value

/-- Of three slots one is left: one is not retained after its poller was replaced, and one is
removed. Removing it once more changes nothing. -/
def turnover : List (SchedulerAction Nat Nat) :=
  let rps : MetricRef := ⟨.pods, "rps", none⟩
  let lag : MetricRef := ⟨.external, "lag", none⟩
  [.add ⟨"shop", "web"⟩ rps 10, .add ⟨"shop", "web"⟩ lag 11, .add ⟨"shop", "api"⟩ rps 12,
    .add ⟨"shop", "web"⟩ rps 13, .retain ⟨"shop", "web"⟩ [lag], .remove ⟨"shop", "api"⟩,
    .remove ⟨"shop", "api"⟩]

theorem table_refines_slots_turnover :
    ∃ last, (create 1).run? turnover = some last ∧
      SchedulerAction.slotsTaken turnover = {(⟨"shop", "web"⟩, ⟨.external, "lag", none⟩)} ∧
      last.value.size = 1 ∧ (Meters.zero.recordAll last.measured).activeCollectors = 1 ∧
      last.value.resources.Nodup ∧
      ∀ r, (last.value.remove r).value.2 =
        ((SchedulerAction.slotsTaken turnover).filter fun slot => slot.1 = r).card := by
  obtain ⟨last, run⟩ : ∃ last, (create 1).run? turnover = some last := ⟨_, rfl⟩
  have left : SchedulerAction.slotsTaken turnover =
      {(⟨"shop", "web"⟩, ⟨.external, "lag", none⟩)} := by decide
  obtain ⟨-, hsize, -, listed, -, shown, -, removed, -⟩ := table_refines_slots run
  rw [left, Finset.card_singleton] at hsize shown
  exact ⟨last, run, left, hsize, shown, listed, removed⟩

end Scheduler

end ScalingMetrics
