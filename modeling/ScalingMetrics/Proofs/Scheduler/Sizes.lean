import Mathlib.Data.List.Nodup
import ScalingMetrics.Proofs.Scheduler.Rows
import ScalingMetrics.Telemetry.Meters

/-!
# The number of slots

No row of the table is ever left without pollers, so the autoscalers in the table are those that own
a slot. The size of a table depends on its slots alone, and after each operation the meter of
running pollers shows it.
-/

namespace ScalingMetrics

namespace Scheduler

variable {κ ρ : Type} {s t : Scheduler κ ρ} {a : SchedulerAction κ ρ}
  {as : List (SchedulerAction κ ρ)} {r : AutoscalerRef} {m : MetricRef}

/-! ### Sizes -/

/-- The slots that have a poller. -/
def taken (s : Scheduler κ ρ) : List (AutoscalerRef × MetricRef) :=
  s.table.entries.flatMap fun row => row.2.keys.map fun metric => (row.1, metric)

theorem contains_iff_row :
    s.contains r m = true ↔ ∃ row, s.table.get? r = some row ∧ m ∈ row.keys := by
  rw [contains, SortedMap.contains_eq_true_iff, slots]
  cases hrow : s.table.get? r with
  | none => simp
  | some row => simp [SortedMap.mem_keys_iff]

theorem mem_taken_iff : (r, m) ∈ s.taken ↔ s.contains r m = true := by
  rw [contains_iff_row, taken, List.mem_flatMap]
  constructor
  · rintro ⟨⟨r', row⟩, hentry, hslot⟩
    obtain ⟨m', hm', heq⟩ := List.mem_map.mp hslot
    obtain ⟨rfl, rfl⟩ := Prod.mk.inj heq
    exact ⟨row, SortedMap.get?_eq_some_iff.mpr hentry, hm'⟩
  · rintro ⟨row, hrow, hm⟩
    exact ⟨(r, row), SortedMap.get?_eq_some_iff.mp hrow, List.mem_map.mpr ⟨m, hm, rfl⟩⟩

theorem nodup_taken (s : Scheduler κ ρ) : s.taken.Nodup := by
  rw [taken, List.nodup_flatMap]
  constructor
  · intro row _
    refine (SortedMap.nodup_keys row.2).map ?_
    exact fun _ _ heq => (Prod.mk.inj heq).2
  · refine s.table.ascending.imp ?_
    intro row row' hlt slot hslot hslot'
    -- Two rows with a slot in common would have the same key.
    obtain ⟨m, -, rfl⟩ := List.mem_map.mp hslot
    obtain ⟨m', -, heq⟩ := List.mem_map.mp hslot'
    have hkey : row'.1 = row.1 := (Prod.mk.inj heq).1
    exact SortedMap.not_lt_self (hkey ▸ hlt)

theorem length_taken (s : Scheduler κ ρ) : s.taken.length = s.size := by
  rw [taken, size, SortedMap.values]
  induction s.table.entries with
  | nil => rfl
  | cons row rest ih =>
      rw [List.flatMap_cons, List.length_append, List.length_map, ih]
      simp [SortedMap.keys, SortedMap.size]

/-- Tables with the same slots have the same size. -/
theorem size_congr (h : ∀ r m, t.contains r m = s.contains r m) : t.size = s.size := by
  have same : t.taken.Perm s.taken := by
    rw [List.perm_ext_iff_of_nodup t.nodup_taken s.nodup_taken]
    rintro ⟨r, m⟩
    rw [mem_taken_iff, mem_taken_iff, h]
  calc
    t.size = t.taken.length := t.length_taken.symm
    _ = s.taken.length := same.length_eq
    _ = s.size := s.length_taken

theorem size_eq_of_table (h : t.table = s.table) : t.size = s.size := by
  rw [size, size, h]

/-! ### Rows -/

/-- Every row of the table has a poller. -/
def Populated (s : Scheduler κ ρ) : Prop :=
  ∀ r row, s.table.get? r = some row → row.isEmpty = false

theorem populated_create (n : Nat) : Populated (create n : Scheduler κ ρ) := by
  simp [Populated, create]

theorem isEmpty_insert (row : SortedMap MetricRef Nat) (m : MetricRef) (i : Nat) :
    (row.insert m i).isEmpty = false := by
  have hm : (m, i) ∈ (row.insert m i).entries := by
    rw [← SortedMap.get?_eq_some_iff, SortedMap.get?_insert, if_pos rfl]
  rw [SortedMap.isEmpty, List.isEmpty_eq_false_iff]
  exact List.ne_nil_of_mem hm

theorem Populated.replace (h : s.Populated) (r : AutoscalerRef) (m : MetricRef) (c : κ) :
    (s.replace r m c).Populated := by
  intro r' row hrow
  change (s.table.insert r _).get? r' = some row at hrow
  rw [SortedMap.get?_insert] at hrow
  split at hrow
  · obtain rfl := Option.some.inj hrow
    exact isEmpty_insert _ _ _
  · exact h r' row hrow

theorem Populated.withdraw (h : s.Populated) (r : AutoscalerRef) (keep : MetricRef → Bool) :
    (s.withdraw r keep).Populated := by
  intro r' row hrow
  change (s.setRow r _).get? r' = some row at hrow
  rw [setRow] at hrow
  split at hrow
  · rw [SortedMap.get?_erase] at hrow
    split at hrow
    · cases hrow
    · exact h r' row hrow
  · next hkept =>
      rw [SortedMap.get?_insert] at hrow
      split at hrow
      · obtain rfl := Option.some.inj hrow
        exact Bool.eq_false_iff.mpr hkept
      · exact h r' row hrow

theorem Populated.step (h : s.Populated) (hstep : Step s a t) : t.Populated := by
  cases hstep with
  | add r m c => exact h.replace r m c
  | remove r => exact h.withdraw r _
  | retain r keep => exact h.withdraw r _
  | _ => exact h

theorem Populated.reaches (h : s.Populated) (run : Traced.Reaches step? s as t) :
    t.Populated := by
  induction run with
  | refl => exact h
  | step _ hstep ih => exact ih.step (step_of_step? hstep)

/-- The autoscalers in the table are those that own a slot. -/
theorem Populated.mem_resources_iff (h : s.Populated) :
    r ∈ s.resources ↔ ∃ m, s.contains r m = true := by
  rw [resources, SortedMap.mem_keys_iff]
  constructor
  · rintro ⟨row, hrow⟩
    obtain ⟨⟨m, i⟩, hentry⟩ :=
      List.exists_mem_of_ne_nil _ (List.isEmpty_eq_false_iff.mp (h r row hrow))
    exact ⟨m, contains_iff_row.mpr ⟨row, hrow, List.mem_map_of_mem hentry⟩⟩
  · rintro ⟨m, hm⟩
    obtain ⟨row, hrow, -⟩ := contains_iff_row.mp hm
    exact ⟨row, hrow⟩

end Scheduler

/-! ### Measurements -/

/-- Measurements that lead the meter of running pollers from one number to another. -/
def Gauges (measured : List Measurement) (n n' : Nat) : Prop :=
  ∀ meters : Meters, meters.activeCollectors = n →
    (meters.recordAll measured).activeCollectors = n'

namespace Gauges

variable {measured measured' : List Measurement} {n n' n'' : Nat}

theorem nil (n : Nat) : Gauges [] n n := fun _ h => h

theorem append (first : Gauges measured n n') (second : Gauges measured' n' n'') :
    Gauges (measured ++ measured') n n'' := by
  intro meters h
  rw [Meters.recordAll_append]
  exact second _ (first meters h)

/-- The last number measured is the one shown. -/
theorem single (n n' : Nat) : Gauges [.activeCollectors n'] n n' := fun _ _ => rfl

/-- Other measurements do not touch the meter. -/
theorem others (h : ∀ n, Measurement.activeCollectors n ∉ measured) : Gauges measured n n := by
  induction measured with
  | nil => exact nil n
  | cons x rest ih =>
      have hrest := ih fun k hk => h k (List.mem_cons_of_mem x hk)
      intro meters hmeters
      apply hrest
      cases x with
      | activeCollectors k => exact absurd List.mem_cons_self (h k)
      | _ => exact hmeters

end Gauges

/-- Measurements of the number of running pollers alone, which lead its meter from one number to
another. -/
structure Gauged (measured : List Measurement) (n n' : Nat) : Prop where
  gauges : Gauges measured n n'
  alone : ∀ x ∈ measured, ∃ k, x = .activeCollectors k

namespace Gauged

variable {measured measured' : List Measurement} {n n' n'' : Nat}

theorem nil (n : Nat) : Gauged [] n n := ⟨Gauges.nil n, by simp⟩

theorem append (first : Gauged measured n n') (second : Gauged measured' n' n'') :
    Gauged (measured ++ measured') n n'' where
  gauges := first.gauges.append second.gauges
  alone x hx := (List.mem_append.mp hx).elim (first.alone x) (second.alone x)

theorem single (n n' : Nat) : Gauged [.activeCollectors n'] n n' :=
  ⟨Gauges.single n n', by simp⟩

end Gauged

namespace Scheduler

variable {κ ρ : Type} {s t : Scheduler κ ρ} {a : SchedulerAction κ ρ}
  {as : List (SchedulerAction κ ρ)}

theorem gauged_add (s : Scheduler κ ρ) (r : AutoscalerRef) (m : MetricRef) (c : κ) :
    Gauged (s.add r m c).measured s.size (s.add r m c).value.1.size := by
  unfold add
  simp only
  split
  · exact Gauged.single s.size _
  · exact Gauged.single s.size _

theorem gauged_remove (s : Scheduler κ ρ) (r : AutoscalerRef) :
    Gauged (s.remove r).measured s.size (s.remove r).value.1.size := by
  unfold remove
  split
  · exact Gauged.nil s.size
  · exact Gauged.single s.size _

/-- A table that gives up no poller keeps its size. -/
theorem size_withdraw_of_spared {r : AutoscalerRef} {keep : MetricRef → Bool}
    (h : ∀ m i, s.occupant? r m = some i → keep m = true) : (s.withdraw r keep).size = s.size := by
  apply size_congr
  intro r' m
  rw [Bool.eq_iff_iff, contains_eq_true_iff, contains_eq_true_iff, occupant?_withdraw]
  split
  · next hdropped =>
      obtain ⟨rfl, hm⟩ := hdropped
      constructor
      · rintro ⟨i, ho⟩
        cases ho
      · rintro ⟨i, ho⟩
        exact absurd (h m i ho) (Bool.eq_false_iff.mp hm)
  · exact Iff.rfl

/-- Nothing is measured if no poller is given up, and the size is then the same. -/
theorem gauged_retain (s : Scheduler κ ρ) (r : AutoscalerRef) (keep : List MetricRef) :
    Gauged (s.retain r keep).measured s.size (s.retain r keep).value.1.size := by
  cases hrow : s.table.get? r with
  | none =>
      rw [retain, hrow]
      exact Gauged.nil s.size
  | some row =>
      cases hstale : (row.filter fun metric _ => !keep.contains metric).isEmpty with
      | false =>
          simp only [retain, hrow, hstale]
          exact Gauged.single s.size _
      | true =>
          have hspared : ∀ m i, s.occupant? r m = some i → keep.contains m = true := by
            intro m i ho
            by_contra hm
            have hgone := mem_withdrawn_iff.mpr ⟨m, ho, Bool.eq_false_iff.mpr hm⟩
            rw [slots, hrow, Option.getD_some, SortedMap.values,
              List.isEmpty_iff.mp hstale] at hgone
            cases hgone
          have hsize : (s.retain r keep).value.1.size = s.size := by
            rw [retain_value]
            exact size_withdraw_of_spared hspared
          have hnone : (s.retain r keep).measured = [] := by
            simp only [retain, hrow, hstale]
            rfl
          rw [hsize, hnone]
          exact Gauged.nil s.size

theorem measured_finishPoller (s : Scheduler κ ρ) (i : Nat) (p : Poller κ ρ) :
    (s.finishPoller i p).measured = [] := rfl

/-- Pollers, readers and time measure nothing here. -/
theorem measured_of_step? {next : Traced (Scheduler κ ρ)} (h : s.step? a = some next)
    (ha : a.owner? = none) : next.measured = [] := by
  have pure_of_map : ∀ {o : Option (Scheduler κ ρ)}, o.map pure = some next →
      next.measured = [] := by
    intro o ho
    obtain ⟨t, -, rfl⟩ := Option.map_eq_some_iff.mp ho
    rfl
  cases a with
  | add r m c => cases ha
  | remove r => cases ha
  | retain r keep => cases ha
  | receive =>
      obtain ⟨x, -, rfl⟩ := Option.map_eq_some_iff.mp h
      rfl
  | start i =>
      simp only [step?, start?] at h
      grind [Traced.measured_bind, Traced.measured_lines, Traced.measured_pure]
  | finish i result =>
      simp only [step?, finish?] at h
      grind [measured_finishPoller, Traced.measured_pure]
  | look i => exact pure_of_map h
  | accept i interval => exact pure_of_map h
  | stop i =>
      simp only [step?, stop?] at h
      grind [measured_finishPoller, Traced.measured_bind, Traced.measured_lines]
  | wake i => exact pure_of_map h
  | _ =>
      obtain rfl := Option.some.inj h
      rfl

/-- After every action the meter shows the number of slots, if it did before. -/
theorem gauges_step {next : Traced (Scheduler κ ρ)} (h : s.step? a = some next) :
    Gauges next.measured s.size next.value.size := by
  cases a with
  | add r m c =>
      obtain rfl := Option.some.inj h
      rw [Traced.measured_map]
      exact (gauged_add s r m c).gauges
  | remove r =>
      obtain rfl := Option.some.inj h
      rw [Traced.measured_map]
      exact (gauged_remove s r).gauges
  | retain r keep =>
      obtain rfl := Option.some.inj h
      rw [Traced.measured_map]
      exact (gauged_retain s r keep).gauges
  | _ =>
      have hsize : next.value.size = s.size :=
        size_eq_of_table (table_step (step_of_step? h) rfl)
      rw [hsize, measured_of_step? h rfl]
      exact Gauges.nil s.size

theorem gauges_run {last : Traced (Scheduler κ ρ)} (h : s.run? as = some last) :
    Gauges last.measured s.size last.value.size := by
  induction as generalizing s last with
  | nil =>
      obtain rfl := Option.some.inj h
      exact Gauges.nil _
  | cons a rest ih =>
      obtain ⟨next, tail, hnext, htail, rfl⟩ := Traced.run?_cons_eq_some h
      exact (gauges_step hnext).append (ih htail)

end Scheduler

end ScalingMetrics
