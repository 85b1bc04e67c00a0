import Mathlib.Data.List.Basic
import ScalingMetrics.Proofs.Telemetry.Reach
import ScalingMetrics.Scheduler.Step

/-!
# What a step of a scheduler does

Each action that is possible has one successor, which the relation `Step` describes with the
conditions under which the action is possible. The table is read through `occupant?`, the number of
the poller in a slot.
-/

namespace ScalingMetrics

/-- The poller, cancelled on a condition. -/
def Poller.cancelIf {κ ρ : Type} (p : Poller κ ρ) (condition : Bool) : Poller κ ρ :=
  { p with cancelled := p.cancelled || condition }

/-- Whether a poller ends at the point where it stands. It notices that it is cancelled where it
waits, and that its results have no reader where it sends. -/
def Poller.Leaves {κ ρ : Type} (p : Poller κ ρ) (isOpen : Bool) : Prop :=
  match p.phase with
  | .offering _ => p.cancelled = true
  | .sending _ => isOpen = false
  | .sleeping _ => p.cancelled = true
  | _ => False

theorem Poller.Leaves.reason {κ ρ : Type} {p : Poller κ ρ} {isOpen : Bool} (h : p.Leaves isOpen) :
    p.cancelled = true ∨ isOpen = false := by
  unfold Leaves at h
  split at h
  · exact .inl h
  · exact .inr h
  · exact .inl h
  · cases h

namespace Scheduler

variable {κ ρ : Type}

/-! ### Slots -/

/-- The number of the poller in a slot. -/
def occupant? (s : Scheduler κ ρ) (resource : AutoscalerRef) (metric : MetricRef) : Option Nat :=
  (s.slots resource).get? metric

/-- The poller in a slot. -/
def poller? (s : Scheduler κ ρ) (resource : AutoscalerRef) (metric : MetricRef) :
    Option (Poller κ ρ) :=
  (s.occupant? resource metric).bind (s.pollers[·]?)

/-- Puts a poller into a slot and cancels the one before it. -/
def replace (s : Scheduler κ ρ) (resource : AutoscalerRef) (metric : MetricRef) (collector : κ) :
    Scheduler κ ρ :=
  (s.cancel (s.occupant? resource metric).toList).enter resource metric collector

/-- Takes the pollers of an autoscaler for metrics that are not kept out of the table and cancels
them. -/
def withdraw (s : Scheduler κ ρ) (resource : AutoscalerRef) (keep : MetricRef → Bool) :
    Scheduler κ ρ :=
  { s.cancel ((s.slots resource).filter fun metric _ => !keep metric).values with
    table := s.setRow resource ((s.slots resource).filter fun metric _ => keep metric) }

@[simp] theorem occupant?_create (n : Nat) (r : AutoscalerRef) (m : MetricRef) :
    (create n : Scheduler κ ρ).occupant? r m = none := rfl

theorem contains_eq_true_iff {s : Scheduler κ ρ} {r : AutoscalerRef} {m : MetricRef} :
    s.contains r m = true ↔ ∃ i, s.occupant? r m = some i :=
  SortedMap.contains_eq_true_iff

theorem poller?_eq_some_iff {s : Scheduler κ ρ} {r : AutoscalerRef} {m : MetricRef}
    {p : Poller κ ρ} :
    s.poller? r m = some p ↔ ∃ i, s.occupant? r m = some i ∧ s.pollers[i]? = some p := by
  simp only [poller?, Option.bind_eq_some_iff]

theorem slots_setRow (s : Scheduler κ ρ) (r r' : AutoscalerRef) (row : SortedMap MetricRef Nat) :
    ((s.setRow r row).get? r').getD ∅ = if r' = r then row else s.slots r' := by
  by_cases hr : r' = r
  · by_cases hrow : row.isEmpty = true
    · have hempty : row = ∅ := SortedMap.ext (List.isEmpty_iff.mp hrow)
      simp [setRow, hr, SortedMap.get?_erase, hempty]
    · simp [setRow, hr, hrow, SortedMap.get?_insert]
  · by_cases hrow : row.isEmpty = true
    · simp [setRow, hr, hrow, SortedMap.get?_erase, slots]
    · simp [setRow, hr, hrow, SortedMap.get?_insert, slots]

theorem slots_enter (s : Scheduler κ ρ) (r r' : AutoscalerRef) (m : MetricRef) (c : κ) :
    (s.enter r m c).slots r' =
      if r' = r then (s.slots r).insert m s.pollers.length else s.slots r' := by
  by_cases hr : r' = r
  · simp [enter, slots, SortedMap.get?_insert, hr]
  · simp [enter, slots, SortedMap.get?_insert, hr]

theorem occupant?_enter (s : Scheduler κ ρ) (r r' : AutoscalerRef) (m m' : MetricRef) (c : κ) :
    (s.enter r m c).occupant? r' m' =
      if r' = r ∧ m' = m then some s.pollers.length else s.occupant? r' m' := by
  rw [occupant?, slots_enter]
  by_cases hr : r' = r
  · simp [hr, SortedMap.get?_insert, occupant?]
  · simp [hr, occupant?]

theorem slots_withdraw (s : Scheduler κ ρ) (r r' : AutoscalerRef) (keep : MetricRef → Bool) :
    (s.withdraw r keep).slots r' =
      if r' = r then (s.slots r).filter fun metric _ => keep metric else s.slots r' :=
  slots_setRow s r r' _

theorem occupant?_withdraw (s : Scheduler κ ρ) (r r' : AutoscalerRef) (m : MetricRef)
    (keep : MetricRef → Bool) :
    (s.withdraw r keep).occupant? r' m =
      if r' = r ∧ keep m = false then none else s.occupant? r' m := by
  rw [occupant?, slots_withdraw]
  by_cases hr : r' = r
  · cases hk : keep m with
    | false => simp [hr, hk, SortedMap.get?_filter]
    | true =>
        cases ho : (s.slots r).get? m <;> simp [hr, hk, ho, SortedMap.get?_filter, occupant?]
  · simp [hr, occupant?]

/-! ### Pollers -/

/-- The pollers after one of them is replaced. -/
theorem getElem?_set_iff {l : List (Poller κ ρ)} {i j : Nat} {p p' q : Poller κ ρ}
    (hp : l[i]? = some p) :
    (l.set i p')[j]? = some q ↔ j = i ∧ p' = q ∨ j ≠ i ∧ l[j]? = some q := by
  have hi : i < l.length := (List.getElem?_eq_some_iff.mp hp).1
  by_cases hj : j = i
  · subst hj
    simp [List.getElem?_set_self hi]
  · simp [List.getElem?_set_ne (Ne.symm hj), hj]

theorem getElem?_cancel (s : Scheduler κ ρ) (numbers : List Nat) (i : Nat) :
    (s.cancel numbers).pollers[i]? =
      s.pollers[i]?.map fun p => p.cancelIf (numbers.contains i) := by
  rw [cancel, List.getElem?_mapIdx]
  congr 1
  funext p
  cases numbers.contains i <;> simp [Poller.cancelIf]

theorem getElem?_enter (s : Scheduler κ ρ) (r : AutoscalerRef) (m : MetricRef) (c : κ) (i : Nat) :
    (s.enter r m c).pollers[i]? =
      if i = s.pollers.length then some ⟨r, m, c, s.rootCancelled, 0, .starting, s.turn⟩
      else s.pollers[i]? := by
  rw [enter, List.getElem?_append]
  by_cases hlt : i < s.pollers.length
  · have hne : i ≠ s.pollers.length := by omega
    simp [hlt, hne]
  · by_cases heq : i = s.pollers.length
    · simp [heq]
    · have hgt : i - s.pollers.length ≠ 0 := by omega
      simp [hlt, heq, hgt]

@[simp] theorem length_pollers_cancel (s : Scheduler κ ρ) (numbers : List Nat) :
    (s.cancel numbers).pollers.length = s.pollers.length := by
  simp [cancel]

theorem cancel_nil (s : Scheduler κ ρ) : s.cancel [] = s := by
  have hp : (s.pollers.mapIdx fun i p =>
      if ([] : List Nat).contains i then { p with cancelled := true } else p) = s.pollers := by
    apply List.ext_getElem?
    intro i
    simp [List.getElem?_mapIdx]
  rw [cancel, hp]

theorem occupant?_replace (s : Scheduler κ ρ) (r r' : AutoscalerRef) (m m' : MetricRef) (c : κ) :
    (s.replace r m c).occupant? r' m' =
      if r' = r ∧ m' = m then some s.pollers.length else s.occupant? r' m' := by
  rw [replace, occupant?_enter, length_pollers_cancel]
  rfl

theorem getElem?_replace (s : Scheduler κ ρ) (r : AutoscalerRef) (m : MetricRef) (c : κ) (i : Nat) :
    (s.replace r m c).pollers[i]? =
      if i = s.pollers.length then some ⟨r, m, c, s.rootCancelled, 0, .starting, s.turn⟩
      else s.pollers[i]?.map fun p => p.cancelIf (s.occupant? r m == some i) := by
  have hcancelled : (s.occupant? r m).toList.contains i = (s.occupant? r m == some i) := by
    rw [Bool.eq_iff_iff, List.contains_iff_mem, Option.mem_toList, beq_iff_eq]
  rw [replace, getElem?_enter, length_pollers_cancel, getElem?_cancel, hcancelled]
  rfl

theorem length_pollers_replace (s : Scheduler κ ρ) (r : AutoscalerRef) (m : MetricRef) (c : κ) :
    (s.replace r m c).pollers.length = s.pollers.length + 1 := by
  rw [replace, enter, List.length_append, length_pollers_cancel, List.length_singleton]

theorem mem_withdrawn_iff {s : Scheduler κ ρ} {r : AutoscalerRef} {keep : MetricRef → Bool}
    {i : Nat} :
    i ∈ ((s.slots r).filter fun metric _ => !keep metric).values ↔
      ∃ m, s.occupant? r m = some i ∧ keep m = false := by
  simp only [SortedMap.mem_values_iff, SortedMap.get?_filter, Option.filter_eq_some_iff,
    Bool.not_eq_true', occupant?]

/-! ### Operations -/

theorem add_value (s : Scheduler κ ρ) (r : AutoscalerRef) (m : MetricRef) (c : κ) :
    (s.add r m c).value = (s.replace r m c, s.occupant? r m) := by
  unfold add
  simp only
  split <;> rfl

theorem withdraw_of_none {s : Scheduler κ ρ} {r : AutoscalerRef} (h : s.table.get? r = none)
    (keep : MetricRef → Bool) : s.withdraw r keep = s := by
  have hs : s.slots r = ∅ := by simp [slots, h]
  have hv : ((s.slots r).filter fun metric _ => !keep metric).values = [] := by rw [hs]; rfl
  have hrow : s.setRow r ((s.slots r).filter fun metric _ => keep metric) = s.table.erase r := by
    rw [hs]; rfl
  have ht : s.table.erase r = s.table := by
    apply SortedMap.ext_get?
    intro r'
    rw [SortedMap.get?_erase]
    split
    · next hr => rw [hr, h]
    · rfl
  rw [withdraw, hv, hrow, ht, cancel_nil]

theorem remove_value (s : Scheduler κ ρ) (r : AutoscalerRef) :
    (s.remove r).value.1 = s.withdraw r fun _ => false := by
  cases h : s.table.get? r with
  | none => rw [withdraw_of_none h, remove, h]; rfl
  | some row =>
      have hs : s.slots r = row := by simp [slots, h]
      have hall : (row.filter fun _ _ => !false) = row := SortedMap.ext (by simp)
      have hnone : (row.filter fun _ _ => false) = ∅ := SortedMap.ext (by simp)
      have hrow : s.setRow r ∅ = s.table.erase r := rfl
      rw [withdraw, hs, hall, hnone, hrow, remove, h]
      rfl

theorem retain_value (s : Scheduler κ ρ) (r : AutoscalerRef) (keep : List MetricRef) :
    (s.retain r keep).value.1 = s.withdraw r keep.contains := by
  cases h : s.table.get? r with
  | none => rw [withdraw_of_none h, retain, h]; rfl
  | some row =>
      have hs : s.slots r = row := by simp [slots, h]
      rw [withdraw, hs, retain, h]
      simp only [Traced.value_bind]
      split <;> rfl

theorem step?_receive {s t : Scheduler κ ρ} {d : Delivery ρ} (h : s.receive? = some (d, t)) :
    s.step? .receive = some (pure t) := by
  rw [step?, h]
  rfl

/-! ### Steps -/

/-- The actions that are possible, with the state after each. -/
inductive Step : Scheduler κ ρ → SchedulerAction κ ρ → Scheduler κ ρ → Prop
  | add (s r m c) : Step s (.add r m c) (s.replace r m c)
  | remove (s r) : Step s (.remove r) (s.withdraw r fun _ => false)
  | retain (s r) (keep : List MetricRef) : Step s (.retain r keep) (s.withdraw r keep.contains)
  | cancelRoot (s) : Step s .cancelRoot s.cancelRoot
  | close (s) : Step s .close s.close
  | receive {s d rest} (hq : s.queue = d :: rest) (ho : s.isOpen = true) :
      Step s .receive { s with queue := rest }
  | start {s i p} (hp : s.pollers[i]? = some p) (h : p.phase = .starting) :
      Step s (.start i) (s.beginPoll i p)
  | discard {s i p since result} (hp : s.pollers[i]? = some p) (h : p.phase = .polling since)
      (hc : p.cancelled = true) : Step s (.finish i result) (s.finishPoller i p).value
  | offer {s i p since result} (hp : s.pollers[i]? = some p) (h : p.phase = .polling since)
      (hc : p.cancelled = false) :
      Step s (.finish i result)
        { s.enterPhase i p (.offering result) with waiting := s.waiting ++ [i] }
  | look {s i p result} (hp : s.pollers[i]? = some p) (h : p.phase = .offering result)
      (hc : p.cancelled = false) : Step s (.look i) (s.enterPhase i p (.sending result))
  | accept {s i p interval result} (hp : s.pollers[i]? = some p) (h : p.phase = .sending result)
      (ho : s.isOpen = true) (hroom : s.queue.length < s.capacity) :
      Step s (.accept i interval)
        { s.enterPhase i p (.sleeping (s.now + interval)) with
          queue := s.queue ++ [⟨i, p.polls, p.resource, p.metric, result⟩]
          waiting := s.waiting.filter (· != i) }
  | stop {s i p} (hp : s.pollers[i]? = some p) (h : p.Leaves s.isOpen) :
      Step s (.stop i) (s.finishPoller i p).value
  | wake {s i p wakeAt} (hp : s.pollers[i]? = some p) (h : p.phase = .sleeping wakeAt)
      (hc : p.cancelled = false) (ht : wakeAt ≤ s.now) : Step s (.wake i) (s.beginPoll i p)
  | elapse (s duration) : Step s (.elapse duration) (s.elapse duration)

private theorem step_of_start? {s : Scheduler κ ρ} {i : Nat} {next : Traced (Scheduler κ ρ)}
    (h : s.start? i = some next) : Step s (.start i) next.value := by
  unfold start? at h
  split at h
  · cases h
  · next p hp =>
      split at h
      · next hphase =>
          obtain rfl := Option.some.inj h
          exact Step.start hp hphase
      · cases h

private theorem step_of_finish? {s : Scheduler κ ρ} {i : Nat} {result : ρ}
    {next : Traced (Scheduler κ ρ)} (h : s.finish? i result = some next) :
    Step s (.finish i result) next.value := by
  unfold finish? at h
  split at h
  · cases h
  · next p hp =>
      split at h
      · next since hphase =>
          split at h
          · next hc =>
              obtain rfl := Option.some.inj h
              exact Step.discard hp hphase hc
          · next hc =>
              obtain rfl := Option.some.inj h
              exact Step.offer hp hphase (Bool.eq_false_iff.mpr hc)
      · cases h

private theorem step_of_look? {s next : Scheduler κ ρ} {i : Nat} (h : s.look? i = some next) :
    Step s (.look i) next := by
  unfold look? at h
  split at h
  · cases h
  · next p hp =>
      split at h
      · next result hphase =>
          split at h
          · cases h
          · next hc =>
              obtain rfl := Option.some.inj h
              exact Step.look hp hphase (Bool.eq_false_iff.mpr hc)
      · cases h

private theorem step_of_accept? {s next : Scheduler κ ρ} {i interval : Nat}
    (h : s.accept? i interval = some next) : Step s (.accept i interval) next := by
  unfold accept? at h
  split at h
  · cases h
  · next p hp =>
      split at h
      · next result hphase =>
          split at h
          · next hc =>
              simp only [Bool.and_eq_true, decide_eq_true_eq] at hc
              obtain rfl := Option.some.inj h
              exact Step.accept hp hphase hc.1 hc.2
          · cases h
      · cases h

private theorem step_of_stop? {s : Scheduler κ ρ} {i : Nat} {next : Traced (Scheduler κ ρ)}
    (h : s.stop? i = some next) : Step s (.stop i) next.value := by
  unfold stop? at h
  split at h
  · cases h
  · next p hp =>
      split at h
      · next result hphase =>
          split at h
          · next hc =>
              obtain rfl := Option.some.inj h
              exact Step.stop hp (by rw [Poller.Leaves, hphase]; exact hc)
          · cases h
      · next result hphase =>
          split at h
          · next ho =>
              obtain rfl := Option.some.inj h
              exact Step.stop hp (by rw [Poller.Leaves, hphase]; exact Bool.not_eq_true' _ ▸ ho)
          · cases h
      · next wakeAt hphase =>
          split at h
          · next hc =>
              obtain rfl := Option.some.inj h
              exact Step.stop hp (by rw [Poller.Leaves, hphase]; exact hc)
          · cases h
      · cases h

private theorem step_of_wake? {s next : Scheduler κ ρ} {i : Nat} (h : s.wake? i = some next) :
    Step s (.wake i) next := by
  unfold wake? at h
  split at h
  · cases h
  · next p hp =>
      split at h
      · next wakeAt hphase =>
          split at h
          · next hc =>
              simp only [Bool.and_eq_true, Bool.not_eq_true', decide_eq_true_eq] at hc
              obtain rfl := Option.some.inj h
              exact Step.wake hp hphase hc.1 hc.2
          · cases h
      · cases h

private theorem step_of_receive? {s next : Scheduler κ ρ} {d : Delivery ρ}
    (h : s.receive? = some (d, next)) : Step s .receive next := by
  unfold receive? at h
  split at h
  · cases h
  · next hq =>
      split at h
      · next ho =>
          obtain ⟨rfl, rfl⟩ := Prod.mk.inj (Option.some.inj h)
          exact Step.receive hq ho
      · cases h

/-- Every step of the scheduler is one of the listed ones. -/
theorem step_of_step? {s : Scheduler κ ρ} {a : SchedulerAction κ ρ} {next : Traced (Scheduler κ ρ)}
    (h : s.step? a = some next) : Step s a next.value := by
  cases a with
  | add r m c =>
      obtain rfl := Option.some.inj h
      rw [Traced.value_map, add_value]
      exact Step.add s r m c
  | remove r =>
      obtain rfl := Option.some.inj h
      rw [Traced.value_map, remove_value]
      exact Step.remove s r
  | retain r keep =>
      obtain rfl := Option.some.inj h
      rw [Traced.value_map, retain_value]
      exact Step.retain s r keep
  | cancelRoot =>
      obtain rfl := Option.some.inj h
      exact Step.cancelRoot s
  | close =>
      obtain rfl := Option.some.inj h
      exact Step.close s
  | receive =>
      obtain ⟨⟨d, t⟩, hr, rfl⟩ := Option.map_eq_some_iff.mp h
      exact step_of_receive? hr
  | start i => exact step_of_start? h
  | finish i result => exact step_of_finish? h
  | look i =>
      obtain ⟨t, ht, rfl⟩ := Option.map_eq_some_iff.mp h
      exact step_of_look? ht
  | accept i interval =>
      obtain ⟨t, ht, rfl⟩ := Option.map_eq_some_iff.mp h
      exact step_of_accept? ht
  | stop i => exact step_of_stop? h
  | wake i =>
      obtain ⟨t, ht, rfl⟩ := Option.map_eq_some_iff.mp h
      exact step_of_wake? ht
  | elapse duration =>
      obtain rfl := Option.some.inj h
      exact Step.elapse s duration

end Scheduler

end ScalingMetrics
