import ScalingMetrics.Proofs.Scheduler.Steps

/-!
# Slots and live pollers

A poller that is not cancelled stands in the table, in the slot it was added for, and no slot holds
another poller than the last one added for it. `Coherent` states this for one state, and every step
keeps it.
-/

namespace ScalingMetrics

namespace Scheduler

variable {κ ρ : Type}

/-- The table and the pollers agree. -/
structure Coherent (s : Scheduler κ ρ) : Prop where
  /-- A slot holds a poller that was added for it and ends only with the root. -/
  occupied : ∀ r m i, s.occupant? r m = some i →
    ∃ p, s.pollers[i]? = some p ∧ p.resource = r ∧ p.metric = m ∧ p.cancelled = s.rootCancelled
  /-- A poller that is not cancelled stands in its slot. -/
  placed : ∀ (i : Nat) p, s.pollers[i]? = some p → p.cancelled = false →
    s.occupant? p.resource p.metric = some i
  /-- No poller was added for a slot after the one that it holds. -/
  latest : ∀ r m i (j : Nat) q, s.occupant? r m = some i → s.pollers[j]? = some q →
    q.resource = r → q.metric = m → j ≤ i
  /-- A cancelled root cancels every poller. -/
  root : s.rootCancelled = true → ∀ (i : Nat) p, s.pollers[i]? = some p → p.cancelled = true
  /-- A poller ends only when it is cancelled or its results have no reader. -/
  ended : ∀ (i : Nat) p, s.pollers[i]? = some p → p.phase = .ended →
    p.cancelled = true ∨ s.isOpen = false

theorem coherent_create (n : Nat) : Coherent (create n : Scheduler κ ρ) where
  occupied := by simp
  placed := by simp [create]
  latest := by simp
  root := by simp [create]
  ended := by simp [create]

namespace Coherent

variable {s t : Scheduler κ ρ}

theorem occupant_lt (h : s.Coherent) {r : AutoscalerRef} {m : MetricRef} {i : Nat}
    (ho : s.occupant? r m = some i) : i < s.pollers.length := by
  obtain ⟨p, hp, -⟩ := h.occupied r m i ho
  exact (List.getElem?_eq_some_iff.mp hp).1

/-- A poller stands in one slot at most. -/
theorem occupant_unique (h : s.Coherent) {r r' : AutoscalerRef} {m m' : MetricRef} {i : Nat}
    (ho : s.occupant? r m = some i) (ho' : s.occupant? r' m' = some i) : r = r' ∧ m = m' := by
  obtain ⟨p, hp, hr, hm, -⟩ := h.occupied r m i ho
  obtain ⟨p', hp', hr', hm', -⟩ := h.occupied r' m' i ho'
  obtain rfl : p = p' := Option.some.inj (hp.symm.trans hp')
  exact ⟨hr.symm.trans hr', hm.symm.trans hm'⟩

/-- A change that leaves the slots of pollers and their cancellation alone. -/
theorem keep (h : s.Coherent) (hlength : t.pollers.length = s.pollers.length)
    (hpollers : ∀ (j : Nat) q, t.pollers[j]? = some q → ∃ p, s.pollers[j]? = some p ∧
      q.resource = p.resource ∧ q.metric = p.metric ∧ q.cancelled = p.cancelled ∧
      (q.phase = .ended → p.phase = .ended ∨ p.cancelled = true ∨ s.isOpen = false))
    (htable : t.table = s.table) (hroot : t.rootCancelled = s.rootCancelled)
    (hopen : t.isOpen = s.isOpen) : t.Coherent := by
  have hocc : ∀ r m, t.occupant? r m = s.occupant? r m := by
    intro r m
    simp only [occupant?, slots, htable]
  have hkept : ∀ (j : Nat) p, s.pollers[j]? = some p → ∃ q, t.pollers[j]? = some q ∧
      q.resource = p.resource ∧ q.metric = p.metric ∧ q.cancelled = p.cancelled := by
    intro j p hp
    have hj : j < t.pollers.length := hlength ▸ (List.getElem?_eq_some_iff.mp hp).1
    obtain ⟨p', hp', hr, hm, hc, -⟩ := hpollers j _ (List.getElem?_eq_getElem hj)
    obtain rfl : p = p' := Option.some.inj (hp.symm.trans hp')
    exact ⟨_, List.getElem?_eq_getElem hj, hr, hm, hc⟩
  refine ⟨?_, ?_, ?_, ?_, ?_⟩
  · intro r m i ho
    obtain ⟨p, hp, hr, hm, hc⟩ := h.occupied r m i (hocc r m ▸ ho)
    obtain ⟨q, hq, hqr, hqm, hqc⟩ := hkept i p hp
    exact ⟨q, hq, hqr.trans hr, hqm.trans hm, (hqc.trans hc).trans hroot.symm⟩
  · intro j q hq hlive
    obtain ⟨p, hp, hr, hm, hc, -⟩ := hpollers j q hq
    rw [hocc, hr, hm]
    exact h.placed j p hp (hc.symm.trans hlive)
  · intro r m i j q ho hq hqr hqm
    obtain ⟨p, hp, hr, hm, -⟩ := hpollers j q hq
    exact h.latest r m i j p (hocc r m ▸ ho) hp (hr.symm.trans hqr) (hm.symm.trans hqm)
  · intro hrc j q hq
    obtain ⟨p, hp, -, -, hc, -⟩ := hpollers j q hq
    exact hc.trans (h.root (hroot.symm.trans hrc) j p hp)
  · intro j q hq hqe
    obtain ⟨p, hp, -, -, hc, he⟩ := hpollers j q hq
    rw [hc, hopen]
    rcases he hqe with hended | hstopped
    · exact h.ended j p hp hended
    · exact hstopped

/-- A change to one poller that leaves its slot and its cancellation alone. -/
theorem update (h : s.Coherent) {i : Nat} {p p' : Poller κ ρ} (hp : s.pollers[i]? = some p)
    (hpollers : t.pollers = s.pollers.set i p') (htable : t.table = s.table)
    (hroot : t.rootCancelled = s.rootCancelled) (hopen : t.isOpen = s.isOpen)
    (hplace : p'.resource = p.resource ∧ p'.metric = p.metric ∧ p'.cancelled = p.cancelled)
    (hended : p'.phase = .ended → p.cancelled = true ∨ s.isOpen = false) : t.Coherent := by
  refine h.keep (by rw [hpollers, List.length_set]) ?_ htable hroot hopen
  intro j q hq
  rw [hpollers] at hq
  rcases (getElem?_set_iff hp).mp hq with ⟨rfl, rfl⟩ | ⟨-, hq⟩
  · exact ⟨p, hp, hplace.1, hplace.2.1, hplace.2.2, fun he => .inr (hended he)⟩
  · exact ⟨q, hq, rfl, rfl, rfl, .inl⟩

/-- A poller enters its slot when the one before it is cancelled. -/
theorem add (h : s.Coherent) (r : AutoscalerRef) (m : MetricRef) (c : κ) :
    (s.replace r m c).Coherent := by
  have hpollers : ∀ (j : Nat) q, (s.replace r m c).pollers[j]? = some q →
      j = s.pollers.length ∧ q = ⟨r, m, c, s.rootCancelled, 0, .starting, s.turn⟩ ∨
        ∃ p, s.pollers[j]? = some p ∧ q = p.cancelIf (s.occupant? r m == some j) := by
    intro j q hq
    rw [getElem?_replace] at hq
    split at hq
    · next hj => exact .inl ⟨hj, (Option.some.inj hq).symm⟩
    · obtain ⟨p, hp, hpq⟩ := Option.map_eq_some_iff.mp hq
      exact .inr ⟨p, hp, hpq.symm⟩
  refine ⟨?_, ?_, ?_, ?_, ?_⟩
  · intro r' m' i ho
    rw [occupant?_replace] at ho
    split at ho
    · next hslot =>
        obtain rfl := Option.some.inj ho
        refine ⟨_, (getElem?_replace s r m c _).trans (if_pos rfl), ?_⟩
        exact ⟨hslot.1.symm, hslot.2.symm, rfl⟩
    · next hslot =>
        obtain ⟨p, hp, hr, hm, hc⟩ := h.occupied r' m' i ho
        have hold : i ≠ s.pollers.length := Nat.ne_of_lt (h.occupant_lt ho)
        have hspared : (s.occupant? r m == some i) = false := by
          rw [beq_eq_false_iff_ne]
          intro hi
          exact hslot (h.occupant_unique ho hi)
        refine ⟨p.cancelIf (s.occupant? r m == some i), ?_, hr, hm, ?_⟩
        · rw [getElem?_replace, if_neg hold, hp, Option.map_some]
        · rw [hspared, Poller.cancelIf, Bool.or_false]
          exact hc
  · intro j q hq hlive
    rw [occupant?_replace]
    rcases hpollers j q hq with ⟨rfl, rfl⟩ | ⟨p, hp, rfl⟩
    · exact if_pos ⟨rfl, rfl⟩
    · obtain ⟨hpc, hspared⟩ := Bool.or_eq_false_iff.mp hlive
      have ho := h.placed j p hp hpc
      refine (if_neg ?_).trans ho
      -- A live poller of the same slot would be its former occupant, which was cancelled.
      rintro ⟨hr, hm⟩
      change p.resource = r at hr
      change p.metric = m at hm
      rw [hr, hm] at ho
      exact (beq_eq_false_iff_ne.mp hspared) ho
  · intro r' m' i j q ho hq hqr hqm
    rw [occupant?_replace] at ho
    rcases hpollers j q hq with ⟨rfl, rfl⟩ | ⟨p, hp, rfl⟩
    · rw [if_pos ⟨hqr.symm, hqm.symm⟩] at ho
      exact Nat.le_of_eq (Option.some.inj ho)
    · split at ho
      · obtain rfl := Option.some.inj ho
        exact Nat.le_of_lt (List.getElem?_eq_some_iff.mp hp).1
      · exact h.latest r' m' i j p ho hp hqr hqm
  · intro hrc j q hq
    rcases hpollers j q hq with ⟨-, rfl⟩ | ⟨p, hp, rfl⟩
    · exact hrc
    · have hpc := h.root hrc j p hp
      simp [Poller.cancelIf, hpc]
  · intro j q hq hqe
    rcases hpollers j q hq with ⟨-, rfl⟩ | ⟨p, hp, rfl⟩
    · cases hqe
    · exact (h.ended j p hp hqe).imp_left fun hpc => by simp [Poller.cancelIf, hpc]

/-- Pollers leave the table together with their liveness. -/
theorem withdraw (h : s.Coherent) (r : AutoscalerRef) (keep : MetricRef → Bool) :
    (s.withdraw r keep).Coherent := by
  have hget : ∀ (j : Nat) q, (s.withdraw r keep).pollers[j]? = some q ↔
      ∃ p, s.pollers[j]? = some p ∧
        p.cancelIf (((s.slots r).filter fun metric _ => !keep metric).values.contains j) =
          q := by
    intro j q
    rw [← Option.map_eq_some_iff, ← getElem?_cancel]
    rfl
  refine ⟨?_, ?_, ?_, ?_, ?_⟩
  · intro r' m i ho
    rw [occupant?_withdraw] at ho
    split at ho
    · cases ho
    · next hkeep =>
        obtain ⟨p, hp, hr, hm, hc⟩ := h.occupied r' m i ho
        refine ⟨_, (hget i _).mpr ⟨p, hp, rfl⟩, hr, hm, ?_⟩
        have hnot : ((s.slots r).filter fun metric _ => !keep metric).values.contains i =
            false := by
          rw [Bool.eq_false_iff, ne_eq, List.contains_iff_mem, mem_withdrawn_iff]
          rintro ⟨m', ho', hm'⟩
          obtain ⟨rfl, rfl⟩ := h.occupant_unique ho ho'
          exact hkeep ⟨rfl, hm'⟩
        simp only [Poller.cancelIf, hnot, Bool.or_false]
        exact hc
  · intro j q hq hqc
    obtain ⟨p, hp, rfl⟩ := (hget j q).mp hq
    obtain ⟨hpc, hnot⟩ := Bool.or_eq_false_iff.mp hqc
    have ho := h.placed j p hp hpc
    rw [occupant?_withdraw]
    refine (if_neg ?_).trans ho
    rintro ⟨hr, hm⟩
    rw [Bool.eq_false_iff, ne_eq, List.contains_iff_mem, mem_withdrawn_iff] at hnot
    change p.resource = r at hr
    exact hnot ⟨p.metric, hr ▸ ho, hm⟩
  · intro r' m i j q ho hq hqr hqm
    obtain ⟨p, hp, rfl⟩ := (hget j q).mp hq
    rw [occupant?_withdraw] at ho
    split at ho
    · cases ho
    · exact h.latest r' m i j p ho hp hqr hqm
  · intro hrc j q hq
    obtain ⟨p, hp, rfl⟩ := (hget j q).mp hq
    have hpc := h.root hrc j p hp
    simp [Poller.cancelIf, hpc]
  · intro j q hq hqe
    obtain ⟨p, hp, rfl⟩ := (hget j q).mp hq
    exact (h.ended j p hp hqe).imp_left fun hpc => by simp [Poller.cancelIf, hpc]

theorem cancelRoot (h : s.Coherent) : s.cancelRoot.Coherent := by
  have hget : ∀ (j : Nat) q, s.cancelRoot.pollers[j]? = some q ↔
      ∃ p : Poller κ ρ, s.pollers[j]? = some p ∧ { p with cancelled := true } = q := by
    intro j q
    rw [← Option.map_eq_some_iff, ← List.getElem?_map]
    rfl
  refine ⟨?_, ?_, ?_, ?_, ?_⟩
  · intro r m i ho
    obtain ⟨p, hp, hr, hm, -⟩ := h.occupied r m i ho
    exact ⟨_, (hget i _).mpr ⟨p, hp, rfl⟩, hr, hm, rfl⟩
  · intro j q hq hqc
    obtain ⟨p, -, rfl⟩ := (hget j q).mp hq
    cases hqc
  · intro r m i j q ho hq hqr hqm
    obtain ⟨p, hp, rfl⟩ := (hget j q).mp hq
    exact h.latest r m i j p ho hp hqr hqm
  · intro _ j q hq
    obtain ⟨p, -, rfl⟩ := (hget j q).mp hq
    rfl
  · intro j q hq _
    obtain ⟨p, -, rfl⟩ := (hget j q).mp hq
    exact .inl rfl

/-- Every step keeps the table and the pollers in agreement. -/
theorem step {a : SchedulerAction κ ρ} (h : s.Coherent) (hstep : Step s a t) : t.Coherent := by
  cases hstep with
  | add r m c => exact h.add r m c
  | remove r => exact h.withdraw r _
  | retain r keep => exact h.withdraw r _
  | cancelRoot => exact h.cancelRoot
  | close => exact ⟨h.occupied, h.placed, h.latest, h.root, fun _ _ _ _ => .inr rfl⟩
  | receive _ _ => exact ⟨h.occupied, h.placed, h.latest, h.root, h.ended⟩
  | elapse d => exact ⟨h.occupied, h.placed, h.latest, h.root, h.ended⟩
  | start hp _ => exact h.update hp rfl rfl rfl rfl ⟨rfl, rfl, rfl⟩ nofun
  | offer hp _ _ => exact h.update hp rfl rfl rfl rfl ⟨rfl, rfl, rfl⟩ nofun
  | look hp _ _ => exact h.update hp rfl rfl rfl rfl ⟨rfl, rfl, rfl⟩ nofun
  | accept hp _ _ _ => exact h.update hp rfl rfl rfl rfl ⟨rfl, rfl, rfl⟩ nofun
  | wake hp _ _ _ => exact h.update hp rfl rfl rfl rfl ⟨rfl, rfl, rfl⟩ nofun
  | discard hp _ hc => exact h.update hp rfl rfl rfl rfl ⟨rfl, rfl, rfl⟩ fun _ => .inl hc
  | stop hp hleaves => exact h.update hp rfl rfl rfl rfl ⟨rfl, rfl, rfl⟩ fun _ => hleaves.reason

theorem reaches {as : List (SchedulerAction κ ρ)} (h : s.Coherent)
    (run : Traced.Reaches step? s as t) : t.Coherent := by
  induction run with
  | refl => exact h
  | step _ hstep ih => exact ih.step (step_of_step? hstep)

end Coherent

/-! ### Pollers and the actions that added them -/

end Scheduler

/-- The slot that a poller is added for, with its collector. -/
def SchedulerAction.added? {κ ρ : Type} :
    SchedulerAction κ ρ → Option (AutoscalerRef × MetricRef × κ)
  | .add resource metric collector => some (resource, metric, collector)
  | _ => none

/-- The slot that a poller was added for, with its collector. -/
def Poller.assignment {κ ρ : Type} (p : Poller κ ρ) : AutoscalerRef × MetricRef × κ :=
  (p.resource, p.metric, p.collector)

namespace Scheduler

variable {κ ρ : Type} {s t : Scheduler κ ρ} {a : SchedulerAction κ ρ}
  {as : List (SchedulerAction κ ρ)}

theorem assignments_cancel (s : Scheduler κ ρ) (numbers : List Nat) :
    (s.cancel numbers).pollers.map Poller.assignment = s.pollers.map Poller.assignment := by
  apply List.ext_getElem?
  intro i
  rw [List.getElem?_map, getElem?_cancel, List.getElem?_map, Option.map_map]
  rfl

private theorem assignments_set {i : Nat} {p p' : Poller κ ρ} (hp : s.pollers[i]? = some p)
    (hpollers : t.pollers = s.pollers.set i p') (ha : p'.assignment = p.assignment) :
    t.pollers.map Poller.assignment = s.pollers.map Poller.assignment ++ [] := by
  have hi : i < s.pollers.length := (List.getElem?_eq_some_iff.mp hp).1
  rw [List.append_nil, hpollers]
  apply List.ext_getElem?
  intro j
  rw [List.getElem?_map, List.getElem?_map]
  by_cases hj : j = i
  · subst hj
    rw [List.getElem?_set_self hi, hp, Option.map_some, Option.map_some, ha]
  · rw [List.getElem?_set_ne (Ne.symm hj)]

/-- Pollers are only ever added, each by its own action. -/
theorem assignments_step (h : Step s a t) :
    t.pollers.map Poller.assignment = s.pollers.map Poller.assignment ++ a.added?.toList := by
  cases h with
  | add r m c =>
      change ((s.cancel _).pollers ++ [_]).map Poller.assignment = _
      rw [List.map_append, assignments_cancel]
      rfl
  | remove r => exact (assignments_cancel s _).trans (List.append_nil _).symm
  | retain r keep => exact (assignments_cancel s _).trans (List.append_nil _).symm
  | cancelRoot =>
      change (s.pollers.map _).map Poller.assignment = _ ++ []
      rw [List.map_map, List.append_nil]
      rfl
  | close => exact (List.append_nil _).symm
  | receive _ _ => exact (List.append_nil _).symm
  | elapse d => exact (List.append_nil _).symm
  | start hp _ => exact assignments_set hp rfl rfl
  | offer hp _ _ => exact assignments_set hp rfl rfl
  | look hp _ _ => exact assignments_set hp rfl rfl
  | accept hp _ _ _ => exact assignments_set hp rfl rfl
  | wake hp _ _ _ => exact assignments_set hp rfl rfl
  | discard hp _ _ => exact assignments_set hp rfl rfl
  | stop hp _ => exact assignments_set hp rfl rfl

theorem assignments_reaches (run : Traced.Reaches step? s as t) :
    t.pollers.map Poller.assignment =
      s.pollers.map Poller.assignment ++ as.filterMap SchedulerAction.added? := by
  induction run with
  | refl => simp
  | @step as t a next _ h ih =>
      rw [assignments_step (step_of_step? h), ih, List.filterMap_append, List.append_assoc]
      cases ha : a.added? <;> simp [ha]

theorem rootCancelled_step (h : Step s a t) :
    t.rootCancelled = true ↔ s.rootCancelled = true ∨ a = .cancelRoot := by
  cases h with
  | cancelRoot => simp [cancelRoot]
  | _ =>
      simp [replace, enter, cancel, withdraw, close, elapse, beginPoll, enterPhase, finishPoller]

theorem isOpen_step (h : Step s a t) :
    t.isOpen = false ↔ s.isOpen = false ∨ a = .close := by
  cases h with
  | close => simp [close]
  | _ =>
      simp [replace, enter, cancel, withdraw, cancelRoot, elapse, beginPoll, enterPhase,
        finishPoller]

theorem rootCancelled_reaches (run : Traced.Reaches step? s as t) :
    t.rootCancelled = true ↔ s.rootCancelled = true ∨ .cancelRoot ∈ as := by
  induction run with
  | refl => simp
  | step _ h ih =>
      rw [rootCancelled_step (step_of_step? h), ih, List.mem_append, List.mem_singleton, or_assoc]
      exact or_congr_right (or_congr_right eq_comm)

theorem isOpen_reaches (run : Traced.Reaches step? s as t) :
    t.isOpen = false ↔ s.isOpen = false ∨ .close ∈ as := by
  induction run with
  | refl => simp
  | step _ h ih =>
      rw [isOpen_step (step_of_step? h), ih, List.mem_append, List.mem_singleton, or_assoc]
      exact or_congr_right (or_congr_right eq_comm)

/-- As long as the root lives and results have a reader, slots and pollers that are not cancelled
correspond to each other, and each slot holds the last poller added for it, which has not ended.
A cancelled root cancels all pollers, those added later included. -/
theorem live_pollers_biject_slots {n : Nat} {as : List (SchedulerAction κ ρ)}
    {last : Traced (Scheduler κ ρ)} (run : (create n).run? as = some last) :
    last.value.pollers.map Poller.assignment = as.filterMap SchedulerAction.added? ∧
    (.cancelRoot ∉ as → .close ∉ as →
      (∀ r m i, last.value.occupant? r m = some i →
        ∃ p, last.value.pollers[i]? = some p ∧ p.resource = r ∧ p.metric = m ∧
          p.cancelled = false ∧ p.phase ≠ .ended ∧
          ∀ (j : Nat) q, last.value.pollers[j]? = some q → q.resource = r → q.metric = m →
            j ≤ i) ∧
      ∀ (i : Nat) p, last.value.pollers[i]? = some p →
        (p.cancelled = false ↔ last.value.occupant? p.resource p.metric = some i)) ∧
    (.cancelRoot ∈ as → ∀ p ∈ last.value.pollers, p.cancelled = true) := by
  have reached : Traced.Reaches step? (create n) as last.value := Traced.reaches_of_run? run
  have coherent : last.value.Coherent := (coherent_create n).reaches reached
  have hroot := rootCancelled_reaches reached
  have hopen := isOpen_reaches reached
  refine ⟨?_, ?_, ?_⟩
  · simpa [create] using assignments_reaches reached
  · intro noCancel noClose
    have live : last.value.rootCancelled = false := by
      rw [Bool.eq_false_iff, ne_eq, hroot]
      simpa [create] using noCancel
    have heard : last.value.isOpen ≠ false := by
      rw [ne_eq, hopen]
      simpa [create] using noClose
    constructor
    · intro r m i ho
      obtain ⟨p, hp, hr, hm, hc⟩ := coherent.occupied r m i ho
      rw [live] at hc
      refine ⟨p, hp, hr, hm, hc, ?_, fun j q => coherent.latest r m i j q ho⟩
      intro hended
      rcases coherent.ended i p hp hended with h | h
      · exact Bool.false_ne_true (hc.symm.trans h)
      · exact heard h
    · intro i p hp
      constructor
      · exact coherent.placed i p hp
      · intro ho
        obtain ⟨q, hq, -, -, hc⟩ := coherent.occupied _ _ i ho
        obtain rfl : p = q := Option.some.inj (hp.symm.trans hq)
        exact hc.trans live
  · intro cancelled p hp
    obtain ⟨i, hi⟩ := List.mem_iff_getElem?.mp hp
    exact coherent.root (hroot.mpr (.inr cancelled)) i p hi

/-- A slot whose poller is replaced while its result waits for room, beside a slot that is given up
during a poll. -/
def replacement : List (SchedulerAction Nat Nat) :=
  let rps : MetricRef := ⟨.pods, "rps", none⟩
  let lag : MetricRef := ⟨.external, "lag", none⟩
  [.add ⟨"shop", "web"⟩ rps 10, .add ⟨"shop", "web"⟩ lag 11, .start 0, .start 1, .finish 0 7,
    .add ⟨"shop", "web"⟩ rps 12, .stop 0, .retain ⟨"shop", "web"⟩ [rps], .finish 1 8, .start 2]

theorem live_pollers_biject_slots_replaced :
    ∃ last, (create 1).run? replacement = some last ∧
      last.value.pollers.map (·.cancelled) = [true, true, false] ∧
      ∀ (i : Nat) p, last.value.pollers[i]? = some p →
        (p.cancelled = false ↔ last.value.occupant? p.resource p.metric = some i) := by
  obtain ⟨last, run, cancelled⟩ : ∃ last, (create 1).run? replacement = some last ∧
      last.value.pollers.map (·.cancelled) = [true, true, false] := ⟨_, rfl, rfl⟩
  have live := (live_pollers_biject_slots run).2.1 (by decide) (by decide)
  exact ⟨last, run, cancelled, live.2⟩

end Scheduler

end ScalingMetrics
