import ScalingMetrics.Proofs.Scheduler.Rows

/-!
# Slots seen from an earlier state

Seen from an earlier state, a slot holds a poller of that state, a later one, or none. Operations on
the table leave the old pollers in their slots as they are, and cancel those that lose their slot.
Which old poller is touched is therefore a matter of what the slots hold afterwards.
-/

namespace ScalingMetrics

namespace Scheduler

variable {κ ρ : Type} {s t u : Scheduler κ ρ} {a : SchedulerAction κ ρ}
  {as : List (SchedulerAction κ ρ)} {r : AutoscalerRef} {m : MetricRef} {n : Nat}

/-! ### Tenants -/

/-- What a slot holds, as seen from a state with `n` pollers: the number of one of these, or the
collector of a later one. -/
def tenant? (n : Nat) (s : Scheduler κ ρ) (resource : AutoscalerRef) (metric : MetricRef) :
    Option (Nat ⊕ κ) :=
  (s.occupant? resource metric).bind fun i =>
    if i < n then some (.inl i) else (s.pollers[i]?).map fun p => .inr p.collector

theorem tenant?_eq (n : Nat) (s : Scheduler κ ρ) (r : AutoscalerRef) (m : MetricRef) :
    s.tenant? n r m = (s.occupant? r m).bind fun i =>
      if i < n then some (.inl i)
      else ((s.pollers.map Poller.assignment)[i]?).map fun x => .inr x.2.2 := by
  rw [tenant?]
  congr 1
  funext i
  rw [List.getElem?_map, Option.map_map]
  rfl

/-- At first all pollers are old ones. -/
theorem Coherent.tenant?_self (h : s.Coherent) (r : AutoscalerRef) (m : MetricRef) :
    s.tenant? s.pollers.length r m = (s.occupant? r m).map .inl := by
  rw [tenant?]
  cases ho : s.occupant? r m with
  | none => rfl
  | some i => simp [h.occupant_lt ho]

theorem tenant?_eq_some_inl_iff {i : Nat} :
    s.tenant? n r m = some (.inl i) ↔ s.occupant? r m = some i ∧ i < n := by
  rw [tenant?, Option.bind_eq_some_iff]
  constructor
  · rintro ⟨j, ho, hj⟩
    split at hj
    · next hlt =>
        cases hj
        exact ⟨ho, hlt⟩
    · simp at hj
  · rintro ⟨ho, hlt⟩
    exact ⟨i, ho, if_pos hlt⟩

theorem tenant?_eq_some_inr_iff {c : κ} :
    s.tenant? n r m = some (.inr c) ↔
      ∃ i p, s.occupant? r m = some i ∧ n ≤ i ∧ s.pollers[i]? = some p ∧ p.collector = c := by
  rw [tenant?, Option.bind_eq_some_iff]
  constructor
  · rintro ⟨i, ho, hi⟩
    split at hi
    · simp at hi
    · next hge =>
        obtain ⟨p, hp, hc⟩ := Option.map_eq_some_iff.mp hi
        exact ⟨i, p, ho, Nat.le_of_not_lt hge, hp, Sum.inr.inj hc⟩
  · rintro ⟨i, p, ho, hge, hp, rfl⟩
    refine ⟨i, ho, ?_⟩
    rw [if_neg (Nat.not_lt.mpr hge), hp, Option.map_some]

theorem Coherent.tenant?_eq_none_iff (h : s.Coherent) :
    s.tenant? n r m = none ↔ s.occupant? r m = none := by
  cases ho : s.occupant? r m with
  | none => simp [tenant?, ho]
  | some i =>
      obtain ⟨p, hp, -⟩ := h.occupied r m i ho
      rw [tenant?, ho, Option.bind_some, hp]
      split <;> simp

theorem Coherent.isSome_tenant? (h : s.Coherent) (n : Nat) (r : AutoscalerRef) (m : MetricRef) :
    (s.tenant? n r m).isSome = s.contains r m := by
  rw [Bool.eq_iff_iff, contains_eq_true_iff, Option.isSome_iff_ne_none, ne_eq,
    h.tenant?_eq_none_iff, ← ne_eq, ← Option.isSome_iff_ne_none, Option.isSome_iff_exists]

theorem Coherent.occupant?_of_tenant? (h : s.Coherent) {old : Option Nat}
    (held : s.tenant? n r m = old.map .inl) : s.occupant? r m = old := by
  cases old with
  | none => exact h.tenant?_eq_none_iff.mp held
  | some i => exact (tenant?_eq_some_inl_iff.mp held).1

/-- An added poller is a new one. -/
theorem Coherent.tenant?_replace (h : s.Coherent) (hn : n ≤ s.pollers.length)
    (r r' : AutoscalerRef) (m m' : MetricRef) (c : κ) :
    (s.replace r m c).tenant? n r' m' =
      if r' = r ∧ m' = m then some (.inr c) else s.tenant? n r' m' := by
  have hadded : (s.replace r m c).pollers.map Poller.assignment =
      s.pollers.map Poller.assignment ++ [(r, m, c)] := assignments_step (Step.add s r m c)
  rw [tenant?_eq, occupant?_replace, hadded]
  split
  · simp [Nat.not_lt.mpr hn]
  · rw [tenant?_eq]
    cases ho : s.occupant? r' m' with
    | none => rfl
    | some i =>
        have hi : i < (s.pollers.map Poller.assignment).length := by
          rw [List.length_map]
          exact h.occupant_lt ho
        rw [Option.bind_some, Option.bind_some, List.getElem?_append_left hi]

theorem tenant?_withdraw (s : Scheduler κ ρ) (r r' : AutoscalerRef) (m : MetricRef)
    (keep : MetricRef → Bool) : (s.withdraw r keep).tenant? n r' m =
      if r' = r ∧ keep m = false then none else s.tenant? n r' m := by
  have hassigned : (s.withdraw r keep).pollers.map Poller.assignment =
      s.pollers.map Poller.assignment := assignments_cancel s _
  rw [tenant?_eq, occupant?_withdraw, hassigned, tenant?_eq]
  split <;> rfl

/-! ### Old pollers -/

/-- Whether a poller stands in its slot. -/
def stands (s : Scheduler κ ρ) (i : Nat) (p : Poller κ ρ) : Bool :=
  s.occupant? p.resource p.metric == some i

@[simp] theorem stands_cancelIf (s : Scheduler κ ρ) (i : Nat) (p : Poller κ ρ) (b : Bool) :
    s.stands i (p.cancelIf b) = s.stands i p := rfl

/-- A change of the table by its owner: no poller returns to a slot, and those that lose their slot
are cancelled, while the others stay as they are. -/
structure Reallots (s t : Scheduler κ ρ) : Prop where
  grows : s.pollers.length ≤ t.pollers.length
  returns : ∀ (i : Nat) p, s.pollers[i]? = some p → t.stands i p = true → s.stands i p = true
  pollers : ∀ (i : Nat) p, s.pollers[i]? = some p →
    t.pollers[i]? = some (p.cancelIf (s.stands i p && !t.stands i p))

namespace Reallots

theorem refl (s : Scheduler κ ρ) : Reallots s s where
  grows := Nat.le_refl _
  returns _ _ _ := id
  pollers i p hp := by simp [hp, Poller.cancelIf]

theorem trans (first : Reallots s t) (second : Reallots t u) : Reallots s u where
  grows := Nat.le_trans first.grows second.grows
  returns i p hp hu := by
    have ht := second.returns i _ (first.pollers i p hp) hu
    exact first.returns i p hp ht
  pollers i p hp := by
    have hp' := first.pollers i p hp
    have htu := second.returns i _ hp'
    have hst := first.returns i p hp
    rw [second.pollers i _ hp']
    rw [stands_cancelIf, stands_cancelIf] at htu ⊢
    -- A poller that has lost its slot once stays without it.
    cases hs : s.stands i p <;> cases ht : t.stands i p <;> cases hu : u.stands i p <;>
      simp_all [Poller.cancelIf]

end Reallots

theorem Coherent.stands_iff (h : s.Coherent) {i : Nat} {p : Poller κ ρ}
    (hp : s.pollers[i]? = some p) (r : AutoscalerRef) (m : MetricRef) :
    s.occupant? r m = some i ↔ s.stands i p = true ∧ p.resource = r ∧ p.metric = m := by
  rw [stands, beq_iff_eq]
  constructor
  · intro ho
    obtain ⟨q, hq, rfl, rfl, -⟩ := h.occupied r m i ho
    obtain rfl : p = q := Option.some.inj (hp.symm.trans hq)
    exact ⟨ho, rfl, rfl⟩
  · rintro ⟨ho, rfl, rfl⟩
    exact ho

theorem Coherent.reallots_replace (h : s.Coherent) (r : AutoscalerRef) (m : MetricRef) (c : κ) :
    Reallots s (s.replace r m c) := by
  have hstands : ∀ (i : Nat) p, s.pollers[i]? = some p → ((s.replace r m c).stands i p = true ↔
      s.stands i p = true ∧ ¬ (p.resource = r ∧ p.metric = m)) := by
    intro i p hp
    have hi : i ≠ s.pollers.length := Nat.ne_of_lt (List.getElem?_eq_some_iff.mp hp).1
    rw [stands, stands, occupant?_replace]
    split
    · next hslot => simp [hslot, Ne.symm hi]
    · next hslot => simp [hslot]
  refine ⟨?_, ?_, ?_⟩
  · rw [length_pollers_replace]
    exact Nat.le_succ _
  · intro i p hp ht
    exact ((hstands i p hp).mp ht).1
  · intro i p hp
    have hi : i ≠ s.pollers.length := Nat.ne_of_lt (List.getElem?_eq_some_iff.mp hp).1
    have hlost : (s.occupant? r m == some i) =
        (s.stands i p && !(s.replace r m c).stands i p) := by
      rw [Bool.eq_iff_iff, beq_iff_eq, h.stands_iff hp, Bool.and_eq_true, Bool.not_eq_true',
        ← Bool.not_eq_true, hstands i p hp]
      tauto
    rw [getElem?_replace, if_neg hi, hp, Option.map_some, hlost]

theorem Coherent.reallots_withdraw (h : s.Coherent) (r : AutoscalerRef)
    (keep : MetricRef → Bool) : Reallots s (s.withdraw r keep) := by
  have hstands : ∀ (i : Nat) p, (s.withdraw r keep).stands i p = true ↔
      s.stands i p = true ∧ ¬ (p.resource = r ∧ keep p.metric = false) := by
    intro i p
    rw [stands, stands, occupant?_withdraw]
    split
    · next hslot => simp [hslot]
    · next hslot => simp [hslot]
  refine ⟨?_, ?_, ?_⟩
  · exact Nat.le_of_eq (length_pollers_cancel s _).symm
  · intro i p _ ht
    exact ((hstands i p).mp ht).1
  · intro i p hp
    have hlost : ((s.slots r).filter fun metric _ => !keep metric).values.contains i =
        (s.stands i p && !(s.withdraw r keep).stands i p) := by
      rw [Bool.eq_iff_iff, List.contains_iff_mem, mem_withdrawn_iff, Bool.and_eq_true,
        Bool.not_eq_true', ← Bool.not_eq_true, hstands]
      constructor
      · rintro ⟨m, ho, hm⟩
        obtain ⟨hs, rfl, rfl⟩ := (h.stands_iff hp r m).mp ho
        exact ⟨hs, fun hkept => hkept.2 ⟨rfl, hm⟩⟩
      · rintro ⟨hs, hgone⟩
        obtain ⟨rfl, hm⟩ : p.resource = r ∧ keep p.metric = false := by tauto
        exact ⟨p.metric, (h.stands_iff hp _ _).mpr ⟨hs, rfl, rfl⟩, hm⟩
    change (s.cancel _).pollers[i]? = _
    rw [getElem?_cancel, hp, Option.map_some, hlost]

/-- Work on slots reallots the table. -/
theorem Coherent.reallots_step (h : s.Coherent) (hstep : Step s a t) (ha : a.owner? = some r) :
    Reallots s t := by
  cases hstep with
  | add r m c => exact h.reallots_replace r m c
  | remove r => exact h.reallots_withdraw r _
  | retain r keep => exact h.reallots_withdraw r _
  | _ => cases ha

theorem Coherent.reallots_reaches (h : s.Coherent) (run : Traced.Reaches step? s as t)
    (work : ∀ x ∈ as, ∃ r, x.owner? = some r) : Reallots s t := by
  induction run with
  | refl => exact .refl s
  | @step as t a next before hstep ih =>
      obtain ⟨r, hr⟩ := work a (by simp)
      have last := (h.reaches before).reallots_step (step_of_step? hstep) hr
      exact (ih fun x hx => work x (List.mem_append_left [a] hx)).trans last

/-- Two ways to reallot a table that leave the same old pollers in their slots treat all old pollers
alike. -/
theorem Reallots.getElem?_congr (first : Reallots s t) (second : Reallots s u)
    (same : ∀ r m i, t.tenant? s.pollers.length r m = some (.inl i) ↔
      u.tenant? s.pollers.length r m = some (.inl i)) {i : Nat} (hi : i < s.pollers.length) :
    t.pollers[i]? = u.pollers[i]? := by
  have hp := List.getElem?_eq_getElem hi
  have hstands : t.stands i s.pollers[i] = u.stands i s.pollers[i] := by
    rw [Bool.eq_iff_iff, stands, stands, beq_iff_eq, beq_iff_eq]
    have held := same s.pollers[i].resource s.pollers[i].metric i
    rw [tenant?_eq_some_inl_iff, tenant?_eq_some_inl_iff] at held
    simpa [hi] using held
  rw [first.pollers i _ hp, second.pollers i _ hp, hstands]

/-- An old poller that keeps its slot is left alone. -/
theorem Reallots.getElem?_of_tenant? (reallots : Reallots s t) (h : s.Coherent) {i : Nat}
    (held : t.tenant? s.pollers.length r m = some (.inl i))
    (before : s.occupant? r m = some i) : t.pollers[i]? = s.pollers[i]? := by
  obtain ⟨p, hp, rfl, rfl, -⟩ := h.occupied r m i before
  have ht : t.stands i p = true := beq_iff_eq.mpr (tenant?_eq_some_inl_iff.mp held).1
  rw [reallots.pollers i p hp, ht, hp]
  simp [Poller.cancelIf]

end Scheduler

end ScalingMetrics
