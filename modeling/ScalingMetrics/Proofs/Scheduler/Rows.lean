import Mathlib.Data.List.Nodup
import Mathlib.Data.List.Perm.Subperm
import ScalingMetrics.Proofs.Scheduler.Order

/-!
# The slots of one autoscaler

Work on the slots of an autoscaler leaves the pollers of all others alone. An autoscaler without
slots has no poller that is not cancelled, and as long as none is added for it the reader receives
only those of its results that the channel holds already or that are on their way to it.
-/

namespace ScalingMetrics

namespace SchedulerAction

variable {κ ρ : Type}

/-- The autoscaler whose slots an action works on. -/
def owner? : SchedulerAction κ ρ → Option AutoscalerRef
  | add resource _ _ => some resource
  | remove resource => some resource
  | retain resource _ => some resource
  | _ => none

end SchedulerAction

/-- The deliveries of one autoscaler. -/
def ofResource {ρ : Type} (r : AutoscalerRef) (l : List (Delivery ρ)) : List (Delivery ρ) :=
  l.filter fun d => d.resource = r

theorem ofResource_append {ρ : Type} {r : AutoscalerRef} (l m : List (Delivery ρ)) :
    ofResource r (l ++ m) = ofResource r l ++ ofResource r m :=
  List.filter_append ..

namespace Scheduler

variable {κ ρ : Type} {s t : Scheduler κ ρ} {a : SchedulerAction κ ρ}
  {as : List (SchedulerAction κ ρ)} {r : AutoscalerRef}

/-! ### Slots that are left alone -/

theorem table_step (h : Step s a t) (ha : a.owner? = none) : t.table = s.table := by
  cases h with
  | add r m c => cases ha
  | remove r => cases ha
  | retain r keep => cases ha
  | _ => rfl

theorem table_reaches (run : Traced.Reaches step? s as t) (h : ∀ a ∈ as, a.owner? = none) :
    t.table = s.table := by
  induction run with
  | refl => rfl
  | @step as t a next _ hstep ih =>
      have earlier : t.table = s.table := ih fun b hb => h b (List.mem_append_left [a] hb)
      exact (table_step (step_of_step? hstep) (h a (by simp))).trans earlier

/-- The slots of an autoscaler change by work on them only. -/
theorem slots_step (h : Step s a t) (ha : a.owner? ≠ some r) : t.slots r = s.slots r := by
  have hother : ∀ {r'}, a.owner? = some r' → r ≠ r' := by
    rintro r' ho rfl
    exact ha ho
  cases h with
  | add r' m c => exact (slots_enter _ r' r m c).trans (if_neg (hother rfl))
  | remove r' => exact (slots_withdraw s r' r _).trans (if_neg (hother rfl))
  | retain r' keep => exact (slots_withdraw s r' r _).trans (if_neg (hother rfl))
  | _ => rfl

/-- Work on the slots of an autoscaler does not touch the pollers of another one. -/
theorem Coherent.getElem?_step (coherent : s.Coherent) (h : Step s a t) {r' : AutoscalerRef}
    (ha : a.owner? = some r') (hr : r ≠ r') {m : MetricRef} {i : Nat}
    (ho : s.occupant? r m = some i) : t.pollers[i]? = s.pollers[i]? := by
  have cancelIf_false : (fun p : Poller κ ρ => p.cancelIf false) = id := by
    funext p
    simp [Poller.cancelIf]
  have withdrawn : ∀ keep, (s.withdraw r' keep).pollers[i]? = s.pollers[i]? := by
    intro keep
    have hspared : ((s.slots r').filter fun metric _ => !keep metric).values.contains i =
        false := by
      rw [Bool.eq_false_iff, ne_eq, List.contains_iff_mem, mem_withdrawn_iff]
      rintro ⟨m', ho', -⟩
      exact hr (coherent.occupant_unique ho ho').1
    change (s.cancel _).pollers[i]? = _
    rw [getElem?_cancel, hspared, cancelIf_false, Option.map_id_apply]
  cases h with
  | add r₀ m' c =>
      obtain rfl := Option.some.inj ha
      have hspared : (s.occupant? r₀ m' == some i) = false := by
        rw [beq_eq_false_iff_ne]
        intro ho'
        exact hr (coherent.occupant_unique ho ho').1
      rw [getElem?_replace, if_neg (Nat.ne_of_lt (coherent.occupant_lt ho)), hspared,
        cancelIf_false, Option.map_id_apply]
  | remove r₀ =>
      obtain rfl := Option.some.inj ha
      exact withdrawn _
  | retain r₀ keep =>
      obtain rfl := Option.some.inj ha
      exact withdrawn _
  | _ => cases ha

/-- The slots of an autoscaler and their pollers stay as they are as long as only slots of others
are worked on. -/
theorem Coherent.slots_reaches (coherent : s.Coherent) (run : Traced.Reaches step? s as t)
    (others : ∀ x ∈ as, ∃ r', x.owner? = some r' ∧ r ≠ r') :
    t.slots r = s.slots r ∧
      ∀ m i, s.occupant? r m = some i → t.pollers[i]? = s.pollers[i]? := by
  induction run with
  | refl => exact ⟨rfl, fun _ _ _ => rfl⟩
  | @step as t a next before h ih =>
      obtain ⟨hslots, hpollers⟩ := ih fun x hx => others x (List.mem_append_left [a] hx)
      obtain ⟨r', ha, hr⟩ := others a (by simp)
      have hstep := step_of_step? h
      have hsame : next.value.slots r = t.slots r := by
        apply slots_step hstep
        rw [ha]
        exact fun heq => hr (Option.some.inj heq).symm
      refine ⟨hsame.trans hslots, ?_⟩
      intro m i ho
      have hocc : t.occupant? r m = some i := by
        rw [occupant?, hslots]
        exact ho
      calc
        next.value.pollers[i]? = t.pollers[i]? :=
          (coherent.reaches before).getElem?_step hstep ha hr hocc
        _ = s.pollers[i]? := hpollers m i ho

/-! ### Autoscalers without slots -/

/-- No poller of an autoscaler is left that is not cancelled. -/
def Silent (s : Scheduler κ ρ) (r : AutoscalerRef) : Prop :=
  ∀ (i : Nat) p, s.pollers[i]? = some p → p.resource = r → p.cancelled = true

theorem slots_of_not_mem_resources (h : r ∉ s.resources) : s.slots r = ∅ := by
  rw [resources, SortedMap.mem_keys_iff] at h
  rw [slots, Option.eq_none_iff_forall_ne_some.mpr fun row hrow => h ⟨row, hrow⟩]
  rfl

theorem Coherent.silent (h : s.Coherent) (hslots : s.slots r = ∅) : s.Silent r := by
  rintro i p hp rfl
  by_contra hc
  have ho := h.placed i p hp (Bool.eq_false_iff.mpr hc)
  rw [occupant?, hslots] at ho
  cases ho

/-- A poller without a predecessor was added by the step. -/
theorem added_of_new (h : Step s a t) {i : Nat} {p : Poller κ ρ} (hp : t.pollers[i]? = some p)
    (hi : s.pollers.length ≤ i) : a.added? = some p.assignment := by
  have hassigned : (t.pollers.map Poller.assignment)[i]? = some p.assignment := by
    rw [List.getElem?_map, hp, Option.map_some]
  rw [assignments_step h, List.getElem?_append_right (by simpa using hi)] at hassigned
  exact Option.mem_toList.mp (List.mem_of_getElem? hassigned)

theorem Silent.step (h : s.Silent r) (hstep : Step s a t) (unadded : ∀ m c, a ≠ .add r m c) :
    t.Silent r := by
  rintro i q hq rfl
  -- An old poller stays cancelled, and a new one was added for another autoscaler.
  rcases Nat.lt_or_ge i s.pollers.length with hi | hi
  · obtain ⟨q', hq', hassigned, hkeep⟩ := poller_step hstep (List.getElem?_eq_getElem hi)
    obtain rfl : q = q' := Option.some.inj (hq.symm.trans hq')
    have hresource : s.pollers[i].resource = q.resource := (congrArg (·.1) hassigned).symm
    exact hkeep (h i _ (List.getElem?_eq_getElem hi) hresource)
  · have hadded := added_of_new hstep hq hi
    cases a with
    | add r m c =>
        obtain ⟨rfl, -⟩ := Prod.mk.inj (Option.some.inj hadded)
        exact absurd rfl (unadded m c)
    | _ => cases hadded

theorem Silent.reaches (h : s.Silent r) (run : Traced.Reaches step? s as t)
    (unadded : ∀ m c, .add r m c ∉ as) : t.Silent r := by
  induction run with
  | refl => exact h
  | step _ hstep ih =>
      refine (ih fun m c hm => unadded m c (List.mem_append_left _ hm)).step
        (step_of_step? hstep) ?_
      rintro m c rfl
      exact unadded m c (by simp)

/-! ### The channel -/

/-- What a step hands to the reader and leaves in the channel was in the channel or is sent by the
step. Nothing is lost as long as there is a reader. -/
theorem queue_step (h : Step s a t) :
    s.hands a ++ t.queue <+: s.queue ++ s.sends a ∧
      (t.isOpen = true → s.hands a ++ t.queue = s.queue ++ s.sends a) := by
  have moved : ∀ {l l' : List (Delivery ρ)}, l = l' → l <+: l' ∧ (t.isOpen = true → l = l') := by
    rintro l _ rfl
    exact ⟨List.prefix_rfl, fun _ => rfl⟩
  cases h with
  | close => exact ⟨List.nil_prefix, nofun⟩
  | receive hqueue hopen =>
      apply moved
      simp [hands, sends, receive?, hqueue, hopen]
  | accept hp hphase _ _ =>
      apply moved
      rw [sends_accept hp hphase]
      rfl
  | _ => exact moved (List.append_nil _).symm

/-- The results that pollers of an autoscaler are about to put into the channel. -/
def flights (s : Scheduler κ ρ) (r : AutoscalerRef) : List (Delivery ρ) :=
  ofResource r ((List.range s.pollers.length).flatMap s.flight)

theorem mem_flights_iff {d : Delivery ρ} :
    d ∈ s.flights r ↔ d ∈ s.flight d.poller ∧ d.resource = r := by
  rw [flights, ofResource, List.mem_filter, List.mem_flatMap, decide_eq_true_eq]
  refine and_congr_left fun _ => ⟨?_, fun hd => ⟨d.poller, ?_, hd⟩⟩
  · rintro ⟨i, -, hd⟩
    exact (of_mem_flight hd).1 ▸ hd
  · obtain ⟨-, p, hp, -⟩ := of_mem_flight hd
    exact List.mem_range.mpr (List.getElem?_eq_some_iff.mp hp).1

theorem Silent.unlooked (h : s.Silent r) (run : Traced.Reaches step? s as t)
    (unadded : ∀ m c, .add r m c ∉ as) {i : Nat} {q : Poller κ ρ} (hq : t.pollers[i]? = some q)
    (hr : q.resource = r) : .look i ∉ as := by
  intro hlook
  obtain ⟨before, after, u, p, rfl, first, later, hp, hlive⟩ := live_of_look run hlook
  obtain ⟨q', hq', hassigned, -⟩ := poller_reaches later hp
  obtain rfl : q = q' := Option.some.inj (hq.symm.trans hq')
  have silent : u.Silent r :=
    h.reaches first fun m c hm => unadded m c (List.mem_append_left _ hm)
  have hresource : p.resource = r := (congrArg (·.1) hassigned).symm.trans hr
  exact Bool.false_ne_true (hlive.symm.trans (silent i p hp hresource))

/-- Pollers of a silent autoscaler send what they have on their way at most. -/
theorem Silent.sent (h : s.Silent r) (run : Traced.Reaches step? s as t)
    (unadded : ∀ m c, .add r m c ∉ as) : (ofResource r (s.sent as)).Subperm (s.flights r) := by
  have flown : ∀ d ∈ ofResource r (s.sent as),
      ofPoller d.poller (s.sent as) <+: s.flight d.poller := by
    intro d hd
    obtain ⟨hsent, hr⟩ := List.mem_filter.mp hd
    obtain ⟨q, hq, hqr, -⟩ := tagged_reaches run d hsent
    have unlooked := h.unlooked run unadded hq (hqr.trans (of_decide_eq_true hr))
    exact (List.prefix_append _ _).trans (sent_of_unlooked run unlooked)
  apply List.Nodup.subperm
  · rw [List.nodup_iff_sublist]
    intro d htwice
    -- Two copies of a delivery would be two results of one poller on their way.
    have twice := (htwice.trans List.filter_sublist).filter fun e => decide (e.poller = d.poller)
    have few := twice.length_le.trans
      ((flown d (htwice.subset List.mem_cons_self)).length_le.trans (length_flight_le s d.poller))
    simp at few
  · intro d hd
    obtain ⟨hsent, hr⟩ := List.mem_filter.mp hd
    have mine : d ∈ ofPoller d.poller (s.sent as) :=
      List.mem_filter.mpr ⟨hsent, decide_eq_true rfl⟩
    exact mem_flights_iff.mpr ⟨(flown d hd).subset mine, of_decide_eq_true hr⟩

/-- As long as no poller is added for an autoscaler that has none but cancelled ones, the reader
receives those of its results that are in the channel already, in order, and then at most those that
are on their way to it. -/
theorem Silent.received (h : s.Silent r) (run : Traced.Reaches step? s as t)
    (unadded : ∀ m c, .add r m c ∉ as) :
    ∃ late, late.Subperm (s.flights r) ∧
      ofResource r (s.received as) ++ ofResource r t.queue <+: ofResource r s.queue ++ late ∧
      (t.isOpen = true →
        ofResource r (s.received as) ++ ofResource r t.queue = ofResource r s.queue ++ late) := by
  have conserved := conserved_reaches run
  refine ⟨ofResource r (s.sent as), h.sent run unadded, ?_⟩
  rw [← ofResource_append, ← ofResource_append]
  exact ⟨conserved.arrived.filter _, fun hopen => congrArg _ (conserved.complete hopen)⟩

theorem capacity_step (h : Step s a t) : t.capacity = s.capacity := by
  cases h with
  | _ => rfl

theorem length_queue_step (h : Step s a t) (hs : s.queue.length ≤ s.capacity) :
    t.queue.length ≤ s.capacity := by
  cases h with
  | close => exact Nat.zero_le _
  | receive hqueue _ =>
      rw [hqueue] at hs
      exact Nat.le_of_succ_le hs
  | accept _ _ _ hroom =>
      rw [List.length_append]
      exact hroom
  | _ => exact hs

/-- The channel never holds more results than it has room for. -/
theorem length_queue_reaches {n : Nat} (run : Traced.Reaches step? (create n) as t) :
    t.queue.length ≤ max n 1 := by
  have bounded : t.capacity = max n 1 ∧ t.queue.length ≤ t.capacity := by
    induction run with
    | refl => exact ⟨rfl, Nat.zero_le _⟩
    | step _ h ih =>
        have hstep := step_of_step? h
        rw [capacity_step hstep]
        exact ⟨ih.1, length_queue_step hstep ih.2⟩
  exact bounded.1 ▸ bounded.2

/-- Of an autoscaler that has no slots, and is given none, the reader receives the results in the
channel and on their way, and no others. Its pollers may be anywhere. -/
theorem received_of_slots_empty {n : Nat} {bs : List (SchedulerAction κ ρ)} {u : Scheduler κ ρ}
    (run : Traced.Reaches step? (create n) as s) (hslots : s.slots r = ∅)
    (later : Traced.Reaches step? s bs u) (unadded : ∀ m c, .add r m c ∉ bs) :
    ∃ late, late.Subperm (s.flights r) ∧
      ofResource r (s.received bs) ++ ofResource r u.queue <+: ofResource r s.queue ++ late ∧
      (u.isOpen = true →
        ofResource r (s.received bs) ++ ofResource r u.queue = ofResource r s.queue ++ late) ∧
      (ofResource r (s.received bs)).length ≤ max n 1 + (s.flights r).length := by
  have silent := ((coherent_create n).reaches run).silent hslots
  obtain ⟨late, flown, received, complete⟩ := silent.received later unadded
  refine ⟨late, flown, received, complete, ?_⟩
  have queued : (ofResource r s.queue).length ≤ max n 1 :=
    (List.length_filter_le _ _).trans (length_queue_reaches run)
  calc
    (ofResource r (s.received bs)).length ≤ (ofResource r s.queue ++ late).length :=
      ((List.prefix_append _ _).trans received).length_le
    _ = (ofResource r s.queue).length + late.length := List.length_append
    _ ≤ max n 1 + (s.flights r).length := Nat.add_le_add queued flown.length_le

end Scheduler

end ScalingMetrics
