import ScalingMetrics.Proofs.Scheduler.Deliveries

/-!
# The order of deliveries

A poller that is cancelled sends one more result at most, and only if it had looked before. Nothing
else is out of order: the results of one poller arrive in the order of its polls, and those of a
slot in the order in which its pollers were added, but for such a last result.
-/

namespace ScalingMetrics

namespace Scheduler

variable {κ ρ : Type} {s t : Scheduler κ ρ} {a : SchedulerAction κ ρ}
  {as : List (SchedulerAction κ ρ)} {i : Nat}

/-! ### Results on their way -/

theorem length_flight_le (s : Scheduler κ ρ) (i : Nat) : (s.flight i).length ≤ 1 := by
  rw [flight]
  cases s.pollers[i]? with
  | none => exact Nat.zero_le 1
  | some p =>
      rw [Option.elim_some, Poller.flight]
      split
      · exact Nat.le_refl 1
      · exact Nat.zero_le 1

/-- A result on its way has its poller's number and names its slot. -/
theorem of_mem_flight {d : Delivery ρ} (hd : d ∈ s.flight i) :
    d.poller = i ∧ ∃ p, s.pollers[i]? = some p ∧ p.resource = d.resource ∧ p.metric = d.metric := by
  rw [flight] at hd
  cases hp : s.pollers[i]? with
  | none => simp [hp] at hd
  | some p =>
      rw [hp, Option.elim_some, Poller.flight] at hd
      split at hd
      · obtain rfl := List.mem_singleton.mp hd
        exact ⟨rfl, p, rfl, rfl, rfl⟩
      · cases hd

theorem ofPoller_flight (s : Scheduler κ ρ) (i : Nat) : ofPoller i (s.flight i) = s.flight i :=
  List.filter_eq_self.mpr fun _ hd => decide_eq_true (of_mem_flight hd).1

theorem flight_of_kept (h : ∀ q, t.pollers[i]? = some q → q.flight i = [] ∨
    ∃ p, s.pollers[i]? = some p ∧ q.flight i = p.flight i) : t.flight i <+: s.flight i := by
  rw [flight, flight]
  cases hq : t.pollers[i]? with
  | none => exact List.nil_prefix
  | some q =>
      rw [Option.elim_some]
      rcases h q hq with hnone | ⟨p, hp, hsame⟩
      · exact hnone ▸ List.nil_prefix
      · simp only [hp, Option.elim_some, hsame, List.prefix_rfl]

theorem flight_set {p p' : Poller κ ρ} (hp : s.pollers[i]? = some p)
    (hpollers : t.pollers = s.pollers.set i p') : t.flight i = p'.flight i := by
  rw [flight, hpollers, (getElem?_set_iff hp).mpr (.inl ⟨rfl, rfl⟩), Option.elim_some]

/-- A result gets on its way when its poller looks. It leaves by being sent or with its poller. -/
theorem flight_step (h : Step s a t) (unlooked : a ≠ .look i) :
    ofPoller i (s.sends a) ++ t.flight i <+: s.flight i := by
  have updated : ∀ {j : Nat} {p p' : Poller κ ρ}, s.pollers[j]? = some p →
      t.pollers = s.pollers.set j p' → p'.flight j = [] ∨ j ≠ i → t.flight i <+: s.flight i := by
    intro j p p' hp hpollers hlanded
    apply flight_of_kept
    intro q hq
    rw [hpollers] at hq
    rcases (getElem?_set_iff hp).mp hq with ⟨rfl, rfl⟩ | ⟨-, hq⟩
    · exact .inl (hlanded.resolve_right (· rfl))
    · exact .inr ⟨q, hq, rfl⟩
  have cancelled : ∀ numbers, t.pollers = (s.cancel numbers).pollers →
      t.flight i <+: s.flight i := by
    intro numbers hpollers
    apply flight_of_kept
    intro q hq
    rw [hpollers, getElem?_cancel] at hq
    obtain ⟨p, hp, rfl⟩ := Option.map_eq_some_iff.mp hq
    exact .inr ⟨p, hp, rfl⟩
  cases h with
  | add r m c =>
      apply flight_of_kept
      intro q hq
      rw [getElem?_replace] at hq
      split at hq
      · obtain rfl := Option.some.inj hq
        exact .inl rfl
      · obtain ⟨p, hp, rfl⟩ := Option.map_eq_some_iff.mp hq
        exact .inr ⟨p, hp, rfl⟩
  | remove r => exact cancelled _ rfl
  | retain r keep => exact cancelled _ rfl
  | cancelRoot =>
      apply flight_of_kept
      intro q hq
      rw [cancelRoot, List.getElem?_map] at hq
      obtain ⟨p, hp, rfl⟩ := Option.map_eq_some_iff.mp hq
      exact .inr ⟨p, hp, rfl⟩
  | close => exact List.prefix_rfl
  | receive _ _ => exact List.prefix_rfl
  | elapse d => exact List.prefix_rfl
  | start hp _ => exact updated hp rfl (.inl rfl)
  | offer hp _ _ => exact updated hp rfl (.inl rfl)
  | wake hp _ _ _ => exact updated hp rfl (.inl rfl)
  | discard hp _ _ => exact updated hp rfl (.inl rfl)
  | stop hp _ => exact updated hp rfl (.inl rfl)
  | look hp _ _ => exact updated hp rfl (.inr fun hj => unlooked (congrArg _ hj))
  | @accept j p interval result hp hphase _ _ =>
      by_cases hj : j = i
      · subst hj
        have landed : ∀ {u : Scheduler κ ρ}, u.flight j = [] →
            ofPoller j (s.flight j) ++ u.flight j <+: s.flight j := by
          intro u hu
          simp only [hu, ofPoller_flight, List.append_nil, List.prefix_rfl]
        exact landed ((flight_set hp rfl).trans rfl)
      · have others : ofPoller i (s.sends (.accept j interval)) = [] := by
          rw [sends_accept hp hphase]
          simp [ofPoller, hj]
        rw [others]
        exact updated hp rfl (.inr hj)

/-- A poller that does not look sends no more than what it has on its way. -/
theorem sent_of_unlooked (run : Traced.Reaches step? s as t) (unlooked : .look i ∉ as) :
    ofPoller i (s.sent as) ++ t.flight i <+: s.flight i := by
  induction run with
  | refl => exact List.prefix_rfl
  | @step as t a next before h ih =>
      rw [List.mem_append, List.mem_singleton, not_or] at unlooked
      have last := flight_step (step_of_step? h) (Ne.symm unlooked.2)
      rw [sent_step before h, ofPoller_append, List.append_assoc]
      exact ((List.prefix_append_right_inj _).mpr last).trans (ih unlooked.1)

/-! ### Cancelled pollers -/

/-- A poller that looks and goes on is not cancelled then. -/
theorem live_of_look (run : Traced.Reaches step? s as t) (hlook : .look i ∈ as) :
    ∃ before after u p, as = before ++ .look i :: after ∧ Traced.Reaches step? s before u ∧
      Traced.Reaches step? u (.look i :: after) t ∧ u.pollers[i]? = some p ∧
      p.cancelled = false := by
  obtain ⟨before, after, rfl⟩ := List.append_of_mem hlook
  obtain ⟨u, first, later⟩ := run.split
  obtain ⟨next, hnext, -⟩ := later.cons_inv
  have looked := step_of_step? hnext
  generalize next.value = v at looked
  cases looked with
  | look hp _ hlive => exact ⟨before, after, u, _, rfl, first, later, hp, hlive⟩

/-- A cancelled poller sends the result that it has on its way at most. -/
theorem sent_of_cancelled {p : Poller κ ρ} (run : Traced.Reaches step? s as t)
    (hp : s.pollers[i]? = some p) (hc : p.cancelled = true) :
    ofPoller i (s.sent as) <+: s.flight i := by
  have unlooked : .look i ∉ as := by
    intro hlook
    obtain ⟨_, _, u, q, -, first, -, hq, hlive⟩ := live_of_look run hlook
    obtain ⟨q', hq', -, hkeep⟩ := poller_reaches first hp
    obtain rfl : q = q' := Option.some.inj (hq.symm.trans hq')
    exact Bool.false_ne_true (hlive.symm.trans (hkeep hc))
  exact (List.prefix_append _ _).trans (sent_of_unlooked run unlooked)

/-- Once the root is cancelled, every poller sends the result that it has on its way at most, and
pollers added later send none. -/
theorem sent_of_rootCancelled (coherent : s.Coherent) (run : Traced.Reaches step? s as t)
    (hroot : s.rootCancelled = true) (i : Nat) : ofPoller i (s.sent as) <+: s.flight i := by
  have unlooked : .look i ∉ as := by
    intro hlook
    obtain ⟨_, _, u, q, -, first, -, hq, hlive⟩ := live_of_look run hlook
    have rooted : u.rootCancelled = true := (rootCancelled_reaches first).mpr (.inl hroot)
    exact Bool.false_ne_true (hlive.symm.trans ((coherent.reaches first).root rooted i q hq))
  exact (List.prefix_append _ _).trans (sent_of_unlooked run unlooked)

/-! ### The order of a slot -/

private theorem eq_singleton_of_mem {α : Type} {l : List α} {x : α} (h : l.length ≤ 1)
    (hx : x ∈ l) : l = [x] := by
  match l with
  | [] => cases hx
  | [y] => rw [List.mem_singleton.mp hx]
  | _ :: _ :: _ => simp at h

/-- A poller that is not the last one of its slot is cancelled. -/
theorem Coherent.cancelled_of_lt (h : s.Coherent) {j : Nat} {p q : Poller κ ρ}
    (hp : s.pollers[i]? = some p) (hq : s.pollers[j]? = some q) (hr : p.resource = q.resource)
    (hm : p.metric = q.metric) (hij : i < j) : p.cancelled = true := by
  by_contra hlive
  have ho := h.placed i p hp (Bool.eq_false_iff.mpr hlive)
  exact Nat.not_le.mpr hij (h.latest _ _ i j q ho hq hr.symm hm.symm)

/-- After a result of a later poller of its slot, a poller sends one result at most. -/
theorem sent_after_later {n : Nat} {l l' : List (Delivery ρ)} {d e : Delivery ρ}
    (run : Traced.Reaches step? (create n) as t) (hsent : (create n).sent as = l ++ d :: l')
    (he : e ∈ l') (hr : e.resource = d.resource) (hm : e.metric = d.metric)
    (hlt : e.poller < d.poller) : ofPoller e.poller l' = [e] := by
  have hmem : e ∈ (create n).sent as :=
    hsent ▸ List.mem_append_right l (List.mem_cons_of_mem d he)
  obtain ⟨before, a, after, s, next, m, m', rfl, reached, h, hd, rfl⟩ :=
    Traced.exists_of_gather_eq hsent
  obtain ⟨s', reached', later⟩ := run.split
  obtain rfl := reached.unique reached'
  obtain ⟨next', h', rest⟩ := later.cons_inv
  obtain rfl : next = next' := Option.some.inj (h.symm.trans h')
  rcases sends_eq_nil_or (step_of_step? h) with hnone | ⟨j, p, result, hp, -, hone⟩
  · simp [hnone] at hd
  · obtain ⟨rfl, hcons⟩ : m = [] ∧ d :: m' = [⟨j, p.polls, p.resource, p.metric, result⟩] := by
      simpa using List.append_eq_singleton_iff.mp (hd.symm.trans hone)
    obtain ⟨rfl, rfl⟩ := List.cons.inj hcons
    have hlen : e.poller < s.pollers.length := hlt.trans (List.getElem?_eq_some_iff.mp hp).1
    have hq := List.getElem?_eq_getElem hlen
    -- When the later poller sends, the earlier one is cancelled already.
    have hslot : s.pollers[e.poller].resource = e.resource ∧
        s.pollers[e.poller].metric = e.metric := by
      obtain ⟨q, hfinal, hqr, hqm⟩ := tagged_reaches run e hmem
      obtain ⟨q', hq', hassigned, -⟩ := poller_reaches later hq
      obtain rfl : q = q' := Option.some.inj (hfinal.symm.trans hq')
      simp only [Poller.assignment, Prod.mk.injEq] at hassigned
      exact ⟨hassigned.1.symm.trans hqr, hassigned.2.1.symm.trans hqm⟩
    have hcancelled : s.pollers[e.poller].cancelled = true :=
      ((coherent_create n).reaches reached).cancelled_of_lt hq hp (hslot.1.trans hr)
        (hslot.2.trans hm) hlt
    obtain ⟨q, hnext, -, hkeep⟩ := poller_step (step_of_step? h) hq
    have few := (sent_of_cancelled rest hnext (hkeep hcancelled)).length_le.trans
      (length_flight_le next.value e.poller)
    have mine : e ∈ ofPoller e.poller (next.value.sent after) :=
      List.mem_filter.mpr ⟨he, decide_eq_true rfl⟩
    exact eq_singleton_of_mem few mine

/-! ### Runs -/

private theorem ordinals_of_prefix {l l' : List (Delivery ρ)} (h : l <+: l')
    (hl' : l'.map (·.ordinal) = List.range' 1 l'.length) :
    l.map (·.ordinal) = List.range' 1 l.length := by
  obtain ⟨rest, rfl⟩ := h
  rw [List.map_append, List.length_append, ← List.range'_append_1] at hl'
  exact (List.append_inj hl' (by simp)).1

theorem Accounted.results_begin {out : List (Delivery ρ)} (h : s.Accounted as out) (i : Nat) :
    (ofPoller i out).map (·.result) <+: answers i as := by
  cases hp : s.pollers[i]? with
  | some p => exact Phase.Accounts.sent_begins (h.accounts i p hp)
  | none =>
      rw [(h.unborn i (List.getElem?_eq_none_iff.mp hp)).2]
      exact List.nil_prefix

/-- The results of one poller are received in the order of its polls, without a gap, and those of a
slot in the order in which its pollers were added, but for the last one of a poller: it may come
after results of a later poller. A poller that is cancelled, or whose root is, sends no more than
the one result that it has on its way then. -/
theorem received_in_order {n : Nat} {last : Traced (Scheduler κ ρ)}
    (run : (create n).run? as = some last) :
    (∀ d ∈ (create n).received as, ∃ collector,
      (as.filterMap SchedulerAction.added?)[d.poller]? =
        some (d.resource, d.metric, collector)) ∧
    (∀ i, (ofPoller i ((create n).received as)).map (·.ordinal) =
        List.range' 1 (ofPoller i ((create n).received as)).length ∧
      (ofPoller i ((create n).received as)).map (·.result) <+: answers i as) ∧
    (∀ early d late, (create n).received as = early ++ d :: late →
      ∀ e ∈ late, e.resource = d.resource → e.metric = d.metric → e.poller < d.poller →
        ofPoller e.poller late = [e]) ∧
    (create n).received as ++ last.value.queue <+: (create n).sent as ∧
    (.close ∉ as → (create n).received as ++ last.value.queue = (create n).sent as) ∧
    ∀ before after (mid : Traced (Scheduler κ ρ)), as = before ++ after →
      (create n).run? before = some mid →
      (create n).sent as = (create n).sent before ++ mid.value.sent after ∧
      (∀ (i : Nat) p, mid.value.pollers[i]? = some p → p.cancelled = true →
        ofPoller i (mid.value.sent after) <+: mid.value.flight i) ∧
      (.cancelRoot ∈ before → ∀ i, ofPoller i (mid.value.sent after) <+: mid.value.flight i) := by
  have reached : Traced.Reaches step? (create n) as last.value := Traced.reaches_of_run? run
  have conserved := conserved_reaches reached
  have arrived : (create n).received as <+: (create n).sent as :=
    (List.prefix_append _ _).trans conserved.arrived
  have accounted := accounted_reaches reached
  have assigned := assignments_reaches reached
  refine ⟨?_, ?_, ?_, conserved.arrived, ?_, ?_⟩
  · intro d hd
    obtain ⟨p, hp, hr, hm⟩ := tagged_reaches reached d (arrived.subset hd)
    refine ⟨p.collector, ?_⟩
    have hadded : as.filterMap SchedulerAction.added? =
        last.value.pollers.map Poller.assignment := by
      rw [assigned]
      rfl
    rw [hadded, List.getElem?_map, hp, Option.map_some, Poller.assignment, hr, hm]
  · intro i
    have mine : ofPoller i ((create n).received as) <+: ofPoller i ((create n).sent as) :=
      arrived.filter _
    constructor
    · exact ordinals_of_prefix mine (accounted.numbered i)
    · exact (mine.map _).trans (accounted.results_begin i)
  · intro early d late hsplit e he hr hm hlt
    obtain ⟨unread, hsent⟩ := arrived
    rw [hsplit, List.append_assoc, List.cons_append] at hsent
    have single := sent_after_later reached hsent.symm (List.mem_append_left unread he) hr hm hlt
    have mine : e ∈ ofPoller e.poller late := List.mem_filter.mpr ⟨he, decide_eq_true rfl⟩
    rw [ofPoller_append] at single
    refine eq_singleton_of_mem ?_ mine
    exact (List.prefix_append _ _).length_le.trans_eq (congrArg List.length single)
  · intro noClose
    apply conserved.complete
    rw [← Bool.not_eq_false, isOpen_reaches reached]
    simpa [create] using noClose
  · rintro before after mid rfl hmid
    have first : Traced.Reaches step? (create n) before mid.value := Traced.reaches_of_run? hmid
    obtain ⟨t, first', second⟩ := Traced.Reaches.split reached
    obtain rfl := Traced.Reaches.unique first' first
    refine ⟨Traced.gather_append sends first, ?_, ?_⟩
    · intro i p hp hc
      exact sent_of_cancelled second hp hc
    · intro cancelled i
      exact sent_of_rootCancelled ((coherent_create n).reaches first) second
        ((rootCancelled_reaches first).mpr (.inr cancelled)) i

/-- A poller is replaced while its second result is on its way, and the first result of its
successor comes before. -/
def overtaking : List (SchedulerAction Nat Nat) :=
  let web : AutoscalerRef := ⟨"shop", "web"⟩
  let rps : MetricRef := ⟨.pods, "rps", none⟩
  [.add web rps 10, .start 0, .finish 0 7, .look 0, .accept 0 5, .elapse 5, .wake 0, .finish 0 9,
    .look 0, .add web rps 11, .start 1, .finish 1 8, .look 1, .accept 1 5, .accept 0 5, .stop 0,
    .receive, .receive, .receive]

theorem received_in_order_overtaken :
    ∃ last, (create 3).run? overtaking = some last ∧
      ((create 3).received overtaking).map (fun d => (d.poller, d.ordinal, d.result)) =
        [(0, 1, 7), (1, 1, 8), (0, 2, 9)] ∧
      (ofPoller 0 ((create 3).received overtaking)).map (·.ordinal) = [1, 2] := by
  obtain ⟨last, run, results⟩ : ∃ last, (create 3).run? overtaking = some last ∧
      ((create 3).received overtaking).map (fun d => (d.poller, d.ordinal, d.result)) =
        [(0, 1, 7), (1, 1, 8), (0, 2, 9)] := ⟨_, rfl, rfl⟩
  exact ⟨last, run, results, ((received_in_order run).2.1 0).1⟩

/-- The results of a slot need not come in the order of its pollers, and a cancelled poller may
still send. -/
theorem sent_although_cancelled :
    ∃ last mid p, (create 3).run? overtaking = some last ∧
      (create 3).run? (overtaking.take 10) = some mid ∧
      mid.value.pollers[0]? = some p ∧ p.cancelled = true ∧
      ofPoller 0 (mid.value.sent (overtaking.drop 10)) ≠ [] ∧
      ¬ ((create 3).received overtaking).Pairwise fun d e =>
        d.resource = e.resource → d.metric = e.metric → d.poller ≤ e.poller :=
  ⟨_, _, _, rfl, rfl, rfl, rfl, by decide, by decide⟩

end Scheduler

end ScalingMetrics
