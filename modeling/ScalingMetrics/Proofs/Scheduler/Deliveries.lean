import Mathlib.Data.List.Range
import ScalingMetrics.Proofs.Scheduler.Slots

/-!
# Deliveries

The results of one poller enter the channel in the order of its polls. The reader takes all results
out in the order in which they came in.

## Implementation notes

What was answered, sent and received is not part of the state. It is read off the actions of a run.
-/

namespace ScalingMetrics

/-- The answer that an action gives to a poll of a poller. -/
def SchedulerAction.answer? {κ ρ : Type} (i : Nat) : SchedulerAction κ ρ → Option ρ
  | .finish j result => if j = i then some result else none
  | _ => none

/-- The answers to the polls of a poller, in order. -/
def answers {κ ρ : Type} (i : Nat) (as : List (SchedulerAction κ ρ)) : List ρ :=
  as.filterMap (SchedulerAction.answer? i)

/-- The deliveries of one poller. -/
def ofPoller {ρ : Type} (i : Nat) (l : List (Delivery ρ)) : List (Delivery ρ) :=
  l.filter fun d => d.poller = i

/-- What a phase says of the number of polls begun, the answers to polls and the results sent. -/
def Phase.Accounts {ρ : Type} (phase : Phase ρ) (polls : Nat) (answered sent : List ρ) : Prop :=
  match phase with
  | .starting => polls = 0 ∧ answered = [] ∧ sent = []
  | .polling _ => polls = answered.length + 1 ∧ sent = answered
  | .offering result | .sending result => polls = answered.length ∧ answered = sent ++ [result]
  | .sleeping _ => polls = answered.length ∧ sent = answered
  | .ended => sent <+: answered

theorem Phase.Accounts.sent_begins {phase : Phase ρ} {polls : Nat} {answered sent : List ρ}
    (h : phase.Accounts polls answered sent) : sent <+: answered := by
  cases phase with
  | starting => exact h.2.2 ▸ List.nil_prefix
  | polling _ => exact h.2 ▸ List.prefix_rfl
  | offering result => exact h.2 ▸ List.prefix_append _ _
  | sending result => exact h.2 ▸ List.prefix_append _ _
  | sleeping _ => exact h.2 ▸ List.prefix_rfl
  | ended => exact h

/-- The result that a poller, by its number, is about to put into the channel. -/
def Poller.flight {κ ρ : Type} (i : Nat) (p : Poller κ ρ) : List (Delivery ρ) :=
  match p.phase with
  | .sending result => [⟨i, p.polls, p.resource, p.metric, result⟩]
  | _ => []

namespace Scheduler

variable {κ ρ : Type} {s t : Scheduler κ ρ} {a : SchedulerAction κ ρ}
  {as : List (SchedulerAction κ ρ)} {out : List (Delivery ρ)}

/-- The result that a poller is about to put into the channel. -/
def flight (s : Scheduler κ ρ) (i : Nat) : List (Delivery ρ) :=
  (s.pollers[i]?).elim [] (Poller.flight i)

/-- The results that an action puts into the channel. -/
def sends (s : Scheduler κ ρ) : SchedulerAction κ ρ → List (Delivery ρ)
  | .accept i _ => s.flight i
  | _ => []

/-- The results that an action hands to the reader. -/
def hands (s : Scheduler κ ρ) : SchedulerAction κ ρ → List (Delivery ρ)
  | .receive => (s.receive?.map (·.1)).toList
  | _ => []

/-- The results that a run puts into the channel. -/
def sent (s : Scheduler κ ρ) (as : List (SchedulerAction κ ρ)) : List (Delivery ρ) :=
  Traced.gather step? sends s as

/-- The results that the reader receives in a run. -/
def received (s : Scheduler κ ρ) (as : List (SchedulerAction κ ρ)) : List (Delivery ρ) :=
  Traced.gather step? hands s as

theorem sends_accept {i interval : Nat} {p : Poller κ ρ} {result : ρ}
    (hp : s.pollers[i]? = some p) (h : p.phase = .sending result) :
    s.sends (.accept i interval) = [⟨i, p.polls, p.resource, p.metric, result⟩] := by
  simp [sends, flight, Poller.flight, hp, h]

/-- What is sent is the result that its poller was about to send. -/
theorem sends_eq_nil_or (h : Step s a t) :
    s.sends a = [] ∨ ∃ i p result, s.pollers[i]? = some p ∧ p.phase = .sending result ∧
      s.sends a = [⟨i, p.polls, p.resource, p.metric, result⟩] := by
  cases h with
  | accept hp hphase _ _ => exact .inr ⟨_, _, _, hp, hphase, sends_accept hp hphase⟩
  | _ => exact .inl rfl

/-! ### Results and polls of one poller -/

/-- Every poller has sent what its polls were answered, in order, up to the point where it
stands. -/
structure Accounted (s : Scheduler κ ρ) (as : List (SchedulerAction κ ρ))
    (out : List (Delivery ρ)) : Prop where
  accounts : ∀ (i : Nat) p, s.pollers[i]? = some p →
    p.phase.Accounts p.polls (answers i as) ((ofPoller i out).map (·.result))
  numbered : ∀ i, (ofPoller i out).map (·.ordinal) = List.range' 1 (ofPoller i out).length
  unborn : ∀ i, s.pollers.length ≤ i → answers i as = [] ∧ ofPoller i out = []

theorem answers_append (i : Nat) (as bs : List (SchedulerAction κ ρ)) :
    answers i (as ++ bs) = answers i as ++ answers i bs :=
  List.filterMap_append

theorem ofPoller_append {i : Nat} (l m : List (Delivery ρ)) :
    ofPoller i (l ++ m) = ofPoller i l ++ ofPoller i m :=
  List.filter_append ..

theorem accounted_create (n : Nat) : Accounted (create n : Scheduler κ ρ) [] [] where
  accounts := by simp [create]
  numbered := by simp [ofPoller]
  unborn := by simp [answers, ofPoller]

namespace Accounted

/-- Actions that no poller notices, other than by being cancelled. -/
theorem keep (h : s.Accounted as out) (hlen : t.pollers.length = s.pollers.length)
    (hpollers : ∀ (i : Nat) q, t.pollers[i]? = some q →
      ∃ p, s.pollers[i]? = some p ∧ q.phase = p.phase ∧ q.polls = p.polls)
    (ha : ∀ i, answers i [a] = []) : t.Accounted (as ++ [a]) (out ++ []) := by
  have hans : ∀ i, answers i (as ++ [a]) = answers i as := by
    intro i
    rw [answers_append, ha, List.append_nil]
  rw [List.append_nil]
  refine ⟨?_, h.numbered, ?_⟩
  · intro i q hq
    obtain ⟨p, hp, hphase, hpolls⟩ := hpollers i q hq
    rw [hans, hphase, hpolls]
    exact h.accounts i p hp
  · intro i hi
    rw [hans]
    exact h.unborn i (hlen ▸ hi)

theorem keep_cancel (h : s.Accounted as out) (numbers : List Nat)
    (hpollers : t.pollers = (s.cancel numbers).pollers) (ha : ∀ i, answers i [a] = []) :
    t.Accounted (as ++ [a]) (out ++ []) := by
  refine h.keep ?_ ?_ ha
  · rw [hpollers, length_pollers_cancel]
  · intro i q hq
    rw [hpollers, getElem?_cancel] at hq
    obtain ⟨p, hp, rfl⟩ := Option.map_eq_some_iff.mp hq
    exact ⟨p, hp, rfl, rfl⟩

theorem add (h : s.Accounted as out) (r : AutoscalerRef) (m : MetricRef) (c : κ) :
    (s.replace r m c).Accounted (as ++ [.add r m c]) (out ++ []) := by
  have hans : ∀ i, answers i (as ++ [.add r m c]) = answers i as := by
    intro i
    exact (answers_append i as _).trans (List.append_nil _)
  rw [List.append_nil]
  refine ⟨?_, h.numbered, ?_⟩
  · intro i q hq
    rw [hans]
    rw [getElem?_replace] at hq
    split at hq
    · next hi =>
        obtain rfl := Option.some.inj hq
        obtain ⟨hanswers, hsent⟩ := h.unborn i (Nat.le_of_eq hi.symm)
        rw [hanswers, hsent]
        exact ⟨rfl, rfl, rfl⟩
    · obtain ⟨p, hp, rfl⟩ := Option.map_eq_some_iff.mp hq
      exact h.accounts i p hp
  · intro i hi
    rw [hans]
    apply h.unborn i
    rw [length_pollers_replace] at hi
    omega

/-- An action of one poller. -/
theorem advance (h : s.Accounted as out) {i : Nat} {p p' : Poller κ ρ}
    (hp : s.pollers[i]? = some p) (hpollers : t.pollers = s.pollers.set i p')
    {new : List (Delivery ρ)} (hans : ∀ j, j ≠ i → answers j [a] = [])
    (hnew : ∀ d ∈ new, d.poller = i)
    (haccounts : p'.phase.Accounts p'.polls (answers i as ++ answers i [a])
      ((ofPoller i out).map (·.result) ++ new.map (·.result)))
    (hnumbered : new.map (·.ordinal) =
      List.range' (1 + (ofPoller i out).length) new.length) :
    t.Accounted (as ++ [a]) (out ++ new) := by
  have hi : i < s.pollers.length := (List.getElem?_eq_some_iff.mp hp).1
  have hself : ofPoller i new = new :=
    List.filter_eq_self.mpr fun d hd => decide_eq_true (hnew d hd)
  have hother : ∀ j, j ≠ i → ofPoller j new = [] := by
    intro j hj
    refine List.filter_eq_nil_iff.mpr fun d hd => ?_
    simpa [hnew d hd] using Ne.symm hj
  refine ⟨?_, ?_, ?_⟩
  · intro j q hq
    rw [answers_append, ofPoller_append]
    rw [hpollers] at hq
    rcases (getElem?_set_iff hp).mp hq with ⟨rfl, rfl⟩ | ⟨hj, hq⟩
    · rw [hself, List.map_append]
      exact haccounts
    · rw [hans j hj, hother j hj, List.append_nil, List.append_nil]
      exact h.accounts j q hq
  · intro j
    rw [ofPoller_append]
    by_cases hj : j = i
    · subst hj
      rw [hself, List.map_append, h.numbered, hnumbered, List.length_append,
        List.range'_append_1]
    · rw [hother j hj, List.append_nil]
      exact h.numbered j
  · intro j hj
    rw [hpollers, List.length_set] at hj
    have hne : j ≠ i := by omega
    rw [answers_append, ofPoller_append, hans j hne, hother j hne, List.append_nil,
      List.append_nil]
    exact h.unborn j hj

/-- An action of one poller that sends nothing. -/
theorem advance_silent (h : s.Accounted as out) {i : Nat} {p p' : Poller κ ρ}
    (hp : s.pollers[i]? = some p) (hpollers : t.pollers = s.pollers.set i p')
    (hans : ∀ j, j ≠ i → answers j [a] = [])
    (haccounts : p'.phase.Accounts p'.polls (answers i as ++ answers i [a])
      ((ofPoller i out).map (·.result))) : t.Accounted (as ++ [a]) (out ++ []) := by
  refine h.advance hp hpollers hans (by simp) ?_ rfl
  rw [List.map_nil, List.append_nil]
  exact haccounts

private theorem answers_finish_ne {i j : Nat} {result : ρ} (h : j ≠ i) :
    answers j [(.finish i result : SchedulerAction κ ρ)] = [] := by
  simp [answers, SchedulerAction.answer?, Ne.symm h]

theorem answers_finish_self (i : Nat) (result : ρ) :
    answers i [(.finish i result : SchedulerAction κ ρ)] = [result] := by
  simp [answers, SchedulerAction.answer?]

private theorem accounts_of_phase (h : s.Accounted as out) {i : Nat} {p : Poller κ ρ}
    {phase : Phase ρ} (hp : s.pollers[i]? = some p) (hphase : p.phase = phase) :
    phase.Accounts p.polls (answers i as) ((ofPoller i out).map (·.result)) :=
  hphase ▸ h.accounts i p hp

theorem step (h : s.Accounted as out) (hstep : Step s a t) :
    t.Accounted (as ++ [a]) (out ++ s.sends a) := by
  cases hstep with
  | add r m c => exact h.add r m c
  | remove r => exact h.keep_cancel _ rfl fun _ => rfl
  | retain r keep => exact h.keep_cancel _ rfl fun _ => rfl
  | cancelRoot =>
      refine h.keep (List.length_map ..) ?_ fun _ => rfl
      intro i q hq
      rw [Scheduler.cancelRoot, List.getElem?_map] at hq
      obtain ⟨p, hp, rfl⟩ := Option.map_eq_some_iff.mp hq
      exact ⟨p, hp, rfl, rfl⟩
  | close => exact h.keep rfl (fun _ q hq => ⟨q, hq, rfl, rfl⟩) fun _ => rfl
  | receive _ _ => exact h.keep rfl (fun _ q hq => ⟨q, hq, rfl, rfl⟩) fun _ => rfl
  | elapse d => exact h.keep rfl (fun _ q hq => ⟨q, hq, rfl, rfl⟩) fun _ => rfl
  | @start i p hp hphase =>
      obtain ⟨hpolls, hanswers, hsent⟩ := h.accounts_of_phase hp hphase
      refine h.advance_silent hp rfl (fun _ _ => rfl) ?_
      rw [hanswers, hsent]
      exact ⟨congrArg (· + 1) hpolls, rfl⟩
  | @wake i p wakeAt hp hphase _ _ =>
      obtain ⟨hpolls, hsent⟩ := h.accounts_of_phase hp hphase
      refine h.advance_silent hp rfl (fun _ _ => rfl) ?_
      have hquiet : answers i [(.wake i : SchedulerAction κ ρ)] = [] := rfl
      rw [hquiet, List.append_nil]
      exact ⟨congrArg (· + 1) hpolls, hsent⟩
  | @discard i p since result hp hphase _ =>
      -- The last answer is dropped, and the poller sends nothing after it.
      obtain ⟨-, hsent⟩ := h.accounts_of_phase hp hphase
      refine h.advance_silent hp rfl (fun _ hj => answers_finish_ne hj) ?_
      rw [hsent]
      exact List.prefix_append _ _
  | @offer i p since result hp hphase _ =>
      obtain ⟨hpolls, hsent⟩ := h.accounts_of_phase hp hphase
      refine h.advance_silent hp rfl (fun _ hj => answers_finish_ne hj) ?_
      rw [answers_finish_self, hsent]
      exact ⟨by simpa using hpolls, rfl⟩
  | @look i p result hp hphase _ =>
      refine h.advance_silent hp rfl (fun _ _ => rfl) ?_
      have hquiet : answers i [(.look i : SchedulerAction κ ρ)] = [] := rfl
      rw [hquiet, List.append_nil]
      obtain ⟨hpolls, hanswers⟩ := h.accounts_of_phase hp hphase
      exact ⟨hpolls, hanswers⟩
  | @accept i p interval result hp hphase _ _ =>
      obtain ⟨hpolls, hanswers⟩ := h.accounts_of_phase hp hphase
      rw [sends_accept hp hphase]
      refine h.advance hp rfl (fun _ _ => rfl) (by simp) ?_ ?_
      · have hquiet : answers i [(.accept i interval : SchedulerAction κ ρ)] = [] := rfl
        rw [hquiet, List.append_nil]
        exact ⟨hpolls, hanswers.symm⟩
      · have hcount : p.polls = 1 + (ofPoller i out).length := by
          calc
            p.polls = (answers i as).length := hpolls
            _ = ((ofPoller i out).map (·.result) ++ [result]).length := by rw [hanswers]
            _ = 1 + (ofPoller i out).length := by
              rw [List.length_append, List.length_map, List.length_singleton, Nat.add_comm]
        simp [hcount]
  | @stop i p hp _ =>
      refine h.advance_silent hp rfl (fun _ _ => rfl) ?_
      have hquiet : answers i [(.stop i : SchedulerAction κ ρ)] = [] := rfl
      rw [hquiet, List.append_nil]
      exact (h.accounts i p hp).sent_begins

end Accounted

/-! ### Pollers and their deliveries -/

/-- What becomes of a poller in one step. -/
theorem poller_step (h : Step s a t) {i : Nat} {p : Poller κ ρ} (hp : s.pollers[i]? = some p) :
    ∃ q, t.pollers[i]? = some q ∧ q.assignment = p.assignment ∧
      (p.cancelled = true → q.cancelled = true) := by
  have hi : i < s.pollers.length := (List.getElem?_eq_some_iff.mp hp).1
  have cancelled : ∀ numbers, ∃ q, (s.cancel numbers).pollers[i]? = some q ∧
      q.assignment = p.assignment ∧ (p.cancelled = true → q.cancelled = true) := by
    intro numbers
    refine ⟨p.cancelIf (numbers.contains i), ?_, rfl, ?_⟩
    · rw [getElem?_cancel, hp, Option.map_some]
    · intro hc
      simp [Poller.cancelIf, hc]
  have updated : ∀ {j : Nat} {p₀ p' : Poller κ ρ}, s.pollers[j]? = some p₀ →
      p'.assignment = p₀.assignment → p'.cancelled = p₀.cancelled →
      ∃ q, (s.pollers.set j p')[i]? = some q ∧
        q.assignment = p.assignment ∧ (p.cancelled = true → q.cancelled = true) := by
    intro j p₀ p' hp₀ ha hc
    by_cases hj : i = j
    · subst hj
      obtain rfl : p₀ = p := Option.some.inj (hp₀.symm.trans hp)
      exact ⟨p', (getElem?_set_iff hp).mpr (.inl ⟨rfl, rfl⟩), ha, fun h => hc.trans h⟩
    · exact ⟨p, (getElem?_set_iff hp₀).mpr (.inr ⟨hj, hp⟩), rfl, id⟩
  cases h with
  | add r m c =>
      refine ⟨p.cancelIf (s.occupant? r m == some i), ?_, rfl, ?_⟩
      · rw [getElem?_replace, if_neg (Nat.ne_of_lt hi), hp, Option.map_some]
      · intro hc
        simp [Poller.cancelIf, hc]
  | remove r => exact cancelled _
  | retain r keep => exact cancelled _
  | cancelRoot =>
      refine ⟨{ p with cancelled := true }, ?_, rfl, fun _ => rfl⟩
      rw [Scheduler.cancelRoot, List.getElem?_map, hp, Option.map_some]
  | close => exact ⟨p, hp, rfl, id⟩
  | receive _ _ => exact ⟨p, hp, rfl, id⟩
  | elapse d => exact ⟨p, hp, rfl, id⟩
  | start hq _ => exact updated hq rfl rfl
  | offer hq _ _ => exact updated hq rfl rfl
  | look hq _ _ => exact updated hq rfl rfl
  | accept hq _ _ _ => exact updated hq rfl rfl
  | wake hq _ _ _ => exact updated hq rfl rfl
  | discard hq _ _ => exact updated hq rfl rfl
  | stop hq _ => exact updated hq rfl rfl

theorem poller_reaches {i : Nat} {p : Poller κ ρ} (run : Traced.Reaches step? s as t)
    (hp : s.pollers[i]? = some p) :
    ∃ q, t.pollers[i]? = some q ∧ q.assignment = p.assignment ∧
      (p.cancelled = true → q.cancelled = true) := by
  induction run with
  | refl => exact ⟨p, hp, rfl, id⟩
  | step _ h ih =>
      obtain ⟨q, hq, hassigned, hcancelled⟩ := ih
      obtain ⟨q', hq', hassigned', hcancelled'⟩ := poller_step (step_of_step? h) hq
      exact ⟨q', hq', hassigned'.trans hassigned, hcancelled' ∘ hcancelled⟩

/-- Deliveries name the slots of their pollers. -/
def Tagged (s : Scheduler κ ρ) (out : List (Delivery ρ)) : Prop :=
  ∀ d ∈ out, ∃ p, s.pollers[d.poller]? = some p ∧ p.resource = d.resource ∧ p.metric = d.metric

theorem Tagged.step (h : s.Tagged out) (hstep : Step s a t) : t.Tagged (out ++ s.sends a) := by
  have kept : ∀ (i : Nat) p, s.pollers[i]? = some p → ∃ q, t.pollers[i]? = some q ∧
      q.resource = p.resource ∧ q.metric = p.metric := by
    intro i p hp
    obtain ⟨q, hq, hassignment, -⟩ := poller_step hstep hp
    simp only [Poller.assignment, Prod.mk.injEq] at hassignment
    exact ⟨q, hq, hassignment.1, hassignment.2.1⟩
  intro d hd
  rcases List.mem_append.mp hd with hd | hd
  · obtain ⟨p, hp, hr, hm⟩ := h d hd
    obtain ⟨q, hq, hqr, hqm⟩ := kept d.poller p hp
    exact ⟨q, hq, hqr.trans hr, hqm.trans hm⟩
  · rcases sends_eq_nil_or hstep with hnone | ⟨i, p, result, hp, -, hone⟩
    · rw [hnone] at hd
      cases hd
    · rw [hone] at hd
      obtain rfl := List.mem_singleton.mp hd
      exact kept i p hp

/-- The reader has received the results that came into the channel, up to those still there. -/
structure Conserved (s : Scheduler κ ρ) (out got : List (Delivery ρ)) : Prop where
  arrived : got ++ s.queue <+: out
  complete : s.isOpen = true → got ++ s.queue = out

private theorem Conserved.keep {got : List (Delivery ρ)} (h : s.Conserved out got)
    (hqueue : t.queue = s.queue) (hopen : t.isOpen = s.isOpen) :
    t.Conserved (out ++ []) (got ++ []) := by
  rw [List.append_nil, List.append_nil]
  exact ⟨hqueue ▸ h.arrived, hqueue ▸ hopen ▸ h.complete⟩

theorem Conserved.step {got : List (Delivery ρ)} (h : s.Conserved out got)
    (hstep : Step s a t) : t.Conserved (out ++ s.sends a) (got ++ s.hands a) := by
  cases hstep with
  | close =>
      refine ⟨?_, nofun⟩
      change (got ++ []) ++ [] <+: out ++ []
      rw [List.append_nil, List.append_nil, List.append_nil]
      exact (List.prefix_append _ _).trans h.arrived
  | @receive d rest hqueue hopen =>
      have hands : s.hands .receive = [d] := by
        simp [Scheduler.hands, receive?, hqueue, hopen]
      have moved : (got ++ [d]) ++ rest = out := by
        rw [← h.complete hopen, hqueue, List.append_assoc, List.singleton_append]
      rw [hands]
      change Conserved _ (out ++ []) (got ++ [d])
      rw [List.append_nil]
      exact ⟨moved ▸ List.prefix_rfl, fun _ => moved⟩
  | @accept i p interval result hp hphase hopen hroom =>
      have moved : (got ++ []) ++ (s.queue ++ [⟨i, p.polls, p.resource, p.metric, result⟩]) =
          out ++ [⟨i, p.polls, p.resource, p.metric, result⟩] := by
        rw [List.append_nil, ← List.append_assoc, h.complete hopen]
      rw [sends_accept hp hphase]
      exact ⟨moved ▸ List.prefix_rfl, fun _ => moved⟩
  | add r m c => exact h.keep rfl rfl
  | remove r => exact h.keep rfl rfl
  | retain r keep => exact h.keep rfl rfl
  | cancelRoot => exact h.keep rfl rfl
  | elapse d => exact h.keep rfl rfl
  | start _ _ => exact h.keep rfl rfl
  | offer _ _ _ => exact h.keep rfl rfl
  | look _ _ _ => exact h.keep rfl rfl
  | wake _ _ _ _ => exact h.keep rfl rfl
  | discard _ _ _ => exact h.keep rfl rfl
  | stop _ _ => exact h.keep rfl rfl

/-! ### Runs -/

theorem sent_step {next : Traced (Scheduler κ ρ)} (before : Traced.Reaches step? s as t)
    (h : step? t a = some next) : s.sent (as ++ [a]) = s.sent as ++ t.sends a := by
  rw [sent, Traced.gather_append sends before, Traced.gather_single sends h, sent]

theorem received_step {next : Traced (Scheduler κ ρ)} (before : Traced.Reaches step? s as t)
    (h : step? t a = some next) : s.received (as ++ [a]) = s.received as ++ t.hands a := by
  rw [received, Traced.gather_append hands before, Traced.gather_single hands h, received]

theorem accounted_reaches {n : Nat} (run : Traced.Reaches step? (create n) as t) :
    t.Accounted as ((create n).sent as) := by
  induction run with
  | refl => exact accounted_create n
  | step before h ih =>
      rw [sent_step before h]
      exact ih.step (step_of_step? h)

theorem tagged_reaches (run : Traced.Reaches step? s as t) : t.Tagged (s.sent as) := by
  induction run with
  | refl => simp [sent, Tagged]
  | step before h ih =>
      rw [sent_step before h]
      exact ih.step (step_of_step? h)

theorem conserved_reaches (run : Traced.Reaches step? s as t) :
    t.Conserved (s.queue ++ s.sent as) (s.received as) := by
  induction run with
  | refl => exact ⟨(List.append_nil _).symm ▸ List.prefix_rfl, fun _ => (List.append_nil _).symm⟩
  | step before h ih =>
      rw [sent_step before h, received_step before h, ← List.append_assoc]
      exact ih.step (step_of_step? h)

end Scheduler

end ScalingMetrics
