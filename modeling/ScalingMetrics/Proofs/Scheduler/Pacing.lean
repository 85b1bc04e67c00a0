import ScalingMetrics.Proofs.Scheduler.Rows

/-!
# The pace of pollers

A poller takes turns on its own: it polls, waits for the channel to take the result, sleeps for the
interval that it then reads, and polls again. So its polls do not overlap, and the polls that it has
begun are one ahead of its results in the channel at most.

While nobody receives, every poll but the first of each poller needs a result that the channel has
taken. The room in the channel bounds the number of all polls, whatever time passes.

## Implementation notes

The bound on all polls is kept by a potential: the polls begun and the pollers that sleep are
together no more than the results sent and the pollers begun.
-/

namespace ScalingMetrics

namespace SchedulerAction

variable {κ ρ : Type}

/-- The poller that an action is an action of. -/
def actor? : SchedulerAction κ ρ → Option Nat
  | start i | finish i _ | look i | accept i _ | stop i | wake i => some i
  | _ => none

/-- The poller that begins a poll. -/
def begins? : SchedulerAction κ ρ → Option Nat
  | start i | wake i => some i
  | _ => none

/-- Whether a poller begins its first poll. -/
def isStart : SchedulerAction κ ρ → Bool
  | start _ => true
  | _ => false

theorem actor?_of_begins? {a : SchedulerAction κ ρ} {i : Nat} (h : a.begins? = some i) :
    a.actor? = some i := by
  cases a with
  | start j => exact h
  | wake j => exact h
  | _ => cases h

end SchedulerAction

/-- The number of polls that a poller begins. -/
def begun {κ ρ : Type} (i : Nat) (as : List (SchedulerAction κ ρ)) : Nat :=
  as.countP fun a => a.begins? = some i

/-- The number of polls that begin. -/
def pollsBegun {κ ρ : Type} (as : List (SchedulerAction κ ρ)) : Nat :=
  as.countP fun a => a.begins?.isSome

/-- The number of pollers that begin. -/
def pollersBegun {κ ρ : Type} (as : List (SchedulerAction κ ρ)) : Nat :=
  as.countP SchedulerAction.isStart

theorem begun_append {κ ρ : Type} (i : Nat) (as bs : List (SchedulerAction κ ρ)) :
    begun i (as ++ bs) = begun i as + begun i bs :=
  List.countP_append

theorem pollsBegun_append {κ ρ : Type} (as bs : List (SchedulerAction κ ρ)) :
    pollsBegun (as ++ bs) = pollsBegun as + pollsBegun bs :=
  List.countP_append

theorem pollersBegun_append {κ ρ : Type} (as bs : List (SchedulerAction κ ρ)) :
    pollersBegun (as ++ bs) = pollersBegun as + pollersBegun bs :=
  List.countP_append

/-- A turn of a poller, from where it stands and the polls it has begun. -/
inductive Turn {κ ρ : Type} (now i : Nat) :
    Phase ρ × Nat → SchedulerAction κ ρ → Phase ρ × Nat → Prop
  | start (polls) : Turn now i (.starting, polls) (.start i) (.polling now, polls + 1)
  | discard (since polls result) :
      Turn now i (.polling since, polls) (.finish i result) (.ended, polls)
  | offer (since polls result) :
      Turn now i (.polling since, polls) (.finish i result) (.offering result, polls)
  | look (result polls) : Turn now i (.offering result, polls) (.look i) (.sending result, polls)
  | accept (result polls interval) :
      Turn now i (.sending result, polls) (.accept i interval) (.sleeping (now + interval), polls)
  | giveUp (result polls) : Turn now i (.offering result, polls) (.stop i) (.ended, polls)
  | fail (result polls) : Turn now i (.sending result, polls) (.stop i) (.ended, polls)
  | leave (wakeAt polls) : Turn now i (.sleeping wakeAt, polls) (.stop i) (.ended, polls)
  | wake (wakeAt polls) (slept : wakeAt ≤ now) :
      Turn now i (.sleeping wakeAt, polls) (.wake i) (.polling now, polls + 1)

namespace Phase

variable {ρ : Type}

def isSleeping : Phase ρ → Bool
  | sleeping _ => true
  | _ => false

def hasBegun : Phase ρ → Bool
  | starting => false
  | _ => true

/-- A poller that has not ended is one poll ahead of its answers and of its results sent at most. -/
theorem Accounts.length_bounds {phase : Phase ρ} {polls : Nat} {answered sent : List ρ}
    (h : phase.Accounts polls answered sent) (going : phase ≠ .ended) :
    answered.length ≤ polls ∧ polls ≤ answered.length + 1 ∧ polls ≤ sent.length + 1 := by
  cases phase with
  | starting =>
      obtain ⟨rfl, rfl, rfl⟩ := h
      exact ⟨Nat.le_refl 0, Nat.zero_le 1, Nat.zero_le 1⟩
  | polling since =>
      obtain ⟨rfl, rfl⟩ := h
      exact ⟨Nat.le_succ _, Nat.le_refl _, Nat.le_refl _⟩
  | offering result =>
      obtain ⟨rfl, rfl⟩ := h
      exact ⟨Nat.le_refl _, Nat.le_succ _, List.length_append.le⟩
  | sending result =>
      obtain ⟨rfl, rfl⟩ := h
      exact ⟨Nat.le_refl _, Nat.le_succ _, List.length_append.le⟩
  | sleeping wakeAt =>
      obtain ⟨rfl, rfl⟩ := h
      exact ⟨Nat.le_refl _, Nat.le_succ _, Nat.le_succ _⟩
  | ended => exact absurd rfl going

theorem hasBegun_of_isSleeping {phase : Phase ρ} (h : phase.isSleeping = true) :
    phase.hasBegun = true := by
  cases phase with
  | sleeping _ => rfl
  | _ => cases h

end Phase

namespace Scheduler

variable {κ ρ : Type} {s t u : Scheduler κ ρ} {a : SchedulerAction κ ρ}
  {as : List (SchedulerAction κ ρ)} {i n : Nat}

/-! ### Turns -/

/-- Where the pollers stand, with the polls that they have begun. -/
def standings (s : Scheduler κ ρ) : List (Phase ρ × Nat) :=
  s.pollers.map fun p => (p.phase, p.polls)

theorem standings_eq_some_iff {phase : Phase ρ} {polls : Nat} :
    s.standings[i]? = some (phase, polls) ↔
      ∃ p, s.pollers[i]? = some p ∧ p.phase = phase ∧ p.polls = polls := by
  rw [standings, List.getElem?_map, Option.map_eq_some_iff]
  simp only [Prod.mk.injEq]

theorem standings_cancel (s : Scheduler κ ρ) (numbers : List Nat) :
    (s.cancel numbers).standings = s.standings := by
  apply List.ext_getElem?
  intro i
  rw [standings, standings, List.getElem?_map, getElem?_cancel, List.getElem?_map, Option.map_map]
  rfl

/-- Work on the table only adds pollers that have not begun. -/
theorem standings_step (h : Step s a t) (ha : a.actor? = none) :
    t.standings = s.standings ∨ t.standings = s.standings ++ [(.starting, 0)] := by
  cases h with
  | add r m c =>
      right
      change ((s.cancel _).pollers ++ [_]).map _ = _
      rw [List.map_append]
      exact congrArg (· ++ [_]) (standings_cancel s _)
  | remove r => exact .inl (standings_cancel s _)
  | retain r keep => exact .inl (standings_cancel s _)
  | cancelRoot =>
      left
      change (s.pollers.map _).map _ = _
      rw [List.map_map]
      rfl
  | close => exact .inl rfl
  | receive _ _ => exact .inl rfl
  | elapse d => exact .inl rfl
  | _ => cases ha

/-- A poller acts in turns. -/
theorem turn_step (h : Step s a t) (ha : a.actor? = some i) :
    ∃ x y, s.standings[i]? = some x ∧ Turn s.now i x a y ∧
      t.standings = s.standings.set i y := by
  have taken : ∀ {j : Nat} {p p' : Poller κ ρ} {phase : Phase ρ}, s.pollers[j]? = some p →
      p.phase = phase → t.pollers = s.pollers.set j p' →
      Turn s.now j (phase, p.polls) a (p'.phase, p'.polls) → a.actor? = some j →
      ∃ x y, s.standings[i]? = some x ∧ Turn s.now i x a y ∧
        t.standings = s.standings.set i y := by
    intro j p p' phase hp hphase hpollers hturn hactor
    obtain rfl : j = i := Option.some.inj (hactor.symm.trans ha)
    refine ⟨_, _, standings_eq_some_iff.mpr ⟨p, hp, hphase, rfl⟩, hturn, ?_⟩
    rw [standings, hpollers, List.map_set]
    rfl
  cases h with
  | start hp hphase => exact taken hp hphase rfl (.start _) rfl
  | discard hp hphase _ => exact taken hp hphase rfl (.discard ..) rfl
  | offer hp hphase _ => exact taken hp hphase rfl (.offer ..) rfl
  | look hp hphase _ => exact taken hp hphase rfl (.look ..) rfl
  | accept hp hphase _ _ => exact taken hp hphase rfl (.accept ..) rfl
  | @stop j p hp hleaves =>
      cases hphase : p.phase with
      | offering result => exact taken hp hphase rfl (.giveUp ..) rfl
      | sending result => exact taken hp hphase rfl (.fail ..) rfl
      | sleeping wakeAt => exact taken hp hphase rfl (.leave ..) rfl
      | _ =>
          rw [Poller.Leaves, hphase] at hleaves
          cases hleaves
  | wake hp hphase _ ht => exact taken hp hphase rfl (.wake _ _ ht) rfl
  | _ => cases ha

/-- A poller takes a turn, or stays where it stands, if it has been added at all. -/
theorem standing_step (h : Step s a t) (i : Nat) :
    (a.actor? ≠ some i ∧ (t.standings[i]? = s.standings[i]? ∨
      s.standings[i]? = none ∧ t.standings[i]? = some (.starting, 0))) ∨
      ∃ x y, s.standings[i]? = some x ∧ t.standings[i]? = some y ∧ Turn s.now i x a y := by
  cases ha : a.actor? with
  | none =>
      refine .inl ⟨nofun, ?_⟩
      rcases standings_step h ha with hsame | hadded
      · exact .inl (congrArg (·[i]?) hsame)
      · rw [hadded]
        rcases Nat.lt_trichotomy i s.standings.length with hlt | rfl | hgt
        · exact .inl (List.getElem?_append_left hlt)
        · exact .inr ⟨List.getElem?_eq_none (Nat.le_refl _), List.getElem?_concat_length⟩
        · left
          rw [List.getElem?_eq_none (Nat.le_of_lt hgt)]
          exact List.getElem?_eq_none (List.length_append ▸ hgt)
  | some j =>
      obtain ⟨x, y, hx, hturn, hset⟩ := turn_step h ha
      have hj : j < s.standings.length := (List.getElem?_eq_some_iff.mp hx).1
      by_cases hij : j = i
      · subst hij
        exact .inr ⟨x, y, hx, hset ▸ List.getElem?_set_self hj, hturn⟩
      · refine .inl ⟨fun heq => hij (Option.some.inj heq), .inl ?_⟩
        rw [hset, List.getElem?_set_ne hij]

/-! ### Polls begun -/

theorem begun_of_rest (h : a.actor? ≠ some i) : begun i [a] = 0 := by
  have unbegun : a.begins? ≠ some i := fun hb => h (SchedulerAction.actor?_of_begins? hb)
  simp [begun, unbegun]

theorem polls_of_turn {now : Nat} {x y : Phase ρ × Nat} (h : Turn now i x a y) :
    y.2 = x.2 + begun i [a] := by
  cases h with
  | _ => simp [begun, SchedulerAction.begins?]

/-- A poller counts the polls that it begins, and begins none before it is added. -/
theorem begun_reaches (run : Traced.Reaches step? (create n) as t) (i : Nat) :
    begun i as = (t.standings[i]?.map (·.2)).getD 0 := by
  induction run with
  | refl => rfl
  | @step as t a next _ h ih =>
      rw [begun_append, ih]
      rcases standing_step (step_of_step? h) i with
        ⟨ha, hsame | ⟨hnone, hnew⟩⟩ | ⟨x, y, hx, hy, hturn⟩
      · rw [begun_of_rest ha, hsame, Nat.add_zero]
      · rw [begun_of_rest ha, hnone, hnew]
        rfl
      · rw [hx, hy]
        exact (polls_of_turn hturn).symm

/-! ### Polls answered -/

theorem answers_of_rest (h : a.actor? ≠ some i) : answers i [a] = [] := by
  cases a with
  | finish j result =>
      have hj : j ≠ i := fun heq => h (congrArg some heq)
      simp [answers, SchedulerAction.answer?, hj]
  | _ => rfl

theorem length_sent_le {next : Traced (Scheduler κ ρ)} (before : Traced.Reaches step? s as t)
    (h : step? t a = some next) :
    (ofPoller i (s.sent as)).length ≤ (ofPoller i (s.sent (as ++ [a]))).length := by
  rw [sent_step before h, ofPoller_append, List.length_append]
  exact Nat.le_add_right _ _

theorem accounts_of_standing (run : Traced.Reaches step? (create n) as t) {x : Phase ρ × Nat}
    (hx : t.standings[i]? = some x) :
    x.1.Accounts x.2 (answers i as) ((ofPoller i ((create n).sent as)).map (·.result)) := by
  obtain ⟨p, hp, hphase, hpolls⟩ := standings_eq_some_iff.mp hx
  rw [← hphase, ← hpolls]
  exact (accounted_reaches run).accounts i p hp

/-- A poller ends with all its polls answered, and its results sent but for the last one. -/
theorem ended_reaches (run : Traced.Reaches step? (create n) as t) {polls : Nat}
    (hi : t.standings[i]? = some (.ended, polls)) :
    polls = (answers i as).length ∧ polls ≤ (ofPoller i ((create n).sent as)).length + 1 := by
  induction run with
  | refl => cases hi
  | @step as t a next before h ih =>
      have sentMore := length_sent_le (i := i) before h
      rw [answers_append, List.length_append]
      rcases standing_step (step_of_step? h) i with
        ⟨ha, hsame | ⟨-, hnew⟩⟩ | ⟨x, y, hx, hy, hturn⟩
      · obtain ⟨hanswered, hsent⟩ := ih (hsame ▸ hi)
        rw [answers_of_rest ha]
        exact ⟨hanswered, hsent.trans (Nat.add_le_add_right sentMore 1)⟩
      · cases hnew.symm.trans hi
      · obtain rfl := Option.some.inj (hy.symm.trans hi)
        have accounts := accounts_of_standing before hx
        have going : x.1 ≠ .ended := by
          intro hended
          cases hturn <;> cases hended
        have ahead := (accounts.length_bounds going).2.2
        rw [List.length_map] at ahead
        have sent := ahead.trans (Nat.add_le_add_right sentMore 1)
        -- The last poll was answered before, unless its answer is dropped in this turn.
        cases hturn with
        | discard since polls result =>
            rw [Accounted.answers_finish_self]
            exact ⟨accounts.1, sent⟩
        | giveUp result polls => exact ⟨accounts.1, sent⟩
        | fail result polls => exact ⟨accounts.1, sent⟩
        | leave wakeAt polls => exact ⟨accounts.1, sent⟩

/-- The polls that a poller has begun are those answered, or one more, and no more than one ahead of
its results in the channel. -/
theorem begun_le (run : Traced.Reaches step? (create n) as t) (i : Nat) :
    (answers i as).length ≤ begun i as ∧ begun i as ≤ (answers i as).length + 1 ∧
      begun i as ≤ (ofPoller i ((create n).sent as)).length + 1 := by
  rw [begun_reaches run i]
  cases hx : t.standings[i]? with
  | none =>
      have unborn : t.pollers.length ≤ i := by
        rw [← List.length_map (fun p : Poller κ ρ => (p.phase, p.polls))]
        exact List.getElem?_eq_none_iff.mp hx
      rw [((accounted_reaches run).unborn i unborn).1]
      exact ⟨Nat.le_refl 0, Nat.zero_le _, Nat.zero_le _⟩
  | some x =>
      obtain ⟨phase, polls⟩ := x
      rw [Option.map_some, Option.getD_some]
      by_cases hphase : phase = .ended
      · subst hphase
        obtain ⟨rfl, hsent⟩ := ended_reaches run hx
        exact ⟨Nat.le_refl _, Nat.le_succ _, hsent⟩
      · obtain ⟨hanswered, hpolls, hsent⟩ :=
          (accounts_of_standing run hx).length_bounds hphase
        rw [List.length_map] at hsent
        exact ⟨hanswered, hpolls, hsent⟩

/-! ### Sleep -/

/-- The channel took the result of a poll some time before an interval that ends at a point in
time. -/
def Accepted (s : Scheduler κ ρ) (as : List (SchedulerAction κ ρ)) (i ordinal wakeAt : Nat) :
    Prop :=
  ∃ earlier interval later early, as = earlier ++ .accept i interval :: later ∧
    Traced.Reaches step? s earlier early ∧
    (early.sends (.accept i interval)).map (·.ordinal) = [ordinal] ∧
    early.now + interval = wakeAt

theorem Accepted.append {ordinal wakeAt : Nat} (h : s.Accepted as i ordinal wakeAt)
    (bs : List (SchedulerAction κ ρ)) : s.Accepted (as ++ bs) i ordinal wakeAt := by
  obtain ⟨earlier, interval, later, early, rfl, reached, taken, slept⟩ := h
  exact ⟨earlier, interval, later ++ bs, early, by simp, reached, taken, slept⟩

/-- A poller sleeps for the interval that was read when the channel took the result of its last
poll. -/
theorem accepted_of_sleeping (run : Traced.Reaches step? (create n) as t) {wakeAt polls : Nat}
    (hi : t.standings[i]? = some (.sleeping wakeAt, polls)) :
    (create n).Accepted as i polls wakeAt := by
  induction run with
  | refl => cases hi
  | @step as t a next before h ih =>
      rcases standing_step (step_of_step? h) i with
        ⟨-, hsame | ⟨-, hnew⟩⟩ | ⟨x, y, hx, hy, hturn⟩
      · exact (ih (hsame ▸ hi)).append [a]
      · cases hnew.symm.trans hi
      · obtain rfl := Option.some.inj (hy.symm.trans hi)
        cases hturn with
        | accept result polls interval =>
            obtain ⟨p, hp, hphase, rfl⟩ := standings_eq_some_iff.mp hx
            exact ⟨as, interval, [], t, rfl, before, by rw [sends_accept hp hphase]; rfl, rfl⟩

/-- A poll begins with all earlier ones answered and their results in the channel, and not before
the interval after the last of them is over. -/
theorem begins_spec (run : Traced.Reaches step? (create n) as t) (h : Step t a u)
    (ha : a.begins? = some i) :
    (answers i as).length = begun i as ∧
      (ofPoller i ((create n).sent as)).length = begun i as ∧
      (0 < begun i as →
        ∃ wakeAt, wakeAt ≤ t.now ∧ (create n).Accepted as i (begun i as) wakeAt) := by
  obtain ⟨x, y, hx, hturn, -⟩ := turn_step h (SchedulerAction.actor?_of_begins? ha)
  have accounts := accounts_of_standing run hx
  have counted := begun_reaches run i
  rw [hx, Option.map_some, Option.getD_some] at counted
  rw [counted, ← List.length_map (f := fun d : Delivery ρ => d.result)]
  -- Only the first poll and those after a sleep begin, and a poller sleeps with all results sent.
  cases hturn with
  | start polls =>
      obtain ⟨hpolls, hanswers, hsent⟩ := accounts
      rw [hpolls, hanswers, hsent]
      exact ⟨rfl, rfl, fun h => absurd h (Nat.lt_irrefl 0)⟩
  | wake wakeAt polls slept =>
      obtain ⟨hpolls, hsent⟩ := accounts
      rw [hsent]
      exact ⟨hpolls.symm, hpolls.symm, fun _ => ⟨wakeAt, slept, accepted_of_sleeping run hx⟩⟩
  | _ => cases ha

/-! ### All polls -/

/-- The number of pollers in phases of a kind. -/
def population (s : Scheduler κ ρ) (kind : Phase ρ → Bool) : Nat :=
  s.standings.countP fun x => kind x.1

/-- A turn moves one poller from its old kind of phase to its new one. -/
theorem population_of_turn (kind : Phase ρ → Bool) {x y : Phase ρ × Nat}
    (hx : s.standings[i]? = some x) (hset : t.standings = s.standings.set i y) :
    t.population kind + (kind x.1).toNat = s.population kind + (kind y.1).toNat := by
  obtain ⟨hi, hget⟩ := List.getElem?_eq_some_iff.mp hx
  rw [population, population, hset, List.countP_set hi, hget]
  cases hold : kind x.1 with
  | false => cases kind y.1 <;> simp
  | true =>
      have counted : 0 < s.standings.countP fun x => kind x.1 :=
        List.countP_pos_iff.mpr ⟨x, List.mem_of_getElem? hx, hold⟩
      have kept := Nat.sub_add_cancel counted
      cases kind y.1 <;> simp <;> omega

theorem population_of_rest {kind : Phase ρ → Bool} (h : Step s a t) (ha : a.actor? = none)
    (new : kind .starting = false) : t.population kind = s.population kind := by
  rcases standings_step h ha with hsame | hadded
  · rw [population, hsame, population]
  · rw [population, hadded, List.countP_append, population]
    simp [new]

theorem isStart_of_rest (ha : a.actor? = none) : pollersBegun [a] = 0 ∧ pollsBegun [a] = 0 := by
  cases a with
  | start j => cases ha
  | wake j => cases ha
  | _ => exact ⟨rfl, rfl⟩

/-- Every poll uses up a new poller or the sleep of an old one, and every sleep a result sent. -/
theorem potential_step (h : Step s a t) :
    pollsBegun [a] + t.population Phase.isSleeping ≤
      (s.sends a).length + pollersBegun [a] + s.population Phase.isSleeping := by
  cases ha : a.actor? with
  | none =>
      rw [population_of_rest h ha rfl, (isStart_of_rest ha).2, Nat.zero_add]
      exact Nat.le_add_left _ _
  | some i =>
      obtain ⟨x, y, hx, hturn, hset⟩ := turn_step h ha
      have moved := population_of_turn Phase.isSleeping hx hset
      cases hturn with
      | accept result polls interval =>
          obtain ⟨p, hp, hphase, -⟩ := standings_eq_some_iff.mp hx
          rw [sends_accept hp hphase]
          simp [Phase.isSleeping, pollsBegun, SchedulerAction.begins?] at moved ⊢
          omega
      | _ =>
          simp [Phase.isSleeping, pollsBegun, pollersBegun, SchedulerAction.begins?,
            SchedulerAction.isStart] at moved ⊢
          omega

theorem potential_reaches (run : Traced.Reaches step? s as t) :
    pollsBegun as + t.population Phase.isSleeping ≤
      (s.sent as).length + pollersBegun as + s.population Phase.isSleeping := by
  induction run with
  | refl => simp [pollsBegun]
  | @step as t a next before h ih =>
      have spent := potential_step (step_of_step? h)
      rw [sent_step before h, List.length_append, pollsBegun_append, pollersBegun_append]
      omega

/-- The pollers that have begun are those whose beginning the run has seen. -/
theorem hasBegun_reaches (run : Traced.Reaches step? (create n) as t) :
    t.population Phase.hasBegun = pollersBegun as := by
  induction run with
  | refl => rfl
  | @step as t a next _ h ih =>
      have step := step_of_step? h
      rw [pollersBegun_append, ← ih]
      cases ha : a.actor? with
      | none => rw [population_of_rest step ha rfl, (isStart_of_rest ha).1, Nat.add_zero]
      | some i =>
          obtain ⟨x, y, hx, hturn, hset⟩ := turn_step step ha
          have moved := population_of_turn Phase.hasBegun hx hset
          cases hturn with
          | _ => simpa [Phase.hasBegun, pollersBegun, SchedulerAction.isStart] using moved

theorem population_mono {kind kind' : Phase ρ → Bool}
    (h : ∀ phase, kind phase = true → kind' phase = true) :
    s.population kind ≤ s.population kind' :=
  List.countP_mono_left fun x _ => h x.1

/-- Nothing is sent without a reader. -/
theorem sends_of_closed (h : Step s a t) (closed : t.isOpen = false) : s.sends a = [] := by
  cases h with
  | accept _ _ hopen _ => cases hopen.symm.trans closed
  | _ => rfl

/-- As long as nobody receives, no more results are sent than the channel has room for. -/
theorem length_sent_le_of_unread (first : Traced.Reaches step? (create n) as s)
    {bs : List (SchedulerAction κ ρ)} (run : Traced.Reaches step? s bs t)
    (unread : .receive ∉ bs) :
    (s.sent bs).length ≤ max n 1 ∧ (t.isOpen = true → t.queue = s.queue ++ s.sent bs) := by
  induction run with
  | refl => exact ⟨Nat.zero_le _, fun _ => (List.append_nil _).symm⟩
  | @step bs t a next before h ih =>
      obtain ⟨bounded, held⟩ := ih fun hr => unread (List.mem_append_left _ hr)
      have step := step_of_step? h
      have nothing : t.hands a = [] := by
        cases a with
        | receive => exact absurd (List.mem_append_right bs List.mem_cons_self) unread
        | _ => rfl
      rw [sent_step before h]
      cases hopen : next.value.isOpen with
      | false => exact ⟨by rwa [sends_of_closed step hopen, List.append_nil], nofun⟩
      | true =>
          have heard : t.isOpen = true := by
            rw [← Bool.not_eq_false] at hopen ⊢
            exact fun hclosed => hopen ((isOpen_step step).mpr (.inl hclosed))
          have queued : next.value.queue = s.queue ++ (s.sent bs ++ t.sends a) := by
            rw [← List.append_assoc, ← held heard, ← (queue_step step).2 hopen, nothing,
              List.nil_append]
          have room := length_queue_reaches (first.trans (before.step h))
          rw [queued, List.length_append] at room
          exact ⟨Nat.le_of_add_left_le room, fun _ => queued⟩

/-- The polls of one poller do not overlap. A poll begins only after the channel has taken the
result of the one before and the interval read then is over, so the polls begun are one ahead of the
results in the channel at most. The channel holds no more results than it has room for, and as long
as nobody receives, all polls that begin are no more than this room and the pollers begun. -/
theorem polls_paced {before after : List (SchedulerAction κ ρ)} {last : Traced (Scheduler κ ρ)}
    (run : (create n).run? (before ++ after) = some last) :
    ∃ mid : Traced (Scheduler κ ρ), (create n).run? before = some mid ∧
      mid.value.queue.length ≤ max n 1 ∧
      (∀ i, (answers i before).length ≤ begun i before ∧
        begun i before ≤ (answers i before).length + 1 ∧
        begun i before ≤ (ofPoller i ((create n).sent before)).length + 1) ∧
      (∀ i a rest, after = a :: rest → a.begins? = some i →
        (answers i before).length = begun i before ∧
        (ofPoller i ((create n).sent before)).length = begun i before ∧
        (0 < begun i before → ∃ earlier interval later, ∃ early : Traced (Scheduler κ ρ),
          before = earlier ++ .accept i interval :: later ∧
          (create n).run? earlier = some early ∧
          (early.value.sends (.accept i interval)).map (·.ordinal) = [begun i before] ∧
          early.value.now + interval ≤ mid.value.now)) ∧
      (.receive ∉ after → pollsBegun after ≤ max n 1 + pollersBegun (before ++ after)) := by
  obtain ⟨_, first, second⟩ := Traced.Reaches.split (Traced.reaches_of_run? run)
  obtain ⟨mid, hmid, rfl⟩ := first.exists_run?
  refine ⟨mid, hmid, length_queue_reaches first, begun_le first, ?_, ?_⟩
  · rintro i a rest rfl ha
    obtain ⟨next, hnext, -⟩ := second.cons_inv
    obtain ⟨hanswered, hsent, hslept⟩ := begins_spec first (step_of_step? hnext) ha
    refine ⟨hanswered, hsent, fun hpos => ?_⟩
    obtain ⟨wakeAt, hwake, earlier, interval, later, _, hsplit, reached, htaken, rfl⟩ := hslept hpos
    obtain ⟨early, hearly, rfl⟩ := reached.exists_run?
    exact ⟨earlier, interval, later, early, hsplit, hearly, htaken, hwake⟩
  · intro unread
    have spent := potential_reaches second
    have room := (length_sent_le_of_unread first second unread).1
    have asleep : mid.value.population Phase.isSleeping ≤ pollersBegun before :=
      (population_mono fun _ => Phase.hasBegun_of_isSleeping).trans_eq (hasBegun_reaches first)
    rw [pollersBegun_append]
    omega

/-- A poller whose first result fills the channel, and which has slept since. -/
def filled : List (SchedulerAction Nat Nat) :=
  [.add ⟨"shop", "web"⟩ ⟨.pods, "rps", none⟩ 10, .start 0, .finish 0 7, .look 0, .accept 0 5,
    .elapse 6]

/-- It polls once more and waits with the result, however long nobody receives. -/
def blocked : List (SchedulerAction Nat Nat) :=
  [.wake 0, .finish 0 8, .elapse 1000]

theorem polls_paced_blocked :
    ∃ last mid : Traced (Scheduler Nat Nat), (create 1).run? (filled ++ blocked) = some last ∧
      (create 1).run? filled = some mid ∧ begun 0 filled = 1 ∧ pollsBegun blocked = 1 ∧
      (ofPoller 0 ((create 1).sent filled)).length = begun 0 filled ∧
      (∃ earlier interval later, ∃ early : Traced (Scheduler Nat Nat),
        filled = earlier ++ .accept 0 interval :: later ∧
        (create 1).run? earlier = some early ∧
        (early.value.sends (.accept 0 interval)).map (·.ordinal) = [begun 0 filled] ∧
        early.value.now + interval ≤ mid.value.now) ∧
      pollsBegun blocked ≤ max 1 1 + pollersBegun (filled ++ blocked) := by
  obtain ⟨last, run⟩ : ∃ last, (create 1).run? (filled ++ blocked) = some last := ⟨_, rfl⟩
  obtain ⟨mid, hmid, -, -, begins, unread⟩ := polls_paced run
  obtain ⟨-, hsent, hslept⟩ := begins 0 _ _ rfl rfl
  exact ⟨last, mid, run, hmid, rfl, rfl, hsent, hslept (by decide), unread (by decide)⟩

end Scheduler

end ScalingMetrics
