import ScalingMetrics.Proofs.Scheduler.Collectors
import ScalingMetrics.Provider.Pass

/-!
# What a pass does to slots

Work for one autoscaler leaves the slots of all others alone. If every declaration of an autoscaler
gets a collector, its slots are afterwards the declared ones, each with the last collector that was
built for it.

## Implementation notes

What the plugins answered is read off the requests in the report of a pass.
-/

namespace ScalingMetrics

/-- A declaration with the answer of the plugin that was asked to collect it. -/
structure Answered (κ : Type) where
  declaration : Declaration
  result : Except Cause κ

namespace Answered

variable {κ : Type}

/-- The last answer for a metric. -/
def last? (metric : MetricRef) (answers : List (Answered κ)) : Option (Except Cause κ) :=
  (answers.reverse.find? fun x => x.declaration.metric = metric).map (·.result)

theorem last?_append (m : MetricRef) (l l' : List (Answered κ)) :
    last? m (l ++ l') = (last? m l').or (last? m l) := by
  rw [last?, List.reverse_append, List.find?_append, Option.map_or]
  rfl

theorem last?_singleton (m : MetricRef) (x : Answered κ) :
    last? m [x] = if m = x.declaration.metric then some x.result else none := by
  by_cases h : m = x.declaration.metric
  · simp [last?, h]
  · simp [last?, h, Ne.symm h]

theorem isSome_last?_iff {m : MetricRef} {l : List (Answered κ)} :
    (last? m l).isSome = true ↔ m ∈ (l.map (·.declaration)).map (·.metric) := by
  simp [last?, List.find?_isSome]

end Answered

section Answers

variable {π κ : Type} {build : Nat → CollectorRequest π → Except Cause κ} {r : AutoscalerRef}

/-- What plugins answered to requests for an autoscaler. The requests have numbers from `n` on. -/
def answersFrom (build : Nat → CollectorRequest π → Except Cause κ) (r : AutoscalerRef) :
    Nat → List (CollectorRequest π) → List (Answered κ)
  | _, [] => []
  | n, q :: rest =>
      if q.autoscaler.ref = r then ⟨q.declaration, build n q⟩ :: answersFrom build r (n + 1) rest
      else answersFrom build r (n + 1) rest

theorem answersFrom_append (n : Nat) (l l' : List (CollectorRequest π)) :
    answersFrom build r n (l ++ l') =
      answersFrom build r n l ++ answersFrom build r (n + l.length) l' := by
  induction l generalizing n with
  | nil => rfl
  | cons q rest ih =>
      have hn : n + (q :: rest).length = n + 1 + rest.length := by
        rw [List.length_cons]
        omega
      rw [List.cons_append, answersFrom, answersFrom, ih, hn]
      split <;> rfl

theorem answersFrom_eq_nil {n : Nat} {l : List (CollectorRequest π)}
    (h : ∀ q ∈ l, q.autoscaler.ref ≠ r) : answersFrom build r n l = [] := by
  induction l generalizing n with
  | nil => rfl
  | cons q rest ih =>
      rw [answersFrom, if_neg (h q List.mem_cons_self)]
      exact ih fun q' hq' => h q' (List.mem_cons_of_mem q hq')

/-- What plugins answered to requests for an autoscaler, made from a state of a pass on. -/
def PassState.answersTo (s : PassState π κ) (input : PassInput π κ) (r : AutoscalerRef)
    (new : List (CollectorRequest π)) : List (Answered κ) :=
  answersFrom input.build r s.report.requests.length new

theorem PassState.answersTo_append {s t : PassState π κ} {new : List (CollectorRequest π)}
    (h : t.report.requests = s.report.requests ++ new) (input : PassInput π κ)
    (r : AutoscalerRef) (new' : List (CollectorRequest π)) :
    s.answersTo input r (new ++ new') = s.answersTo input r new ++ t.answersTo input r new' := by
  rw [answersTo, answersFrom_append, ← List.length_append, ← h]
  rfl

theorem PassState.answersTo_eq_nil {s : PassState π κ} {input : PassInput π κ}
    {new : List (CollectorRequest π)} (h : ∀ q ∈ new, q.autoscaler.ref ≠ r) :
    s.answersTo input r new = [] :=
  answersFrom_eq_nil h

end Answers

/-- The slots of an autoscaler are the metrics that were answered, each with the collector that was
given last. -/
def Scheduler.Runs {κ ρ : Type} (s : Scheduler κ ρ) (r : AutoscalerRef)
    (answers : List (Answered κ)) : Prop :=
  ∀ m, (s.collector? r m).map .ok = Answered.last? m answers

namespace Scheduler

variable {κ ρ : Type} {s : Scheduler κ ρ} {r : AutoscalerRef} {m : MetricRef}
  {answers : List (Answered κ)}

theorem Coherent.contains_iff_of_runs (h : s.Coherent) (hruns : s.Runs r answers) :
    s.contains r m = true ↔ m ∈ (answers.map (·.declaration)).map (·.metric) := by
  rw [h.contains_eq_isSome, ← Answered.isSome_last?_iff, ← hruns m, Option.isSome_map]

theorem last?_of_runs {p : Poller κ ρ} (hruns : s.Runs r answers)
    (hp : s.poller? r m = some p) : Answered.last? m answers = some (.ok p.collector) := by
  rw [← hruns m, collector?, hp]
  rfl

end Scheduler

namespace Provider

variable {π κ : Type} {p : Provider π κ} {input : PassInput π κ} {a : Autoscaler}
  {s t u : PassState π κ} {new new' : List (CollectorRequest π)} {listing : List Autoscaler}

/-! ### Work for one autoscaler -/

/-- Work for one autoscaler that made the given requests. -/
structure WorksFor (a : Autoscaler) (s t : PassState π κ) (new : List (CollectorRequest π)) :
    Prop where
  coherent : t.scheduler.Coherent
  frame : ∀ r, r ≠ a.ref → ∀ m, t.scheduler.collector? r m = s.scheduler.collector? r m
  requests : t.report.requests = s.report.requests ++ new
  own : ∀ q ∈ new, q.autoscaler = a
  cache : t.cache = s.cache

theorem WorksFor.refl (a : Autoscaler) {s : PassState π κ} (h : s.scheduler.Coherent) :
    WorksFor a s s [] where
  coherent := h
  frame _ _ _ := rfl
  requests := (List.append_nil _).symm
  own := by simp
  cache := rfl

theorem WorksFor.trans (first : WorksFor a s t new) (second : WorksFor a t u new') :
    WorksFor a s u (new ++ new') where
  coherent := second.coherent
  frame r hr m := (second.frame r hr m).trans (first.frame r hr m)
  requests := by rw [second.requests, first.requests, List.append_assoc]
  own q hq := (List.mem_append.mp hq).elim (first.own q) (second.own q)
  cache := second.cache.trans first.cache

/-- A declaration has a plugin, which answers every request for it with a collector. -/
def Serves (p : Provider π κ) (input : PassInput π κ) (d : Declaration) : Prop :=
  (∃ plugin, p.registry.resolve d = .ok plugin) ∧
    ∀ n q, q.declaration = d → ∃ c, input.build n q = .ok c

/-- What an autoscaler declares is understood and served. -/
def ServesAll (p : Provider π κ) (input : PassInput π κ) (a : Autoscaler) : Prop :=
  ∃ declarations, input.declarations a = .ok declarations ∧ ∀ d ∈ declarations, p.Serves input d

theorem startPoller_of_serves {d : Declaration} (h : p.Serves input d) :
    (p.startPoller input a d s).value.2 = true := by
  obtain ⟨⟨plugin, hplugin⟩, hbuild⟩ := h
  obtain ⟨c, hbuilt⟩ :=
    hbuild s.report.requests.length ⟨plugin, a, d, p.interval d⟩ rfl
  simp only [startPoller, Registry.collector, hplugin, hbuilt, Except.mapError]
  rfl

theorem startPollers_of_serves {declarations : List Declaration}
    (h : ∀ d ∈ declarations, p.Serves input d) :
    (p.startPollers input a declarations s).value.2 = true := by
  induction declarations generalizing s with
  | nil => rfl
  | cons d rest ih =>
      have started : (p.startPoller input a d s).value.2 = true :=
        startPoller_of_serves (h d List.mem_cons_self)
      have others : (p.startPollers input a rest (p.startPoller input a d s).value.1).value.2 =
          true := ih fun d' hd' => h d' (List.mem_cons_of_mem d hd')
      exact Bool.and_eq_true_iff.mpr ⟨started, others⟩

theorem schedule_of_servesAll (h : p.ServesAll input a) :
    (p.schedule input a s).value.2 = true := by
  obtain ⟨declarations, hparse, hserves⟩ := h
  simp only [schedule, hparse]
  exact startPollers_of_serves hserves

/-- A poller is started if and only if its plugin answers with a collector. -/
theorem startPoller_spec (p : Provider π κ) (input : PassInput π κ) (a : Autoscaler)
    (d : Declaration) {s : PassState π κ} (h : s.scheduler.Coherent) :
    ∃ new, WorksFor a s (p.startPoller input a d s).value.1 new ∧
      ((p.startPoller input a d s).value.2 = true →
        ∃ c, s.answersTo input a.ref new = [⟨d, .ok c⟩] ∧
          ∀ m, (p.startPoller input a d s).value.1.scheduler.collector? a.ref m =
            if m = d.metric then some c else s.scheduler.collector? a.ref m) := by
  cases hplugin : p.registry.resolve d with
  | error e =>
      refine ⟨[], ?_, ?_⟩
      · simp only [startPoller, Registry.collector, hplugin]
        exact ⟨h, fun _ _ _ => rfl, rfl, by simp, rfl⟩
      · simp [startPoller, Registry.collector, hplugin]
  | ok plugin =>
      refine ⟨[⟨plugin, a, d, p.interval d⟩], ?_⟩
      cases hbuilt : input.build s.report.requests.length ⟨plugin, a, d, p.interval d⟩ with
      | error e =>
          simp only [startPoller, Registry.collector, hplugin, hbuilt, Except.mapError]
          exact ⟨⟨h, fun _ _ _ => rfl, rfl, by simp, rfl⟩, nofun⟩
      | ok c =>
          simp only [startPoller, Registry.collector, hplugin, hbuilt, Except.mapError]
          refine ⟨⟨h.add_value a.ref d.metric c, ?_, rfl, by simp, rfl⟩, fun _ => ⟨c, ?_, ?_⟩⟩
          · intro r hr m
            exact (h.collector?_add a.ref r d.metric m c).trans (if_neg fun hslot => hr hslot.1)
          · simp [PassState.answersTo, answersFrom, hbuilt]
          · intro m
            refine (h.collector?_add a.ref a.ref d.metric m c).trans ?_
            simp only [true_and]

/-- If all declarations get a collector, each slot has the last one built for it. -/
theorem startPollers_spec (p : Provider π κ) (input : PassInput π κ) (a : Autoscaler)
    (declarations : List Declaration) {s : PassState π κ} (h : s.scheduler.Coherent) :
    ∃ new, WorksFor a s (p.startPollers input a declarations s).value.1 new ∧
      ((p.startPollers input a declarations s).value.2 = true →
        (s.answersTo input a.ref new).map (·.declaration) = declarations ∧
          ∀ m, ((p.startPollers input a declarations s).value.1.scheduler.collector? a.ref
              m).map .ok =
            (Answered.last? m (s.answersTo input a.ref new)).or
              ((s.scheduler.collector? a.ref m).map .ok)) := by
  induction declarations generalizing s with
  | nil => exact ⟨[], WorksFor.refl a h, fun _ => ⟨rfl, fun _ => rfl⟩⟩
  | cons d rest ih =>
      obtain ⟨new, first, hfirst⟩ := startPoller_spec p input a d h
      obtain ⟨new', others, hothers⟩ := ih first.coherent
      refine ⟨new ++ new', first.trans others, fun complete => ?_⟩
      obtain ⟨started, others_started⟩ := Bool.and_eq_true_iff.mp complete
      obtain ⟨c, hanswer, hcollector⟩ := hfirst started
      obtain ⟨hdeclared, hcollectors⟩ := hothers others_started
      rw [PassState.answersTo_append first.requests, hanswer]
      constructor
      · rw [List.map_append, hdeclared]
        rfl
      · intro m
        refine (hcollectors m).trans ?_
        rw [Answered.last?_append, Answered.last?_singleton, hcollector, Option.or_assoc]
        congr 1
        by_cases hm : m = d.metric
        · simp [hm]
        · simp [hm]

/-- An autoscaler that is scheduled completely has the declared slots, each with the last collector
built for it. -/
theorem schedule_spec (p : Provider π κ) (input : PassInput π κ) (a : Autoscaler)
    {s : PassState π κ} (h : s.scheduler.Coherent) :
    ∃ new, WorksFor a s (p.schedule input a s).value.1 new ∧
      ((p.schedule input a s).value.2 = true →
        input.declarations a = .ok ((s.answersTo input a.ref new).map (·.declaration)) ∧
          (p.schedule input a s).value.1.scheduler.Runs a.ref
            (s.answersTo input a.ref new)) := by
  cases hparse : input.declarations a with
  | error e =>
      refine ⟨[], ?_⟩
      simp only [schedule, hparse]
      exact ⟨⟨h, fun _ _ _ => rfl, (List.append_nil _).symm, by simp, rfl⟩, nofun⟩
  | ok declarations =>
      obtain ⟨new, work, hwork⟩ := startPollers_spec p input a declarations h
      have hscheduler : (p.schedule input a s).value.1.scheduler =
          (p.startPollers input a declarations s).value.1.scheduler.withdraw a.ref
            (declarations.map (·.metric)).contains := by
        simp only [schedule, hparse]
        exact Scheduler.retain_value _ _ _
      refine ⟨new, ⟨?_, ?_, ?_, work.own, ?_⟩, ?_⟩
      · rw [hscheduler]
        exact work.coherent.withdraw _ _
      · intro r hr m
        rw [hscheduler, Scheduler.collector?_withdraw, if_neg fun hslot => hr hslot.1]
        exact work.frame r hr m
      · simp only [schedule, hparse]
        exact work.requests
      · simp only [schedule, hparse]
        exact work.cache
      · intro complete
        have started : (p.startPollers input a declarations s).value.2 = true := by
          simp only [schedule, hparse] at complete
          exact complete
        obtain ⟨hdeclared, hcollectors⟩ := hwork started
        refine ⟨congrArg Except.ok hdeclared.symm, ?_⟩
        intro m
        rw [hscheduler, Scheduler.collector?_withdraw]
        -- A metric without an answer is not declared, and its slot is given up at the end.
        cases hlast : Answered.last? m (s.answersTo input a.ref new) with
        | none =>
            have hm : (declarations.map (·.metric)).contains m = false := by
              rw [Bool.eq_false_iff, ne_eq, List.contains_iff_mem, ← hdeclared,
                ← Answered.isSome_last?_iff, hlast]
              exact Bool.false_ne_true
            rw [if_pos ⟨rfl, hm⟩]
            rfl
        | some answer =>
            have hm : (declarations.map (·.metric)).contains m = true := by
              rw [List.contains_iff_mem, ← hdeclared, ← Answered.isSome_last?_iff, hlast]
              rfl
            have hkept : ¬ (a.ref = a.ref ∧ (declarations.map (·.metric)).contains m = false) := by
              rintro ⟨-, hdropped⟩
              exact Bool.false_ne_true (hdropped.symm.trans hm)
            rw [if_neg hkept, hcollectors, hlast]
            rfl

/-! ### Visits -/

/-- An autoscaler is unchanged and was left alone, or it was scheduled completely. -/
def Attended (p : Provider π κ) (input : PassInput π κ) (a : Autoscaler) (s t : PassState π κ)
    (new : List (CollectorRequest π)) : Prop :=
  (p.isUnchanged a = true ∧
      ∀ m, t.scheduler.collector? a.ref m = s.scheduler.collector? a.ref m) ∨
    (p.isUnchanged a = false ∧
      input.declarations a = .ok ((s.answersTo input a.ref new).map (·.declaration)) ∧
      t.scheduler.Runs a.ref (s.answersTo input a.ref new))

/-- Visits of autoscalers that made the given requests. Those that are remembered afterwards were
attended to, and those that nothing keeps from it are remembered. -/
structure Visits (p : Provider π κ) (input : PassInput π κ) (listing : List Autoscaler)
    (s t : PassState π κ) (new : List (CollectorRequest π)) : Prop where
  coherent : t.scheduler.Coherent
  frame : ∀ r, r ∉ listing.map Autoscaler.ref →
    (∀ m, t.scheduler.collector? r m = s.scheduler.collector? r m) ∧
      t.cache.get? r = s.cache.get? r
  requests : t.report.requests = s.report.requests ++ new
  own : ∀ q ∈ new, q.autoscaler.ref ∈ listing.map Autoscaler.ref
  settled : ∀ a ∈ listing, ∀ b, t.cache.get? a.ref = some b → b = a ∧ p.Attended input a s t new
  remembers : ∀ a ∈ listing, p.isUnchanged a = true ∨ p.ServesAll input a →
    t.cache.get? a.ref = some a

theorem get?_remember (s : PassState π κ) (a : Autoscaler) (r : AutoscalerRef) :
    (s.remember a).cache.get? r = if r = a.ref then some a else s.cache.get? r :=
  SortedMap.get?_insert ..

private theorem ne_of_not_mem_singleton {r : AutoscalerRef} (h : r ∉ [a].map Autoscaler.ref) :
    r ≠ a.ref :=
  fun heq => h (List.mem_singleton.mpr heq)

/-- A visit after which the autoscaler is remembered. -/
theorem WorksFor.visits_remember (work : WorksFor a s t new)
    (attended : p.Attended input a s t new) : Visits p input [a] s (t.remember a) new where
  coherent := work.coherent
  frame r hr := by
    have hne : r ≠ a.ref := ne_of_not_mem_singleton hr
    rw [get?_remember, if_neg hne, work.cache]
    exact ⟨work.frame r hne, rfl⟩
  requests := work.requests
  own q hq := List.mem_singleton.mpr (congrArg Autoscaler.ref (work.own q hq))
  settled b hb c hc := by
    obtain rfl := List.mem_singleton.mp hb
    rw [get?_remember, if_pos rfl] at hc
    exact ⟨(Option.some.inj hc).symm, attended⟩
  remembers b hb _ := by
    obtain rfl := List.mem_singleton.mp hb
    rw [get?_remember, if_pos rfl]

/-- A visit after which the autoscaler is not remembered. -/
theorem WorksFor.visits_forget (work : WorksFor a s t new) (hcache : s.cache.get? a.ref = none)
    (hkept : ¬ (p.isUnchanged a = true ∨ p.ServesAll input a)) :
    Visits p input [a] s t new where
  coherent := work.coherent
  frame r hr := ⟨work.frame r (ne_of_not_mem_singleton hr), congrArg (·.get? r) work.cache⟩
  requests := work.requests
  own q hq := List.mem_singleton.mpr (congrArg Autoscaler.ref (work.own q hq))
  settled b hb c hc := by
    obtain rfl := List.mem_singleton.mp hb
    rw [work.cache, hcache] at hc
    cases hc
  remembers b hb hserves := by
    obtain rfl := List.mem_singleton.mp hb
    exact absurd hserves hkept

theorem visit_spec (p : Provider π κ) (input : PassInput π κ) (a : Autoscaler)
    {s : PassState π κ} (h : s.scheduler.Coherent) (hcache : s.cache.get? a.ref = none) :
    ∃ new, Visits p input [a] s (p.visit input a s).value new := by
  cases hunchanged : p.isUnchanged a with
  | true =>
      have hvisit : (p.visit input a s).value = s.remember a := by
        rw [visit, if_pos hunchanged]
        rfl
      rw [hvisit]
      exact ⟨[], (WorksFor.refl a h).visits_remember (.inl ⟨hunchanged, fun _ => rfl⟩)⟩
  | false =>
      set s' := s.count fun n => { n with updated := n.updated + 1 } with hs'
      have hvisit : (p.visit input a s).value =
          if (p.schedule input a s').value.2 then (p.schedule input a s').value.1.remember a
          else (p.schedule input a s').value.1 := by
        rw [visit, if_neg (Bool.eq_false_iff.mp hunchanged)]
        rfl
      obtain ⟨new, work, hwork⟩ := schedule_spec p input a (s := s') h
      have work' : WorksFor a s (p.schedule input a s').value.1 new :=
        ⟨work.coherent, work.frame, work.requests, work.own, work.cache⟩
      rw [hvisit]
      refine ⟨new, ?_⟩
      split
      · next complete =>
          exact work'.visits_remember (.inr ⟨hunchanged, hwork complete⟩)
      · next incomplete =>
          refine work'.visits_forget hcache ?_
          rintro (hsame | hserves)
          · exact Bool.false_ne_true (hunchanged.symm.trans hsame)
          · exact incomplete (schedule_of_servesAll hserves)

/-- Work for others afterwards does not matter. -/
theorem Attended.before (h : p.Attended input a s t new)
    (hrequests : t.report.requests = s.report.requests ++ new)
    (hslots : ∀ m, u.scheduler.collector? a.ref m = t.scheduler.collector? a.ref m)
    (silent : ∀ q ∈ new', q.autoscaler.ref ≠ a.ref) : p.Attended input a s u (new ++ new') := by
  rw [Attended, PassState.answersTo_append hrequests, PassState.answersTo_eq_nil silent,
    List.append_nil]
  rcases h with ⟨hunchanged, hkept⟩ | ⟨hchanged, hdeclared, hruns⟩
  · exact .inl ⟨hunchanged, fun m => (hslots m).trans (hkept m)⟩
  · exact .inr ⟨hchanged, hdeclared, fun m => hslots m ▸ hruns m⟩

/-- Nor does work for others before. -/
theorem Attended.after (h : p.Attended input a t u new')
    (hslots : ∀ m, t.scheduler.collector? a.ref m = s.scheduler.collector? a.ref m)
    (hrequests : t.report.requests = s.report.requests ++ new)
    (silent : ∀ q ∈ new, q.autoscaler.ref ≠ a.ref) : p.Attended input a s u (new ++ new') := by
  rw [Attended, PassState.answersTo_append hrequests, PassState.answersTo_eq_nil silent,
    List.nil_append]
  rcases h with ⟨hunchanged, hkept⟩ | ⟨hchanged, hdeclared, hruns⟩
  · exact .inl ⟨hunchanged, fun m => (hkept m).trans (hslots m)⟩
  · exact .inr ⟨hchanged, hdeclared, hruns⟩

theorem Visits.cons {rest : List Autoscaler} (first : Visits p input [a] s t new)
    (others : Visits p input rest t u new') (ha : a.ref ∉ rest.map Autoscaler.ref) :
    Visits p input (a :: rest) s u (new ++ new') where
  coherent := others.coherent
  frame r hr := by
    rw [List.map_cons, List.mem_cons, not_or] at hr
    obtain ⟨hslots, hcache⟩ := first.frame r (by simpa using hr.1)
    obtain ⟨hslots', hcache'⟩ := others.frame r hr.2
    exact ⟨fun m => (hslots' m).trans (hslots m), hcache'.trans hcache⟩
  requests := by rw [others.requests, first.requests, List.append_assoc]
  own q hq := by
    rcases List.mem_append.mp hq with hq | hq
    · exact List.mem_cons.mpr (.inl (List.mem_singleton.mp (first.own q hq)))
    · exact List.mem_cons_of_mem _ (others.own q hq)
  settled b hb c hc := by
    rcases List.mem_cons.mp hb with rfl | hb
    · obtain ⟨hslots, hcache⟩ := others.frame b.ref ha
      rw [hcache] at hc
      obtain ⟨rfl, attended⟩ := first.settled b (List.mem_singleton.mpr rfl) c hc
      refine ⟨rfl, attended.before first.requests hslots ?_⟩
      intro q hq heq
      exact ha (heq ▸ others.own q hq)
    · have hne : b.ref ∉ [a].map Autoscaler.ref := by
        intro heq
        exact ha (List.mem_singleton.mp heq ▸ List.mem_map_of_mem hb)
      obtain ⟨rfl, attended⟩ := others.settled b hb c hc
      refine ⟨rfl, attended.after (first.frame c.ref hne).1 first.requests ?_⟩
      intro q hq heq
      exact hne (heq ▸ first.own q hq)
  remembers b hb hserves := by
    rcases List.mem_cons.mp hb with rfl | hb
    · rw [(others.frame b.ref ha).2]
      exact first.remembers b (List.mem_singleton.mpr rfl) hserves
    · exact others.remembers b hb hserves

theorem visitAll_spec (p : Provider π κ) (input : PassInput π κ) (listing : List Autoscaler)
    {s : PassState π κ} (h : s.scheduler.Coherent) (distinct : (listing.map Autoscaler.ref).Nodup)
    (hcache : ∀ a ∈ listing, s.cache.get? a.ref = none) :
    ∃ new, Visits p input listing s (p.visitAll input listing s).value new := by
  induction listing generalizing s with
  | nil => exact ⟨[], h, fun _ _ => ⟨fun _ => rfl, rfl⟩, (List.append_nil _).symm, by simp,
      by simp, by simp⟩
  | cons a rest ih =>
      obtain ⟨ha, hrest⟩ := List.nodup_cons.mp distinct
      obtain ⟨new, first⟩ := visit_spec p input a h (hcache a List.mem_cons_self)
      have hfresh : ∀ b ∈ rest, (p.visit input a s).value.cache.get? b.ref = none := by
        intro b hb
        have hne : b.ref ∉ [a].map Autoscaler.ref := by
          intro heq
          exact ha (List.mem_singleton.mp heq ▸ List.mem_map_of_mem hb)
        rw [(first.frame b.ref hne).2]
        exact hcache b (List.mem_cons_of_mem a hb)
      obtain ⟨new', others⟩ := ih first.coherent hrest hfresh
      exact ⟨new ++ new', first.cons others ha⟩

/-! ### Removals -/

theorem removeAll_spec (gone : List AutoscalerRef) {s : PassState π κ}
    (h : s.scheduler.Coherent) :
    (removeAll gone s).value.scheduler.Coherent ∧
      (∀ r, r ∉ gone → ∀ m, (removeAll gone s).value.scheduler.collector? r m =
        s.scheduler.collector? r m) ∧
      (∀ r, r ∈ (removeAll gone s).value.scheduler.resources ↔
        r ∈ s.scheduler.resources ∧ r ∉ gone) ∧
      (removeAll gone s).value.cache = s.cache ∧
      (removeAll gone s).value.report.requests = s.report.requests := by
  induction gone generalizing s with
  | nil => exact ⟨h, fun _ _ _ => rfl, by simp [removeAll], rfl, rfl⟩
  | cons r rest ih =>
      have hremoved := Scheduler.remove_value s.scheduler r
      obtain ⟨coherent, frame, resources, cache, requests⟩ := ih
        (s := { s with scheduler := (s.scheduler.remove r).value.1 }.count fun n =>
          { n with removed := n.removed + 1 })
        (hremoved ▸ h.withdraw r _)
      refine ⟨coherent, ?_, ?_, cache, requests⟩
      · intro r' hr' m
        rw [List.mem_cons, not_or] at hr'
        refine (frame r' hr'.2 m).trans ?_
        change (s.scheduler.remove r).value.1.collector? r' m = _
        rw [hremoved, Scheduler.collector?_withdraw, if_neg fun hslot => hr'.1 hslot.1]
      · intro r'
        refine (resources r').trans ?_
        change r' ∈ (s.scheduler.remove r).value.1.resources ∧ _ ↔ _
        rw [hremoved, Scheduler.mem_resources_withdraw, List.mem_cons, not_or, and_assoc]

/-! ### Passes -/

theorem reconcile_of_error {e : Cause} (hlisting : input.listing = .error e) :
    (p.reconcile input).value.1 = p := by
  rw [reconcile, hlisting]
  rfl

theorem mem_unlisted_iff {scheduler : Scheduler κ Outcome} {r : AutoscalerRef} :
    r ∈ unlisted scheduler listing ↔
      r ∈ scheduler.resources ∧ r ∉ listing.map Autoscaler.ref := by
  simp [unlisted, List.mem_filter]

/-- When the unlisted autoscalers are removed, only listed ones have slots. -/
theorem listed_of_removeAll_unlisted (h : s.scheduler.Coherent) {r : AutoscalerRef}
    (hr : r ∈ (removeAll (unlisted s.scheduler listing) s).value.scheduler.resources) :
    r ∈ listing.map Autoscaler.ref := by
  obtain ⟨-, -, resources, -⟩ := removeAll_spec (unlisted s.scheduler listing) h
  obtain ⟨hkept, hlisted⟩ := (resources r).mp hr
  by_contra hout
  exact hlisted (mem_unlisted_iff.mpr ⟨hkept, hout⟩)

/-- The two parts of a pass whose listing succeeds. -/
theorem reconcile_of_ok (hlisting : input.listing = .ok listing) :
    ∃ visited s : PassState π κ,
      visited = (p.visitAll input listing (.start p.scheduler listing.length)).value ∧
      s = (removeAll (unlisted visited.scheduler listing) visited).value ∧
      (p.reconcile input).value =
        ({ p with scheduler := s.scheduler, cache := s.cache }, .ok s.report) := by
  refine ⟨_, _, rfl, rfl, ?_⟩
  rw [reconcile, hlisting]
  rfl

/-- A pass over distinct autoscalers ends in a state with pollers of listed ones only, in which
those that are remembered were attended to. -/
theorem reconcile_spec (h : p.scheduler.Coherent)
    (hlisting : input.listing = .ok listing) (distinct : (listing.map Autoscaler.ref).Nodup) :
    ∃ s : PassState π κ, (p.reconcile input).value =
        ({ p with scheduler := s.scheduler, cache := s.cache }, .ok s.report) ∧
      s.scheduler.Coherent ∧
      (∀ r ∈ s.scheduler.resources, r ∈ listing.map Autoscaler.ref) ∧
      (∀ a ∈ listing, p.isUnchanged a = true ∨ p.ServesAll input a →
        s.cache.get? a.ref = some a) ∧
      ∀ r b, s.cache.get? r = some b → b ∈ listing ∧ b.ref = r ∧
        p.Attended input b (.start p.scheduler listing.length) s s.report.requests := by
  obtain ⟨visited, s, hvisited, hs, hvalue⟩ := reconcile_of_ok (p := p) hlisting
  obtain ⟨new, visits⟩ := visitAll_spec p input listing
    (s := .start p.scheduler listing.length) h distinct fun _ _ => rfl
  rw [← hvisited] at visits
  obtain ⟨coherent, frame, -, cache, requests⟩ :=
    removeAll_spec (unlisted visited.scheduler listing) visits.coherent
  rw [← hs] at coherent frame cache requests
  refine ⟨s, hvalue, coherent, ?_, ?_, ?_⟩
  · intro r hr
    rw [hs] at hr
    exact listed_of_removeAll_unlisted visits.coherent hr
  · intro a ha hserves
    rw [cache]
    exact visits.remembers a ha hserves
  · intro r b hb
    rw [cache] at hb
    have hr : r ∈ listing.map Autoscaler.ref := by
      by_contra hout
      have hnone := (visits.frame r hout).2
      rw [hb] at hnone
      cases hnone
    obtain ⟨a, ha, rfl⟩ := List.mem_map.mp hr
    have hkept : ∀ m, s.scheduler.collector? a.ref m = visited.scheduler.collector? a.ref m :=
      frame a.ref fun hgone => (mem_unlisted_iff.mp hgone).2 hr
    have hrequests : s.report.requests = new := requests.trans visits.requests
    obtain ⟨rfl, attended⟩ := visits.settled a ha b hb
    refine ⟨ha, rfl, ?_⟩
    rw [hrequests, ← List.append_nil new]
    exact attended.before visits.requests hkept (by simp)

end Provider

end ScalingMetrics
