import ScalingMetrics.Proofs.Provider.Operations

/-!
# Passes among others

A pass waits for plugins and for its warnings to be raised. Pollers, the reader and whoever cancels
the root act meanwhile, and a pass does not notice: it asks for the same collectors, reports and
remembers the same and leaves the same slots as a pass that runs alone.

## Implementation notes

Only passes work on the table, and only one is made at a time. What they read of the scheduler is
its table, so it suffices to let others act before each operation on the scheduler.
-/

namespace ScalingMetrics

namespace Scheduler

variable {κ ρ : Type} {s t u : Scheduler κ ρ}

/-- Some actions of a kind lead from one state to another. -/
def ReachesBy (P : SchedulerAction κ ρ → Prop) (s t : Scheduler κ ρ) : Prop :=
  ∃ xs, Traced.Reaches step? s xs t ∧ ∀ x ∈ xs, P x

namespace ReachesBy

variable {P Q : SchedulerAction κ ρ → Prop}

theorem refl (s : Scheduler κ ρ) : ReachesBy P s s := ⟨[], .refl, by simp⟩

theorem mono (h : ReachesBy P s t) (hPQ : ∀ x, P x → Q x) : ReachesBy Q s t := by
  obtain ⟨xs, run, hxs⟩ := h
  exact ⟨xs, run, fun x hx => hPQ x (hxs x hx)⟩

theorem trans (h : ReachesBy P s t) (h' : ReachesBy P t u) : ReachesBy P s u := by
  obtain ⟨xs, run, hxs⟩ := h
  obtain ⟨ys, run', hys⟩ := h'
  exact ⟨xs ++ ys, run.trans run', fun x hx => (List.mem_append.mp hx).elim (hxs x) (hys x)⟩

end ReachesBy

/-- Agreement on the slots and on what the pollers were added for. Their phases, their marks and the
channel may differ. -/
structure Resembles (s t : Scheduler κ ρ) : Prop where
  table : s.table = t.table
  assigned : s.pollers.map Poller.assignment = t.pollers.map Poller.assignment

namespace Resembles

theorem refl (s : Scheduler κ ρ) : s.Resembles s := ⟨rfl, rfl⟩

theorem trans (h : s.Resembles t) (h' : t.Resembles u) : s.Resembles u :=
  ⟨h.table.trans h'.table, h.assigned.trans h'.assigned⟩

theorem slots (h : s.Resembles t) (r : AutoscalerRef) : s.slots r = t.slots r := by
  rw [Scheduler.slots, Scheduler.slots, h.table]

theorem length_pollers (h : s.Resembles t) : s.pollers.length = t.pollers.length := by
  simpa using congrArg List.length h.assigned

theorem collector? (h : s.Resembles t) (r : AutoscalerRef) (m : MetricRef) :
    s.collector? r m = t.collector? r m :=
  collector?_congr h.table h.assigned r m

theorem add (h : s.Resembles t) (r : AutoscalerRef) (m : MetricRef) (c : κ) :
    (s.add r m c).value.1.Resembles (t.add r m c).value.1 := by
  rw [add_value, add_value]
  constructor
  · have entered : ∀ v : Scheduler κ ρ, (v.replace r m c).table =
        v.table.insert r ((v.slots r).insert m v.pollers.length) := by
      intro v
      rw [replace, enter, length_pollers_cancel]
      rfl
    rw [entered, entered, h.table, h.slots, h.length_pollers]
  · rw [assignments_step (Step.add s r m c), assignments_step (Step.add t r m c), h.assigned]

theorem withdraw (h : s.Resembles t) (r : AutoscalerRef) (keep : MetricRef → Bool) :
    (s.withdraw r keep).Resembles (t.withdraw r keep) where
  table := by
    rw [Scheduler.withdraw, Scheduler.withdraw, setRow, setRow, h.table, h.slots]
  assigned := (assignments_cancel s _).trans (h.assigned.trans (assignments_cancel t _).symm)

theorem retain (h : s.Resembles t) (r : AutoscalerRef) (keep : List MetricRef) :
    (s.retain r keep).value.1.Resembles (t.retain r keep).value.1 := by
  rw [retain_value, retain_value]
  exact h.withdraw r _

theorem remove (h : s.Resembles t) (r : AutoscalerRef) :
    (s.remove r).value.1.Resembles (t.remove r).value.1 := by
  rw [remove_value, remove_value]
  exact h.withdraw r _

end Resembles

/-- Whoever does not work on the table leaves a scheduler that resembles the one before. -/
theorem ReachesBy.resembles (h : s.ReachesBy (fun x => x.owner? = none) t) : t.Resembles s := by
  obtain ⟨xs, run, others⟩ := h
  refine ⟨table_reaches run others, ?_⟩
  have unadded : xs.filterMap SchedulerAction.added? = [] := by
    rw [List.filterMap_eq_nil_iff]
    intro x hx
    have hnone := others x hx
    cases x with
    | add r m c => cases hnone
    | _ => rfl
  rw [assignments_reaches run, unadded, List.append_nil]

end Scheduler

namespace PassState

variable {π κ : Type} {s t u : PassState π κ}

/-- Two states that a pass cannot tell apart. -/
structure Resembles (s t : PassState π κ) : Prop where
  scheduler : s.scheduler.Resembles t.scheduler
  cache : s.cache = t.cache
  report : s.report = t.report

/-- Others act: pollers, the reader or whoever cancels the root. -/
inductive Waits (s : PassState π κ) : PassState π κ → Prop
  | others {scheduler} (acts : s.scheduler.ReachesBy (fun x => x.owner? = none) scheduler) :
      Waits s { s with scheduler }

theorem Waits.refl (s : PassState π κ) : s.Waits s := .others (.refl s.scheduler)

theorem Waits.reaches (wait : s.Waits t) :
    s.scheduler.ReachesBy (fun x => x.owner? = none) t.scheduler := by
  obtain ⟨acts⟩ := wait
  exact acts

theorem Waits.resembles (wait : s.Waits t) (h : s.Resembles u) : t.Resembles u := by
  obtain ⟨acts⟩ := wait
  exact ⟨acts.resembles.trans h.scheduler, h.cache, h.report⟩

namespace Resembles

theorem remember (h : s.Resembles t) (a : Autoscaler) : (s.remember a).Resembles (t.remember a) :=
  ⟨h.scheduler, congrArg (·.insert a.ref a) h.cache, h.report⟩

theorem count (h : s.Resembles t) (f : PassSummary → PassSummary) :
    (s.count f).Resembles (t.count f) :=
  ⟨h.scheduler, h.cache, by rw [PassState.count, PassState.count, h.report]⟩

theorem warn (h : s.Resembles t) (w : Warning) : (s.warn w).Resembles (t.warn w) :=
  ⟨h.scheduler, h.cache, by rw [PassState.warn, PassState.warn, h.report]⟩

theorem request (h : s.Resembles t) (asked : Option (CollectorRequest π)) :
    (s.request asked).Resembles (t.request asked) :=
  ⟨h.scheduler, h.cache, by rw [PassState.request, PassState.request, h.report]⟩

theorem operate (h : s.Resembles t) {scheduler scheduler' : Scheduler κ Outcome}
    (hs : scheduler.Resembles scheduler') :
    ({ s with scheduler } : PassState π κ).Resembles { t with scheduler := scheduler' } :=
  ⟨hs, h.cache, h.report⟩

end Resembles

end PassState

namespace Provider

variable {π κ α : Type}

/-! ### Passes with others between their operations -/

/-- Work on the members of a list in order, while others act. -/
inductive Amid (work : α → PassState π κ → PassState π κ → Prop) :
    List α → PassState π κ → PassState π κ → Prop
  | nil {s t} (wait : s.Waits t) : Amid work [] s t
  | cons {x rest s t u v} (wait : s.Waits t) (first : work x t u) (others : Amid work rest u v) :
      Amid work (x :: rest) s v

/-- Pollers are started for declarations in order, while others act. -/
inductive StartsAmid (p : Provider π κ) (input : PassInput π κ) (a : Autoscaler) :
    List Declaration → PassState π κ → PassState π κ × Bool → Prop
  | nil {s t} (wait : s.Waits t) : StartsAmid p input a [] s (t, true)
  | cons {d rest s t u complete} (wait : s.Waits t)
      (others : StartsAmid p input a rest (p.startPoller input a d t).value.1 (u, complete)) :
      StartsAmid p input a (d :: rest) s (u, (p.startPoller input a d t).value.2 && complete)

/-- A visit of a listed autoscaler, while others act. -/
inductive VisitAmid (p : Provider π κ) (input : PassInput π κ) (a : Autoscaler) :
    PassState π κ → PassState π κ → Prop
  /-- Nothing is scheduled. -/
  | idle {s} (h : p.isUnchanged a = true ∨ ∃ e, input.declarations a = .error e) :
      VisitAmid p input a s (p.visit input a s).value
  | scheduled {declarations s t kept complete} (hchanged : p.isUnchanged a = false)
      (hdeclared : input.declarations a = .ok declarations)
      (started : StartsAmid p input a declarations
        (s.count fun n => { n with updated := n.updated + 1 }) (t, complete))
      (retained : kept = { t with
        scheduler := (t.scheduler.retain a.ref (declarations.map (·.metric))).value.1 }) :
      VisitAmid p input a s (if complete then kept.remember a else kept)

/-- The removal of an autoscaler. -/
def Removal (r : AutoscalerRef) (s t : PassState π κ) : Prop := t = (removeAll [r] s).value

/-- A pass, while others act. -/
inductive ReconcilesAmid (p : Provider π κ) (input : PassInput π κ) :
    Provider π κ → Except Cause (PassReport π) → Prop
  | failed {e} (hlisting : input.listing = .error e) :
      ReconcilesAmid p input p (.error (e.inContext "failed to list autoscalers"))
  | passed {listing} {visited last : PassState π κ} (hlisting : input.listing = .ok listing)
      (visits : Amid (VisitAmid p input) listing (.start p.scheduler listing.length) visited)
      (removals : Amid Removal (unlisted visited.scheduler listing) visited last) :
      ReconcilesAmid p input { p with scheduler := last.scheduler, cache := last.cache }
        (.ok last.report)

/-- Passes one after another, while others act during and between them. What becomes of the store
and of the reported conditions is left open. -/
inductive ReachesAmid (p : Provider π κ) :
    List (PassInput π κ) → Provider π κ → List (Except Cause (PassReport π)) → Prop
  | refl : ReachesAmid p [] p []
  | others {inputs q reports scheduler} (before : ReachesAmid p inputs q reports)
      (acts : q.scheduler.ReachesBy (fun x => x.owner? = none) scheduler) (store : Store)
      (health : HealthRegistry) :
      ReachesAmid p inputs { q with scheduler, store, health } reports
  | pass {inputs q reports input next report} (before : ReachesAmid p inputs q reports)
      (pass : q.ReconcilesAmid input next report) :
      ReachesAmid p (inputs ++ [input]) next (reports ++ [report])

variable {p q : Provider π κ} {input : PassInput π κ} {a : Autoscaler} {s t u : PassState π κ}
  {listing : List Autoscaler}

/-! ### Passes alone -/

theorem visit_of_unchanged (hunchanged : p.isUnchanged a = true) :
    (p.visit input a s).value = s.remember a := by
  rw [visit, if_pos hunchanged]
  rfl

theorem visit_of_changed {declarations : List Declaration} {x : PassState π κ × Bool}
    (hchanged : p.isUnchanged a = false) (hdeclared : input.declarations a = .ok declarations)
    (started : x = (p.startPollers input a declarations
      (s.count fun n => { n with updated := n.updated + 1 })).value) {kept : PassState π κ}
    (retained : kept = { x.1 with
      scheduler := (x.1.scheduler.retain a.ref (declarations.map (·.metric))).value.1 }) :
    (p.visit input a s).value = if x.2 then kept.remember a else kept := by
  rw [visit, if_neg (Bool.eq_false_iff.mp hchanged), retained, started]
  simp only [schedule, hdeclared, Traced.value_bind, Traced.value_pure]

theorem startsAmid_alone (p : Provider π κ) (input : PassInput π κ) (a : Autoscaler)
    (declarations : List Declaration) (s : PassState π κ) :
    StartsAmid p input a declarations s (p.startPollers input a declarations s).value := by
  induction declarations generalizing s with
  | nil => exact .nil (.refl s)
  | cons d rest ih => exact .cons (.refl s) (ih _)

theorem visitAmid_alone (p : Provider π κ) (input : PassInput π κ) (a : Autoscaler)
    (s : PassState π κ) : VisitAmid p input a s (p.visit input a s).value := by
  by_cases hunchanged : p.isUnchanged a = true
  · exact .idle (.inl hunchanged)
  · cases hdeclared : input.declarations a with
    | error e => exact .idle (.inr ⟨e, hdeclared⟩)
    | ok declarations =>
        have hchanged := Bool.eq_false_iff.mpr hunchanged
        rw [visit_of_changed hchanged hdeclared rfl rfl]
        exact .scheduled hchanged hdeclared (startsAmid_alone p input a declarations _) rfl

theorem visitAll_alone (p : Provider π κ) (input : PassInput π κ) (listing : List Autoscaler)
    (s : PassState π κ) :
    Amid (VisitAmid p input) listing s (p.visitAll input listing s).value := by
  induction listing generalizing s with
  | nil => exact .nil (.refl s)
  | cons a rest ih => exact .cons (.refl s) (visitAmid_alone p input a s) (ih _)

theorem removeAll_alone (gone : List AutoscalerRef) (s : PassState π κ) :
    Amid Removal gone s (removeAll gone s).value := by
  induction gone generalizing s with
  | nil => exact .nil (.refl s)
  | cons r rest ih => exact .cons (.refl s) rfl (ih _)

/-- A pass during which nobody else acts is one of them. -/
theorem reconcilesAmid_alone (p : Provider π κ) (input : PassInput π κ) :
    p.ReconcilesAmid input (p.reconcile input).value.1 (p.reconcile input).value.2 := by
  cases hlisting : input.listing with
  | error e =>
      rw [reconcile, hlisting]
      exact .failed hlisting
  | ok listing =>
      rw [reconcile, hlisting]
      exact .passed hlisting (visitAll_alone p input listing _) (removeAll_alone _ _)

/-- What a pass is told that an action makes. -/
def input? : ProviderAction π κ → Option (PassInput π κ)
  | .pass input _ _ => some input
  | _ => none

/-- Between passes, only pollers, the channel, the store and the reported conditions change. -/
theorem eq_of_input?_eq_none {action : ProviderAction π κ} {next : Traced (Provider π κ)}
    (h : p.step? action = some next) (hinput : input? action = none) :
    next.value = { p with
      scheduler := next.value.scheduler
      store := next.value.store
      health := next.value.health } := by
  cases action with
  | pass input now seconds => cases hinput
  | openSink now =>
      obtain rfl := Option.some.inj h
      rfl
  | consume clock =>
      simp only [step?, consume?] at h
      split at h
      · cases h
      · next d scheduler _ =>
          have handled : ∀ q : Provider π κ, (q.handle d.collection clock).value.1 =
              { q with store := (q.handle d.collection clock).value.1.store } := by
            intro q
            unfold handle
            split
            · simp only [Traced.value_bind]
              split <;> rfl
            · rfl
          obtain rfl := Option.some.inj h
          simp only [Traced.value_bind, Traced.value_pure]
          split
          · rw [handled]
          · rw [handled]
  | sweep now =>
      obtain rfl := Option.some.inj h
      simp only [Provider.sweep, Traced.value_bind]
      split <;> rfl
  | poller action =>
      rw [step?] at h
      split at h
      · obtain ⟨t, -, rfl⟩ := Option.map_eq_some_iff.mp h
        rfl
      · cases h
  | cancel =>
      obtain rfl := Option.some.inj h
      rfl

/-- A run of the provider is one in which nobody else acts during passes. -/
theorem reachesAmid_of_reaches {as : List (ProviderAction π κ)}
    (run : Traced.Reaches step? p as q) :
    ∃ reports, p.ReachesAmid (as.filterMap input?) q reports := by
  induction run with
  | refl => exact ⟨[], .refl⟩
  | @step as q action next _ h ih =>
      obtain ⟨reports, before⟩ := ih
      rw [List.filterMap_append]
      cases hinput : input? action with
      | none =>
          have quiet : ∀ listing, ¬ action.Lists listing := by
            intro listing hlists
            cases action with
            | pass input now seconds => cases hinput
            | _ => cases hlists
          obtain ⟨xs, acts, -, permits⟩ := scheduler_step h
          have others : ∀ x ∈ xs, x.owner? = none := fun x hx =>
            ProviderAction.owner?_of_permits (permits x hx) quiet
          rw [List.filterMap_cons_none hinput, List.filterMap_nil, List.append_nil,
            eq_of_input?_eq_none h hinput]
          exact ⟨reports, before.others ⟨xs, acts, others⟩ _ _⟩
      | some input =>
          rw [List.filterMap_cons_some hinput, List.filterMap_nil]
          cases action with
          | pass input' now seconds =>
              obtain rfl := Option.some.inj hinput
              obtain rfl := Option.some.inj h
              have passed := before.pass (reconcilesAmid_alone q input')
              have reported : (q.pass input' now seconds).value.1 =
                  { (q.reconcile input').value.1 with
                    health := (q.pass input' now seconds).value.1.health } := by
                simp only [Provider.pass, Traced.value_bind]
                split <;> rfl
              rw [Traced.value_map, reported]
              exact ⟨_, passed.others (.refl _) _ _⟩
          | _ => cases hinput

/-! ### What a pass sees -/

theorem startPoller_resembles (h : s.Resembles t) (p : Provider π κ) (input : PassInput π κ)
    (a : Autoscaler) (d : Declaration) :
    (p.startPoller input a d s).value.1.Resembles (p.startPoller input a d t).value.1 ∧
      (p.startPoller input a d s).value.2 = (p.startPoller input a d t).value.2 := by
  have asked := h.request
    (p.registry.collector (input.build t.report.requests.length) a d (p.interval d)).request
  rw [startPoller, startPoller, h.report]
  cases (p.registry.collector (input.build t.report.requests.length) a d (p.interval d)).result with
  | ok c =>
      simp only [Traced.value_bind, Traced.value_pure]
      exact ⟨(asked.operate (h.scheduler.add a.ref d.metric c)).count _, trivial⟩
  | error e =>
      simp only [Traced.value_bind, Traced.value_pure]
      exact ⟨(asked.warn _).count _, trivial⟩

theorem StartsAmid.resembles {declarations : List Declaration} {complete : Bool}
    (starts : StartsAmid p input a declarations s (t, complete)) (h : s.Resembles u) :
    t.Resembles (p.startPollers input a declarations u).value.1 ∧
      complete = (p.startPollers input a declarations u).value.2 := by
  generalize hend : (t, complete) = x at starts
  induction starts generalizing t complete u with
  | nil wait =>
      obtain ⟨rfl, rfl⟩ := Prod.mk.inj hend
      exact ⟨wait.resembles h, rfl⟩
  | @cons d rest s t' _ others' wait others ih =>
      obtain ⟨rfl, rfl⟩ := Prod.mk.inj hend
      obtain ⟨first, started⟩ := startPoller_resembles (wait.resembles h) p input a d
      obtain ⟨last, complete⟩ := ih first rfl
      exact ⟨last, by rw [started, complete]; rfl⟩

theorem VisitAmid.resembles (visit : VisitAmid p input a s t) (h : s.Resembles u) :
    t.Resembles (p.visit input a u).value := by
  cases visit with
  | idle hidle =>
      by_cases hunchanged : p.isUnchanged a = true
      · rw [visit_of_unchanged hunchanged, visit_of_unchanged hunchanged]
        exact h.remember a
      · obtain ⟨e, herror⟩ := hidle.resolve_left hunchanged
        simp only [Provider.visit, if_neg hunchanged, schedule, herror, Traced.value_bind]
        exact (h.count _).warn _
  | @scheduled declarations _ _ _ _ hchanged hdeclared started retained =>
      obtain ⟨first, complete⟩ := started.resembles (h.count _)
      rw [retained, complete, visit_of_changed hchanged hdeclared rfl rfl]
      have kept := first.operate (first.scheduler.retain a.ref (declarations.map (·.metric)))
      split
      · exact kept.remember a
      · exact kept

theorem visitAll_resembles (visits : Amid (VisitAmid p input) listing s t) (h : s.Resembles u) :
    t.Resembles (p.visitAll input listing u).value := by
  induction visits generalizing u with
  | nil wait => exact wait.resembles h
  | cons wait first others ih => exact ih (first.resembles (wait.resembles h))

theorem removeAll_resembles {gone : List AutoscalerRef}
    (removals : Amid Removal gone s t) (h : s.Resembles u) :
    t.Resembles (removeAll gone u).value := by
  induction removals generalizing u with
  | nil wait => exact wait.resembles h
  | @cons r _ _ _ _ _ wait first others ih =>
      have waited := wait.resembles h
      subst first
      exact ih ((waited.operate (waited.scheduler.remove r)).count fun n =>
        { n with removed := n.removed + 1 })

/-- Two providers whose passes cannot be told apart. -/
structure Resembles (p q : Provider π κ) : Prop where
  config : p.config = q.config
  registry : p.registry = q.registry
  cache : p.cache = q.cache
  scheduler : p.scheduler.Resembles q.scheduler

theorem Resembles.startPollers (h : p.Resembles q) (declarations : List Declaration) :
    p.startPollers input a declarations s = q.startPollers input a declarations s := by
  have one : ∀ d s, p.startPoller input a d s = q.startPoller input a d s := by
    intro d s
    rw [startPoller, startPoller, interval, interval, h.registry, h.config]
  induction declarations generalizing s with
  | nil => rfl
  | cons d rest ih => simp only [Provider.startPollers, one, ih]

theorem Resembles.visitAll (h : p.Resembles q) :
    p.visitAll input listing s = q.visitAll input listing s := by
  have one : ∀ a s, p.visit input a s = q.visit input a s := by
    intro a s
    have unchanged : p.isUnchanged a = q.isUnchanged a := by
      rw [isUnchanged, isUnchanged, h.cache]
    have scheduled : ∀ s, p.schedule input a s = q.schedule input a s := by
      intro s
      simp only [schedule, h.startPollers]
    rw [visit, visit, unchanged, scheduled]
  induction listing generalizing s with
  | nil => rfl
  | cons a rest ih => simp only [Provider.visitAll, one, ih]

/-- A pass during which others act reports and remembers the same as one that runs alone, and leaves
the same slots. -/
theorem ReconcilesAmid.resembles {p' : Provider π κ} {report : Except Cause (PassReport π)}
    (pass : p.ReconcilesAmid input p' report) (h : p.Resembles q) :
    (q.reconcile input).value.2 = report ∧ p'.Resembles (q.reconcile input).value.1 := by
  cases pass with
  | failed hlisting =>
      rw [reconcile, hlisting]
      exact ⟨rfl, h⟩
  | @passed listing _ last hlisting visits removals =>
      obtain ⟨visited, alone, hvisited, halone, hvalue⟩ := reconcile_of_ok (p := q) hlisting
      have started : (PassState.start p.scheduler listing.length : PassState π κ).Resembles
          (.start q.scheduler listing.length) := ⟨h.scheduler, rfl, rfl⟩
      have first := visitAll_resembles visits started
      rw [h.visitAll, ← hvisited] at first
      have gone : unlisted visited.scheduler listing = unlisted _ listing :=
        congrArg (fun table => (SortedMap.keys table).filter _) first.scheduler.table.symm
      have second := removeAll_resembles removals first
      rw [hvalue, halone, gone]
      exact ⟨congrArg _ second.report.symm, h.config, h.registry, second.cache, second.scheduler⟩

/-- Passes one after another, with nobody else to act. -/
def reconcileAll (p : Provider π κ) (inputs : List (PassInput π κ)) :
    Provider π κ × List (Except Cause (PassReport π)) :=
  inputs.foldl (fun s input =>
    let next := (s.1.reconcile input).value
    (next.1, s.2 ++ [next.2])) (p, [])

theorem reconcileAll_append (p : Provider π κ) (inputs : List (PassInput π κ))
    (input : PassInput π κ) : p.reconcileAll (inputs ++ [input]) =
      ((((p.reconcileAll inputs).1).reconcile input).value.1,
        (p.reconcileAll inputs).2 ++ [(((p.reconcileAll inputs).1).reconcile input).value.2]) := by
  rw [reconcileAll, List.foldl_append]
  rfl

/-- However others act during and between passes, the passes report and remember the same as if
nobody else acted, and leave the same slots with the same collectors. -/
theorem passes_amid_others {inputs : List (PassInput π κ)}
    {reports : List (Except Cause (PassReport π))} (run : p.ReachesAmid inputs q reports) :
    reports = (p.reconcileAll inputs).2 ∧ q.cache = (p.reconcileAll inputs).1.cache ∧
      q.scheduler.table = (p.reconcileAll inputs).1.scheduler.table ∧
      ∀ r m, q.scheduler.collector? r m = (p.reconcileAll inputs).1.scheduler.collector? r m := by
  have alike : reports = (p.reconcileAll inputs).2 ∧ q.Resembles (p.reconcileAll inputs).1 := by
    induction run with
    | refl => exact ⟨rfl, rfl, rfl, rfl, .refl _⟩
    | others _ acts _ _ ih =>
        obtain ⟨hreports, hsame⟩ := ih
        exact ⟨hreports, hsame.config, hsame.registry, hsame.cache,
          acts.resembles.trans hsame.scheduler⟩
    | pass _ pass ih =>
        obtain ⟨hreports, hsame⟩ := ih
        obtain ⟨hreport, hnext⟩ := pass.resembles hsame
        rw [reconcileAll_append]
        exact ⟨by rw [hreports, hreport], hnext⟩
  obtain ⟨hreports, hsame⟩ := alike
  exact ⟨hreports, hsame.cache, hsame.scheduler.table, hsame.scheduler.collector?⟩

/-! ### Operations among others -/

theorem Amid.reaches {P : SchedulerAction κ Outcome → Prop}
    {work : α → PassState π κ → PassState π κ → Prop} {l : List α} (amid : Amid work l s t)
    (hothers : ∀ x, x.owner? = none → P x)
    (hwork : ∀ x ∈ l, ∀ s t, work x s t → s.scheduler.ReachesBy P t.scheduler) :
    s.scheduler.ReachesBy P t.scheduler := by
  induction amid with
  | nil wait => exact wait.reaches.mono hothers
  | @cons x rest _ t' u' _ wait first _ ih =>
      have worked := hwork x List.mem_cons_self t' u' first
      have later := ih fun y hy => hwork y (List.mem_cons_of_mem x hy)
      exact (wait.reaches.mono hothers).trans (worked.trans later)

/-- Actions of others, and operations that schedule an autoscaler. -/
def Schedules (r : AutoscalerRef) (x : SchedulerAction κ Outcome) : Prop :=
  x.owner? = none ∨ x.scheduled? = some r

theorem Concerns.reaches {A : Autoscaler → Prop} (h : Concerns A s t) (hA : ∀ b, A b → b = a) :
    s.scheduler.ReachesBy (Schedules a.ref) t.scheduler := by
  obtain ⟨xs, run, hxs⟩ := h.operations
  refine ⟨xs, run, ?_⟩
  intro x hx
  obtain ⟨b, hb, hscheduled⟩ := hxs x hx
  obtain rfl := hA b hb
  exact .inr hscheduled

theorem StartsAmid.reaches {declarations : List Declaration} {complete : Bool}
    (starts : StartsAmid p input a declarations s (t, complete)) :
    s.scheduler.ReachesBy (Schedules a.ref) t.scheduler := by
  generalize hend : (t, complete) = x at starts
  induction starts generalizing t complete with
  | nil wait =>
      obtain ⟨rfl, rfl⟩ := Prod.mk.inj hend
      exact wait.reaches.mono fun _ => .inl
  | @cons d _ _ t' _ _ wait _ ih =>
      obtain ⟨rfl, rfl⟩ := Prod.mk.inj hend
      have first := (startPoller_concerns p input a d t').reaches fun _ hb => hb
      exact (wait.reaches.mono fun _ => .inl).trans (first.trans (ih rfl))

theorem VisitAmid.reaches (visit : VisitAmid p input a s t) :
    s.scheduler.ReachesBy (Schedules a.ref) t.scheduler := by
  cases visit with
  | idle _ => exact (visit_concerns p input a s).reaches fun _ hb => hb.1
  | @scheduled declarations _ t' _ complete _ _ started retained =>
      have retains : t'.scheduler.step? (.retain a.ref (declarations.map (·.metric))) =
          some _ := rfl
      have last : t'.scheduler.ReachesBy (Schedules a.ref)
          (t'.scheduler.retain a.ref (declarations.map (·.metric))).value.1 :=
        ⟨_, .single retains, by simp [Schedules, SchedulerAction.scheduled?]⟩
      have worked := started.reaches.trans last
      rw [retained]
      split
      · exact worked
      · exact worked

theorem reaches_remove (s : PassState π κ) (r : AutoscalerRef) :
    Traced.Reaches Scheduler.step? s.scheduler [.remove r] (removeAll [r] s).value.scheduler := by
  obtain ⟨run, -⟩ := removeAll_reaches [r] s
  exact run

theorem Amid.split {work : α → PassState π κ → PassState π κ → Prop} {l : List α} {x : α}
    (amid : Amid work l s t) (hx : x ∈ l) :
    ∃ before u v after, l = before ++ x :: after ∧ Amid work before s u ∧ work x u v ∧
      Amid work after v t := by
  induction amid with
  | nil _ => cases hx
  | @cons y rest _ _ _ _ wait first others ih =>
      rcases List.mem_cons.mp hx with rfl | hx
      · exact ⟨[], _, _, rest, rfl, .nil wait, first, others⟩
      · obtain ⟨before, u, v, after, rfl, earlier, here, later⟩ := ih hx
        exact ⟨y :: before, u, v, after, rfl, .cons wait first earlier, here, later⟩

/-- Actions of others, and removals of some autoscalers. -/
def Removes (gone : List AutoscalerRef) (x : SchedulerAction κ Outcome) : Prop :=
  x.owner? = none ∨ ∃ r ∈ gone, x = .remove r

theorem Removes.ne_add {gone : List AutoscalerRef} {x : SchedulerAction κ Outcome}
    (h : Removes gone x) (r : AutoscalerRef) (m : MetricRef) (c : κ) : x ≠ .add r m c := by
  rintro rfl
  rcases h with hnone | ⟨_, -, hremove⟩
  · cases hnone
  · cases hremove

theorem slots_removeAll (s : PassState π κ) (r : AutoscalerRef) :
    (removeAll [r] s).value.scheduler.slots r = ∅ := by
  change (s.scheduler.remove r).value.1.slots r = ∅
  rw [Scheduler.remove_value, Scheduler.slots_withdraw, if_pos rfl]
  exact SortedMap.ext (by simp)

theorem removals_reach {gone : List AutoscalerRef}
    (removals : Amid Removal gone s t) :
    s.scheduler.ReachesBy (Removes gone) t.scheduler := by
  refine removals.reaches (fun _ => .inl) ?_
  rintro r hr s _ rfl
  exact ⟨_, reaches_remove s r, by simp [Removes, hr]⟩

theorem visits_reach (visits : Amid (VisitAmid p input) listing s t) :
    s.scheduler.ReachesBy (fun x => x.owner? = none ∨ ∃ b ∈ listing, x.scheduled? = some b.ref)
      t.scheduler := by
  refine visits.reaches (fun _ => .inl) ?_
  intro b hb s t visit
  refine visit.reaches.mono fun x => Or.imp_right ?_
  intro hscheduled
  exact ⟨b, hb, hscheduled⟩

/-- In a pass that does not list an autoscaler there is a moment from which on it has no slots. If
the autoscaler is removed at all, the moment is right after its removal. -/
theorem ReconcilesAmid.exists_unlisted {p' : Provider π κ} {report : Except Cause (PassReport π)}
    {r : AutoscalerRef} (pass : p.ReconcilesAmid input p' report)
    (hlisting : input.listing = .ok listing) (hr : r ∉ listing.map Autoscaler.ref) :
    ∃ xs u ys, Traced.Reaches Scheduler.step? p.scheduler xs u ∧
      Traced.Reaches Scheduler.step? u ys p'.scheduler ∧ u.slots r = ∅ ∧
      (∀ m c, .add r m c ∉ ys) ∧ (.remove r ∈ xs ++ ys → xs.getLast? = some (.remove r)) := by
  cases pass with
  | failed herror => cases herror.symm.trans hlisting
  | @passed listing' visited last hlisting' visits removals =>
      obtain rfl : listing = listing' := Except.ok.inj (hlisting.symm.trans hlisting')
      obtain ⟨xs, first, hxs⟩ := visits_reach visits
      by_cases hgone : r ∈ unlisted visited.scheduler listing
      · obtain ⟨_, u, _, _, -, earlier, rfl, later⟩ := removals.split hgone
        obtain ⟨ys, second, -⟩ := removals_reach earlier
        obtain ⟨zs, third, hzs⟩ := removals_reach later
        refine ⟨xs ++ ys ++ [.remove r], _, zs, (first.trans second).trans (reaches_remove u r),
          third, slots_removeAll u r, ?_, ?_⟩
        · intro m c hadd
          exact (hzs _ hadd).ne_add r m c rfl
        · intro _
          rw [List.getLast?_concat]
      · obtain ⟨ys, second, hys⟩ := removals_reach removals
        refine ⟨xs, visited.scheduler, ys, first, second, ?_, ?_, ?_⟩
        · apply Scheduler.slots_of_not_mem_resources
          exact fun hmem => hgone (mem_unlisted_iff.mpr ⟨hmem, hr⟩)
        · intro m c hadd
          exact (hys _ hadd).ne_add r m c rfl
        · intro hremove
          rcases List.mem_append.mp hremove with hremove | hremove
          · rcases hxs _ hremove with hnone | ⟨_, -, hscheduled⟩
            · cases hnone
            · cases hscheduled
          · rcases hys _ hremove with hnone | ⟨_, hmem, hsame⟩
            · cases hnone
            · obtain rfl := SchedulerAction.remove.inj hsame
              exact absurd hmem hgone

theorem ReconcilesAmid.reaches {p' : Provider π κ} {report : Except Cause (PassReport π)}
    (pass : p.ReconcilesAmid input p' report) :
    p.scheduler.ReachesBy (fun _ => True) p'.scheduler := by
  cases pass with
  | failed _ => exact .refl p.scheduler
  | passed _ visits removals =>
      have first := (visits_reach visits).mono fun _ _ => trivial
      exact first.trans ((removals_reach removals).mono fun _ _ => trivial)

theorem ReachesAmid.reaches {inputs : List (PassInput π κ)}
    {reports : List (Except Cause (PassReport π))} (run : p.ReachesAmid inputs q reports) :
    p.scheduler.ReachesBy (fun _ => True) q.scheduler := by
  induction run with
  | refl => exact .refl p.scheduler
  | others _ acts _ _ ih => exact ih.trans (acts.mono fun _ _ => trivial)
  | pass _ pass ih => exact ih.trans pass.reaches

/-- Of an autoscaler that a pass does not list, the reader receives from the moment of its removal
what the channel holds then and what is on its way there, whoever acts during this pass, those
before it and after it, until a poller is added for it again. -/
theorem received_amid_pass {config : ProviderConfig} {registry : Registry π} {lifetime : Lifetime}
    {inputs : List (PassInput π κ)} {reports : List (Except Cause (PassReport π))}
    {p' : Provider π κ} {report : Except Cause (PassReport π)} {r : AutoscalerRef}
    (earlier : (create config registry lifetime).ReachesAmid inputs p reports)
    (pass : p.ReconcilesAmid input p' report) (hlisting : input.listing = .ok listing)
    (hr : r ∉ listing.map Autoscaler.ref) :
    ∃ xs u ys, Traced.Reaches Scheduler.step? p.scheduler xs u ∧
      Traced.Reaches Scheduler.step? u ys p'.scheduler ∧
      (.remove r ∈ xs ++ ys → xs.getLast? = some (.remove r)) ∧
      ∀ zs last, Traced.Reaches Scheduler.step? p'.scheduler zs last →
        (∀ m c, .add r m c ∉ zs) →
        ∃ late, late.Subperm (u.flights r) ∧
          ofResource r (u.received (ys ++ zs)) ++ ofResource r last.queue <+:
            ofResource r u.queue ++ late ∧
          (ofResource r (u.received (ys ++ zs))).length ≤
            max config.resultsBuffer 1 + (u.flights r).length := by
  obtain ⟨as, before, -⟩ := earlier.reaches
  obtain ⟨xs, u, ys, first, second, hslots, unadded, moment⟩ :=
    pass.exists_unlisted hlisting hr
  refine ⟨xs, u, ys, first, second, moment, ?_⟩
  intro zs last third absent
  have never : ∀ m c, .add r m c ∉ ys ++ zs := by
    intro m c hadd
    exact (List.mem_append.mp hadd).elim (unadded m c) (absent m c)
  obtain ⟨late, flown, received, -, bounded⟩ :=
    Scheduler.received_of_slots_empty (before.trans first) hslots (second.trans third) never
  exact ⟨late, flown, received, bounded⟩

end Provider

end ScalingMetrics
