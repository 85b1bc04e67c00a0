import ScalingMetrics.Proofs.Provider.Slots
import ScalingMetrics.Proofs.Scheduler.Rows

/-!
# What the provider does to its scheduler

A pass adds pollers for new and changed autoscalers of its listing, gives up slots of the same, and
removes autoscalers that are not listed. Every run of the provider is therefore a run of its
scheduler, in which the loop that takes values is the reader.
-/

namespace ScalingMetrics

/-- The autoscaler that an action schedules. -/
def SchedulerAction.scheduled? {κ ρ : Type} : SchedulerAction κ ρ → Option AutoscalerRef
  | add resource _ _ => some resource
  | retain resource _ => some resource
  | _ => none

theorem SchedulerAction.owner?_of_scheduled? {κ ρ : Type} {x : SchedulerAction κ ρ}
    {r : AutoscalerRef} (h : x.scheduled? = some r) : x.owner? = some r := by
  cases x with
  | add r' m c => exact h
  | retain r' keep => exact h
  | _ => cases h

namespace Provider

variable {π κ : Type} {p : Provider π κ} {input : PassInput π κ} {a : Autoscaler}
  {A B : Autoscaler → Prop} {s t u : PassState π κ} {listing : List Autoscaler}

/-! ### Work for some autoscalers -/

/-- Work for some autoscalers only: they alone are scheduled, asked for collectors or warned
about. -/
structure Concerns (A : Autoscaler → Prop) (s t : PassState π κ) : Prop where
  operations : ∃ xs, Traced.Reaches Scheduler.step? s.scheduler xs t.scheduler ∧
    ∀ x ∈ xs, ∃ a, A a ∧ x.scheduled? = some a.ref
  requests : ∀ q ∈ t.report.requests, q ∈ s.report.requests ∨ A q.autoscaler
  warnings : ∀ w ∈ t.report.warnings, w ∈ s.report.warnings ∨ A w.autoscaler

namespace Concerns

theorem refl (A : Autoscaler → Prop) (s : PassState π κ) : Concerns A s s where
  operations := ⟨[], .refl, by simp⟩
  requests _ := .inl
  warnings _ := .inl

theorem mono (h : Concerns A s t) (hAB : ∀ a, A a → B a) : Concerns B s t where
  operations := by
    obtain ⟨xs, reached, hxs⟩ := h.operations
    refine ⟨xs, reached, ?_⟩
    intro x hx
    obtain ⟨a, ha, hscheduled⟩ := hxs x hx
    exact ⟨a, hAB a ha, hscheduled⟩
  requests q hq := (h.requests q hq).imp_right (hAB _)
  warnings w hw := (h.warnings w hw).imp_right (hAB _)

theorem trans (first : Concerns A s t) (second : Concerns A t u) : Concerns A s u where
  operations := by
    obtain ⟨xs, reached, hxs⟩ := first.operations
    obtain ⟨ys, reached', hys⟩ := second.operations
    refine ⟨xs ++ ys, reached.trans reached', ?_⟩
    intro x hx
    exact (List.mem_append.mp hx).elim (hxs x) (hys x)
  requests q hq := (second.requests q hq).elim (first.requests q) .inr
  warnings w hw := (second.warnings w hw).elim (first.warnings w) .inr

theorem request (h : Concerns A s t) {asked : Option (CollectorRequest π)}
    (hasked : ∀ q ∈ asked, A q.autoscaler) : Concerns A s (t.request asked) where
  operations := h.operations
  requests q hq := by
    rcases List.mem_append.mp hq with hq | hq
    · exact h.requests q hq
    · exact .inr (hasked q (Option.mem_toList.mp hq))
  warnings := h.warnings

theorem warn (h : Concerns A s t) {w : Warning} (hw : A w.autoscaler) :
    Concerns A s (t.warn w) where
  operations := h.operations
  requests := h.requests
  warnings w' hw' := by
    rcases List.mem_append.mp hw' with hw' | hw'
    · exact h.warnings w' hw'
    · obtain rfl := List.mem_singleton.mp hw'
      exact .inr hw

theorem operate (h : Concerns A s t) {x : SchedulerAction κ Outcome}
    {next : Traced (Scheduler κ Outcome)} (hstep : t.scheduler.step? x = some next) (ha : A a)
    (hx : x.scheduled? = some a.ref) : Concerns A s { t with scheduler := next.value } where
  operations := by
    obtain ⟨xs, reached, hxs⟩ := h.operations
    refine ⟨xs ++ [x], reached.step hstep, ?_⟩
    intro y hy
    rcases List.mem_append.mp hy with hy | hy
    · exact hxs y hy
    · obtain rfl := List.mem_singleton.mp hy
      exact ⟨a, ha, hx⟩
  requests := h.requests
  warnings := h.warnings

theorem count (h : Concerns A s t) (f : PassSummary → PassSummary) :
    Concerns A s (t.count f) :=
  ⟨h.operations, h.requests, h.warnings⟩

theorem remember (h : Concerns A s t) (a : Autoscaler) : Concerns A s (t.remember a) :=
  ⟨h.operations, h.requests, h.warnings⟩

end Concerns

theorem startPoller_concerns (p : Provider π κ) (input : PassInput π κ) (a : Autoscaler)
    (d : Declaration) (s : PassState π κ) :
    Concerns (· = a) s (p.startPoller input a d s).value.1 := by
  have same := Concerns.refl (· = a) s
  cases hplugin : p.registry.resolve d with
  | error e =>
      have unasked : Concerns (· = a) s (s.request none) := same.request (by simp)
      simp only [startPoller, Registry.collector, hplugin, Traced.value_bind, Traced.value_pure]
      exact (unasked.warn (by rfl)).count _
  | ok plugin =>
      have asked : Concerns (· = a) s (s.request (some ⟨plugin, a, d, p.interval d⟩)) :=
        same.request (by simp)
      cases hbuilt : input.build s.report.requests.length ⟨plugin, a, d, p.interval d⟩ with
      | error e =>
          simp only [startPoller, Registry.collector, hplugin, hbuilt, Except.mapError,
            Traced.value_bind, Traced.value_pure]
          exact (asked.warn (by rfl)).count _
      | ok c =>
          have added : s.scheduler.step? (.add a.ref d.metric c) =
              some ((·.1) <$> s.scheduler.add a.ref d.metric c) := rfl
          simp only [startPoller, Registry.collector, hplugin, hbuilt, Except.mapError,
            Traced.value_bind, Traced.value_pure]
          exact (asked.operate added rfl rfl).count _

theorem startPollers_concerns (p : Provider π κ) (input : PassInput π κ) (a : Autoscaler)
    (declarations : List Declaration) (s : PassState π κ) :
    Concerns (· = a) s (p.startPollers input a declarations s).value.1 := by
  induction declarations generalizing s with
  | nil => exact .refl _ s
  | cons d rest ih => exact (startPoller_concerns p input a d s).trans (ih _)

theorem schedule_concerns (p : Provider π κ) (input : PassInput π κ) (a : Autoscaler)
    (s : PassState π κ) : Concerns (· = a) s (p.schedule input a s).value.1 := by
  cases hparse : input.declarations a with
  | error e =>
      simp only [schedule, hparse]
      exact (Concerns.refl (· = a) s).warn rfl
  | ok declarations =>
      have started := startPollers_concerns p input a declarations s
      have retained : (p.startPollers input a declarations s).value.1.scheduler.step?
          (.retain a.ref (declarations.map (·.metric))) = some _ := rfl
      simp only [schedule, hparse]
      exact started.operate retained rfl rfl

/-- A visit schedules the autoscaler unless it is unchanged. -/
theorem visit_concerns (p : Provider π κ) (input : PassInput π κ) (a : Autoscaler)
    (s : PassState π κ) :
    Concerns (fun b => b = a ∧ p.isUnchanged b = false) s (p.visit input a s).value := by
  cases hunchanged : p.isUnchanged a with
  | true =>
      rw [visit, if_pos hunchanged]
      exact (Concerns.refl _ s).remember a
  | false =>
      rw [visit, if_neg (Bool.eq_false_iff.mp hunchanged)]
      have counted := (Concerns.refl (· = a) s).count fun n => { n with updated := n.updated + 1 }
      have scheduled := (counted.trans (schedule_concerns p input a _)).mono
        (B := fun b => b = a ∧ p.isUnchanged b = false) fun b hb => ⟨hb, hb ▸ hunchanged⟩
      simp only [Traced.value_bind]
      split
      · exact scheduled.remember a
      · exact scheduled

theorem visitAll_concerns (p : Provider π κ) (input : PassInput π κ) (listing : List Autoscaler)
    (s : PassState π κ) :
    Concerns (fun b => b ∈ listing ∧ p.isUnchanged b = false) s
      (p.visitAll input listing s).value := by
  induction listing generalizing s with
  | nil => exact .refl _ s
  | cons a rest ih =>
      have first := (visit_concerns p input a s).mono
        (B := fun b => b ∈ a :: rest ∧ p.isUnchanged b = false) fun b hb =>
          ⟨hb.1 ▸ List.mem_cons_self, hb.2⟩
      exact first.trans ((ih _).mono fun b hb => ⟨List.mem_cons_of_mem a hb.1, hb.2⟩)

/-! ### Passes -/

theorem removeAll_reaches (gone : List AutoscalerRef) (s : PassState π κ) :
    Traced.Reaches Scheduler.step? s.scheduler (gone.map .remove)
        (removeAll gone s).value.scheduler ∧
      (removeAll gone s).value.report.requests = s.report.requests ∧
      (removeAll gone s).value.report.warnings = s.report.warnings := by
  induction gone generalizing s with
  | nil => exact ⟨.refl, rfl, rfl⟩
  | cons r rest ih =>
      have removed : s.scheduler.step? (.remove r) = some ((·.1) <$> s.scheduler.remove r) := rfl
      obtain ⟨others, report⟩ := ih ({ s with scheduler := (s.scheduler.remove r).value.1 }.count
        fun n => { n with removed := n.removed + 1 })
      exact ⟨(Traced.Reaches.single removed).trans others, report⟩

/-- A pass schedules new and changed autoscalers of its listing, asks for their collectors and
warns about them, and removes autoscalers that are not listed. It does nothing else. -/
theorem reconcile_work (p : Provider π κ) (hlisting : input.listing = .ok listing) :
    ∃ report, (p.reconcile input).value.2 = .ok report ∧
      (∀ q ∈ report.requests, q.autoscaler ∈ listing ∧ p.isUnchanged q.autoscaler = false) ∧
      (∀ w ∈ report.warnings, w.autoscaler ∈ listing ∧ p.isUnchanged w.autoscaler = false) ∧
      ∃ xs, Traced.Reaches Scheduler.step? p.scheduler xs (p.reconcile input).value.1.scheduler ∧
        ∀ x ∈ xs, (∃ a ∈ listing, p.isUnchanged a = false ∧ x.scheduled? = some a.ref) ∨
          ∃ r, r ∉ listing.map Autoscaler.ref ∧ x = .remove r := by
  obtain ⟨visited, s, hvisited, rfl, hvalue⟩ := reconcile_of_ok (p := p) hlisting
  have visits := visitAll_concerns p input listing (.start p.scheduler listing.length)
  rw [← hvisited] at visits
  obtain ⟨xs, scheduled, hxs⟩ := visits.operations
  obtain ⟨removed, requests, warnings⟩ :=
    removeAll_reaches (unlisted visited.scheduler listing) visited
  rw [hvalue]
  refine ⟨_, rfl, ?_, ?_, _, scheduled.trans removed, ?_⟩
  · intro q hq
    rw [requests] at hq
    exact (visits.requests q hq).resolve_left List.not_mem_nil
  · intro w hw
    rw [warnings] at hw
    exact (visits.warnings w hw).resolve_left List.not_mem_nil
  · intro x hx
    rcases List.mem_append.mp hx with hx | hx
    · obtain ⟨a, ⟨ha, hchanged⟩, hscheduled⟩ := hxs x hx
      exact .inl ⟨a, ha, hchanged, hscheduled⟩
    · obtain ⟨r, hr, rfl⟩ := List.mem_map.mp hx
      exact .inr ⟨r, (mem_unlisted_iff.mp hr).2, rfl⟩

/-- Only listed autoscalers are remembered by visits. -/
theorem get?_visitAll (p : Provider π κ) (input : PassInput π κ) {r : AutoscalerRef}
    (h : s.scheduler.Coherent) (hr : r ∉ listing.map Autoscaler.ref) :
    (p.visitAll input listing s).value.cache.get? r = s.cache.get? r := by
  induction listing generalizing s with
  | nil => rfl
  | cons a rest ih =>
      rw [List.map_cons, List.mem_cons, not_or] at hr
      obtain ⟨xs, reached, -⟩ := (visit_concerns p input a s).operations
      refine (ih (h.reaches reached) hr.2).trans ?_
      -- Whether or not it is remembered, the visited autoscaler is not the one looked up.
      rw [visit]
      split
      · exact (get?_remember s a r).trans (if_neg hr.1)
      · obtain ⟨new, work, -⟩ := schedule_spec p input a
          (s := s.count fun n => { n with updated := n.updated + 1 }) h
        simp only [Traced.value_bind]
        split
        · exact ((get?_remember _ a r).trans (if_neg hr.1)).trans (congrArg (·.get? r) work.cache)
        · exact congrArg (·.get? r) work.cache

/-- After a pass, only listed autoscalers have slots or are remembered. -/
theorem reconcile_covers (h : p.scheduler.Coherent) (hlisting : input.listing = .ok listing) :
    (∀ r ∈ (p.reconcile input).value.1.scheduler.resources, r ∈ listing.map Autoscaler.ref) ∧
      ∀ r b, (p.reconcile input).value.1.cache.get? r = some b →
        r ∈ listing.map Autoscaler.ref := by
  obtain ⟨visited, s, hvisited, rfl, hvalue⟩ := reconcile_of_ok (p := p) hlisting
  obtain ⟨xs, reached, -⟩ :=
    (visitAll_concerns p input listing (.start p.scheduler listing.length)).operations
  rw [← hvisited] at reached
  have coherent := h.reaches reached
  obtain ⟨-, -, -, cache, -⟩ := removeAll_spec (unlisted visited.scheduler listing) coherent
  rw [hvalue]
  constructor
  · intro r hr
    exact listed_of_removeAll_unlisted coherent hr
  · intro r b hb
    by_contra hout
    change (removeAll _ visited).value.cache.get? r = some b at hb
    rw [cache, hvisited, get?_visitAll p input h hout] at hb
    cases hb

end Provider

/-! ### Runs -/

namespace ProviderAction

variable {π κ : Type}

/-- Whether an action is a pass over a listing. -/
def Lists (listing : List Autoscaler) : ProviderAction π κ → Prop
  | pass input _ _ => input.listing = .ok listing
  | _ => False

/-- What an action may make the scheduler do. Only passes work on the table. -/
def Permits (a : ProviderAction π κ) (x : SchedulerAction κ Outcome) : Prop :=
  x.owner? = none ∨ ∃ listing, a.Lists listing ∧
    ((∃ b ∈ listing, x.scheduled? = some b.ref) ∨
      ∃ r, r ∉ listing.map Autoscaler.ref ∧ x = .remove r)

theorem owner?_of_permits {a : ProviderAction π κ} {x : SchedulerAction κ Outcome}
    (h : a.Permits x) (ha : ∀ listing, ¬ a.Lists listing) : x.owner? = none := by
  rcases h with hnone | ⟨listing, hlists, -⟩
  · exact hnone
  · exact absurd hlists (ha listing)

/-- Pollers are added for listed autoscalers only. -/
theorem lists_of_permits_add {a : ProviderAction π κ} {r : AutoscalerRef}
    {m : MetricRef} {c : κ} (h : a.Permits (.add r m c)) :
    ∃ listing, a.Lists listing ∧ r ∈ listing.map Autoscaler.ref := by
  rcases h with hnone | ⟨listing, hlists, ⟨b, hb, hscheduled⟩ | ⟨_, -, hremove⟩⟩
  · cases hnone
  · obtain rfl : r = b.ref := Option.some.inj hscheduled
    exact ⟨listing, hlists, List.mem_map_of_mem hb⟩
  · cases hremove

end ProviderAction

/-- Results are received only where the reader takes them. -/
theorem Scheduler.received_eq_nil {κ ρ : Type} {s : Scheduler κ ρ}
    {as : List (SchedulerAction κ ρ)} (h : .receive ∉ as) : s.received as = [] := by
  induction as generalizing s with
  | nil => rfl
  | cons a rest ih =>
      rw [List.mem_cons, not_or] at h
      have handed : s.hands a = [] := by
        cases a with
        | receive => exact absurd rfl h.1
        | _ => rfl
      rw [received, Traced.gather]
      split
      · rfl
      · rw [handed, List.nil_append]
        exact ih h.2

namespace Provider

variable {π κ : Type} {p q : Provider π κ} {a : ProviderAction π κ}
  {as : List (ProviderAction π κ)}

/-- The results that an action hands to the loop that takes values. -/
def hands (p : Provider π κ) : ProviderAction π κ → List (Delivery Outcome)
  | .consume _ => (p.scheduler.receive?.map (·.1)).toList
  | _ => []

/-- The results that the loop that takes values receives in a run. -/
def received (p : Provider π κ) (as : List (ProviderAction π κ)) : List (Delivery Outcome) :=
  Traced.gather step? hands p as

theorem scheduler_pass (p : Provider π κ) (input : PassInput π κ) (now : Timestamp)
    (seconds : Double) :
    ∃ xs, Traced.Reaches Scheduler.step? p.scheduler xs
        (p.pass input now seconds).value.1.scheduler ∧
      p.scheduler.received xs = [] ∧
      ∀ x ∈ xs, (ProviderAction.pass input now seconds).Permits x := by
  rw [(pass_frame p input now seconds).1]
  cases hlisting : input.listing with
  | error e =>
      rw [reconcile_of_error hlisting]
      exact ⟨[], .refl, rfl, by simp⟩
  | ok listing =>
      obtain ⟨-, -, -, -, xs, reached, hxs⟩ := p.reconcile_work hlisting
      refine ⟨xs, reached, Scheduler.received_eq_nil ?_, ?_⟩
      · intro hreceive
        rcases hxs _ hreceive with ⟨_, -, -, hscheduled⟩ | ⟨_, -, hremove⟩
        · cases hscheduled
        · cases hremove
      · intro x hx
        refine .inr ⟨listing, hlisting, (hxs x hx).imp_left ?_⟩
        rintro ⟨b, hb, -, hscheduled⟩
        exact ⟨b, hb, hscheduled⟩

/-- An action of the provider is a run of its scheduler. -/
theorem scheduler_step {next : Traced (Provider π κ)} (h : p.step? a = some next) :
    ∃ xs, Traced.Reaches Scheduler.step? p.scheduler xs next.value.scheduler ∧
      p.scheduler.received xs = p.hands a ∧ ∀ x ∈ xs, a.Permits x := by
  cases a with
  | pass input now seconds =>
      obtain rfl := Option.some.inj h
      exact p.scheduler_pass input now seconds
  | openSink now =>
      obtain rfl := Option.some.inj h
      exact ⟨[], .refl, rfl, by simp⟩
  | consume clock =>
      obtain ⟨d, scheduler, hreceive, hscheduler, -⟩ := consume_spec h
      have taken := Scheduler.step?_receive hreceive
      have reached := Traced.Reaches.single taken
      have handed : p.scheduler.received [.receive] = p.hands (.consume clock) :=
        Traced.gather_single Scheduler.hands taken
      -- The loop ends after a value that it could not keep, and the channel closes.
      rcases hscheduler with hscheduler | hscheduler
      · rw [hscheduler]
        exact ⟨_, reached, handed, by simp [ProviderAction.Permits, SchedulerAction.owner?]⟩
      · have closed : scheduler.step? .close = some (pure scheduler.close) := rfl
        rw [hscheduler]
        refine ⟨_, reached.step closed, ?_,
          by simp [ProviderAction.Permits, SchedulerAction.owner?]⟩
        rw [Scheduler.received_step reached closed, handed]
        exact List.append_nil _
  | sweep now =>
      obtain rfl := Option.some.inj h
      rw [(p.sweep_frame now).1]
      exact ⟨[], .refl, rfl, by simp⟩
  | poller action =>
      by_cases hpoller : action.isOfPoller = true
      · rw [step?, if_pos hpoller] at h
        obtain ⟨t, ht, rfl⟩ := Option.map_eq_some_iff.mp h
        refine ⟨[action], .single ht, ?_, ?_⟩
        · rw [Scheduler.received_eq_nil]
          · rfl
          · intro hreceive
            obtain rfl := List.mem_singleton.mp hreceive
            cases hpoller
        · intro x hx
          obtain rfl := List.mem_singleton.mp hx
          left
          cases x with
          | add r m c => cases hpoller
          | remove r => cases hpoller
          | retain r keep => cases hpoller
          | _ => rfl
      · rw [step?, if_neg hpoller] at h
        cases h
  | cancel =>
      obtain rfl := Option.some.inj h
      have cancelled : p.scheduler.step? .cancelRoot = some (pure p.scheduler.cancelRoot) := rfl
      exact ⟨[.cancelRoot], .single cancelled, rfl,
        by simp [ProviderAction.Permits, SchedulerAction.owner?]⟩

/-- A run of the provider is a run of its scheduler, in which the same results are received. -/
theorem scheduler_reaches (run : Traced.Reaches step? p as q) :
    ∃ xs, Traced.Reaches Scheduler.step? p.scheduler xs q.scheduler ∧
      p.scheduler.received xs = p.received as ∧ ∀ x ∈ xs, ∃ a ∈ as, a.Permits x := by
  induction run with
  | refl => exact ⟨[], .refl, rfl, by simp⟩
  | @step as q a next before h ih =>
      obtain ⟨xs, earlier, received, hxs⟩ := ih
      obtain ⟨ys, reached, handed, hys⟩ := scheduler_step h
      refine ⟨xs ++ ys, earlier.trans reached, ?_, ?_⟩
      · calc
          p.scheduler.received (xs ++ ys)
              = p.scheduler.received xs ++ q.scheduler.received ys :=
            Traced.gather_append Scheduler.hands earlier
          _ = p.received as ++ q.hands a := by rw [received, handed]
          _ = p.received (as ++ [a]) := by
            rw [Provider.received, Provider.received, Traced.gather_append hands before,
              Traced.gather_single hands h]
      · intro x hx
        rcases List.mem_append.mp hx with hx | hx
        · obtain ⟨b, hb, permits⟩ := hxs x hx
          exact ⟨b, List.mem_append_left [a] hb, permits⟩
        · exact ⟨a, by simp, hys x hx⟩

/-- Between passes that list autoscalers, the table and what is remembered stay as they are. -/
theorem frame_step {next : Traced (Provider π κ)} (h : p.step? a = some next)
    (ha : ∀ listing, ¬ a.Lists listing) :
    next.value.scheduler.table = p.scheduler.table ∧ next.value.cache = p.cache := by
  constructor
  · obtain ⟨xs, reached, -, hxs⟩ := scheduler_step h
    exact Scheduler.table_reaches reached fun x hx =>
      ProviderAction.owner?_of_permits (hxs x hx) ha
  · cases a with
    | pass input now seconds =>
        obtain rfl := Option.some.inj h
        cases hlisting : input.listing with
        | error e =>
            refine (pass_frame p input now seconds).2.trans ?_
            rw [reconcile_of_error hlisting]
        | ok listing => exact absurd hlisting (ha listing)
    | openSink now =>
        obtain rfl := Option.some.inj h
        rfl
    | consume clock =>
        obtain ⟨_, _, -, -, hcache⟩ := consume_spec h
        exact hcache
    | sweep now =>
        obtain rfl := Option.some.inj h
        exact (p.sweep_frame now).2
    | poller action =>
        rw [step?] at h
        split at h
        · obtain ⟨t, -, rfl⟩ := Option.map_eq_some_iff.mp h
          rfl
        · cases h
    | cancel =>
        obtain rfl := Option.some.inj h
        rfl

theorem frame_reaches (run : Traced.Reaches step? p as q)
    (quiet : ∀ a ∈ as, ∀ listing, ¬ a.Lists listing) :
    q.scheduler.table = p.scheduler.table ∧ q.cache = p.cache := by
  induction run with
  | refl => exact ⟨rfl, rfl⟩
  | @step as q a next before h ih =>
      obtain ⟨htable, hcache⟩ := ih fun b hb => quiet b (List.mem_append_left [a] hb)
      obtain ⟨htable', hcache'⟩ := frame_step h (quiet a (by simp))
      exact ⟨htable'.trans htable, hcache'.trans hcache⟩

theorem coherent_reaches {config : ProviderConfig} {registry : Registry π} {lifetime : Lifetime}
    (run : Traced.Reaches step? (create config registry lifetime) as p) :
    p.scheduler.Coherent := by
  obtain ⟨xs, reached, -⟩ := scheduler_reaches run
  exact (Scheduler.coherent_create _).reaches reached

end Provider

end ScalingMetrics
