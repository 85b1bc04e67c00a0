import Mathlib.Data.List.Nodup
import ScalingMetrics.Proofs.Autoscaler.Declarations
import ScalingMetrics.Proofs.Provider.Pass
import ScalingMetrics.Provider.Loop

/-!
# Slots and declarations

After every pass that could list the autoscalers, the table holds pollers of listed autoscalers
only, and those that are remembered have exactly the declared slots. Their collectors are the ones
built when the autoscaler was scheduled last, however many passes ago that was: an unchanged
autoscaler declares the same metrics.

## Implementation notes

Only passes work on the table. Pollers, the loop that takes values and sweeps may act between them.
-/

namespace ScalingMetrics

/-- Autoscalers that ask for the same declare the same metrics. -/
theorem Autoscaler.specDeclarations_of_agrees {a b : Autoscaler} (h : a.agrees b = true) :
    a.specDeclarations = b.specDeclarations := by
  rw [specDeclarations, specDeclarations, declarations_of_agrees h]

/-- An autoscaler that was scheduled, with the answers to the requests made for it. -/
structure Scheduling (κ : Type) where
  resource : AutoscalerRef
  answers : List (Answered κ)

/-- The answers when an autoscaler was scheduled last. -/
def Scheduling.last? {κ : Type} (r : AutoscalerRef) (log : List (Scheduling κ)) :
    Option (List (Answered κ)) :=
  (log.reverse.find? fun x => x.resource = r).map (·.answers)

theorem Scheduling.last?_append {κ : Type} (r : AutoscalerRef) (l l' : List (Scheduling κ)) :
    last? r (l ++ l') = (last? r l').or (last? r l) := by
  rw [last?, List.reverse_append, List.find?_append, Option.map_or]
  rfl

theorem Scheduling.last?_map {κ : Type} (f : AutoscalerRef → List (Answered κ))
    (r : AutoscalerRef) (resources : List AutoscalerRef) :
    last? r (resources.map fun r => ⟨r, f r⟩) = if r ∈ resources then some (f r) else none := by
  induction resources with
  | nil => rfl
  | cons r' rest ih =>
      have hone : last? r [⟨r', f r'⟩] = if r = r' then some (f r) else none := by
        by_cases h : r = r'
        · simp [last?, h]
        · simp [last?, h, Ne.symm h]
      rw [List.map_cons, ← List.singleton_append, last?_append, ih, hone]
      by_cases hrest : r ∈ rest
      · simp [hrest]
      · simp [hrest]

/-- The lister names every autoscaler once, and metrics are read from specifications. -/
structure PassInput.Standard {π κ : Type} (input : PassInput π κ) : Prop where
  distinct : ∀ listing, input.listing = .ok listing → (listing.map Autoscaler.ref).Nodup
  parser : input.declarations = Autoscaler.specDeclarations

namespace Provider

variable {π κ : Type} {p : Provider π κ} {input : PassInput π κ} {log : List (Scheduling κ)}

/-- The autoscalers that an action schedules: those of a listing that are new or changed. -/
def schedulings (p : Provider π κ) : ProviderAction π κ → List (Scheduling κ)
  | .pass input _ _ =>
      match input.listing, (p.reconcile input).value.2 with
      | .ok listing, .ok report =>
          ((listing.filter fun a => !p.isUnchanged a).map Autoscaler.ref).map fun r =>
            ⟨r, answersFrom input.build r 0 report.requests⟩
      | _, _ => []
  | _ => []

/-- The autoscalers that a run schedules, in order. -/
def scheduled (p : Provider π κ) (as : List (ProviderAction π κ)) : List (Scheduling κ) :=
  Traced.gather step? schedulings p as

/-- Every remembered autoscaler has the slots that it declares, from when it was scheduled last. -/
structure Settled (p : Provider π κ) (log : List (Scheduling κ)) : Prop where
  coherent : p.scheduler.Coherent
  remembered : ∀ r a, p.cache.get? r = some a → ∃ answers, Scheduling.last? r log = some answers ∧
    a.specDeclarations = .ok (answers.map (·.declaration)) ∧ p.scheduler.Runs r answers

theorem settled_create (config : ProviderConfig) (registry : Registry π) (lifetime : Lifetime) :
    Settled (create config registry lifetime : Provider π κ) [] where
  coherent := Scheduler.coherent_create _
  remembered := by simp [create]

/-- An action that leaves the collectors of slots and the cache alone. -/
theorem Settled.keep {q : Provider π κ} (h : p.Settled log) (coherent : q.scheduler.Coherent)
    (hslots : ∀ r m, q.scheduler.collector? r m = p.scheduler.collector? r m)
    (hcache : q.cache = p.cache) : q.Settled (log ++ []) := by
  rw [List.append_nil]
  refine ⟨coherent, ?_⟩
  intro r a ha
  obtain ⟨answers, hlast, hdeclared, hruns⟩ := h.remembered r a (hcache ▸ ha)
  exact ⟨answers, hlast, hdeclared, fun m => hslots r m ▸ hruns m⟩

/-! ### Passes -/

theorem pass_frame (p : Provider π κ) (input : PassInput π κ) (now : Timestamp)
    (seconds : Double) :
    (p.pass input now seconds).value.1.scheduler = (p.reconcile input).value.1.scheduler ∧
      (p.pass input now seconds).value.1.cache = (p.reconcile input).value.1.cache := by
  simp only [pass, Traced.value_bind]
  split
  · exact ⟨rfl, rfl⟩
  · exact ⟨rfl, rfl⟩

/-- A pass schedules a listed autoscaler unless it is unchanged. -/
theorem last?_schedulings {listing : List Autoscaler} {report : PassReport π} {a : Autoscaler}
    (distinct : (listing.map Autoscaler.ref).Nodup) (ha : a ∈ listing) (now : Timestamp)
    (seconds : Double) (hlisting : input.listing = .ok listing)
    (hreport : (p.reconcile input).value.2 = .ok report) :
    Scheduling.last? a.ref (p.schedulings (.pass input now seconds)) =
      if p.isUnchanged a = true then none
      else some (answersFrom input.build a.ref 0 report.requests) := by
  simp only [schedulings, hlisting, hreport]
  rw [Scheduling.last?_map]
  by_cases hunchanged : p.isUnchanged a = true
  · rw [if_pos hunchanged, if_neg]
    intro hr
    obtain ⟨b, hb, href⟩ := List.mem_map.mp hr
    obtain ⟨hlisted, hchanged⟩ := List.mem_filter.mp hb
    obtain rfl : b = a := List.inj_on_of_nodup_map distinct hlisted ha href
    simp [hunchanged] at hchanged
  · rw [if_neg hunchanged, if_pos]
    apply List.mem_map_of_mem
    exact List.mem_filter.mpr ⟨ha, by simpa using hunchanged⟩

theorem Settled.pass (h : p.Settled log) (standard : input.Standard) (now : Timestamp)
    (seconds : Double) : (p.pass input now seconds).value.1.Settled
      (log ++ p.schedulings (.pass input now seconds)) := by
  obtain ⟨hscheduler, hcache⟩ := pass_frame p input now seconds
  cases hlisting : input.listing with
  | error e =>
      have hsame := reconcile_of_error (p := p) hlisting
      rw [hsame] at hscheduler hcache
      have hnone : p.schedulings (.pass input now seconds) = [] := by
        simp only [schedulings, hlisting]
      rw [hnone]
      exact h.keep (hscheduler ▸ h.coherent) (fun r m => by rw [hscheduler]) hcache
  | ok listing =>
      have distinct := standard.distinct listing hlisting
      obtain ⟨s, hvalue, coherent, -, -, hremembered⟩ :=
        reconcile_spec h.coherent hlisting distinct
      rw [hvalue] at hscheduler hcache
      refine ⟨hscheduler ▸ coherent, ?_⟩
      intro r b hb
      rw [hcache] at hb
      obtain ⟨hlisted, rfl, attended⟩ := hremembered r b hb
      rw [Scheduling.last?_append, last?_schedulings distinct hlisted now seconds hlisting
        (congrArg Prod.snd hvalue), hscheduler]
      rcases attended with ⟨hunchanged, hslots⟩ | ⟨hchanged, hdeclared, hruns⟩
      · -- The remembered copy declares the same, and its slots are still there.
        cases hold : p.cache.get? b.ref with
        | none => simp [isUnchanged, hold] at hunchanged
        | some old =>
            have hagrees : old.agrees b = true := by
              simpa [isUnchanged, hold] using hunchanged
            obtain ⟨answers, hlast, hdeclared, hruns⟩ := h.remembered b.ref old hold
            refine ⟨answers, ?_, ?_, fun m => hslots m ▸ hruns m⟩
            · rw [if_pos hunchanged, Option.none_or, hlast]
            · rw [← Autoscaler.specDeclarations_of_agrees hagrees, hdeclared]
      · refine ⟨_, ?_, ?_, hruns⟩
        · rw [hchanged, if_neg Bool.false_ne_true, Option.some_or]
          rfl
        · rw [← standard.parser, hdeclared]

/-! ### Other actions -/

theorem handle_frame (p : Provider π κ) (c : Collection) (clock : Nat → Timestamp) :
    (p.handle c clock).value.1.scheduler = p.scheduler ∧
      (p.handle c clock).value.1.cache = p.cache := by
  unfold handle
  split
  · simp only [Traced.value_bind]
    split <;> exact ⟨rfl, rfl⟩
  · exact ⟨rfl, rfl⟩

theorem sweep_frame (p : Provider π κ) (now : Timestamp) :
    (p.sweep now).value.scheduler = p.scheduler ∧ (p.sweep now).value.cache = p.cache := by
  simp only [sweep, Traced.value_bind]
  split <;> exact ⟨rfl, rfl⟩

/-- The loop that takes values receives a result, and may end then. -/
theorem consume_spec {clock : Nat → Timestamp} {next : Traced (Provider π κ)}
    (h : p.consume? clock = some next) :
    ∃ d scheduler, p.scheduler.receive? = some (d, scheduler) ∧
      (next.value.scheduler = scheduler ∨ next.value.scheduler = scheduler.close) ∧
      next.value.cache = p.cache := by
  unfold consume? at h
  split at h
  · cases h
  · next d scheduler hreceive =>
      obtain rfl := Option.some.inj h
      obtain ⟨hscheduler, hcache⟩ := handle_frame { p with scheduler } d.collection clock
      refine ⟨d, scheduler, hreceive, ?_⟩
      simp only [Traced.value_bind]
      split
      · exact ⟨.inl hscheduler, hcache⟩
      · exact ⟨.inr (congrArg Scheduler.close hscheduler), hcache⟩

theorem Settled.consume {clock : Nat → Timestamp} {next : Traced (Provider π κ)}
    (h : p.Settled log) (hstep : p.consume? clock = some next) :
    next.value.Settled (log ++ []) := by
  obtain ⟨d, scheduler, hreceive, hscheduler, hcache⟩ := consume_spec hstep
  have received : Scheduler.Step p.scheduler .receive scheduler :=
    Scheduler.step_of_step? (Scheduler.step?_receive hreceive)
  have taken := h.coherent.step received
  have slots : ∀ r m, scheduler.collector? r m = p.scheduler.collector? r m :=
    Scheduler.collector?_step received nofun nofun nofun
  rcases hscheduler with hscheduler | hscheduler
  · refine h.keep (hscheduler ▸ taken) ?_ hcache
    intro r m
    rw [hscheduler]
    exact slots r m
  · have closed := Scheduler.Step.close scheduler
    refine h.keep (hscheduler ▸ taken.step closed) ?_ hcache
    intro r m
    rw [hscheduler, Scheduler.collector?_step closed nofun nofun nofun]
    exact slots r m

theorem Settled.poller {action : SchedulerAction κ Outcome}
    {next : Traced (Scheduler κ Outcome)} (h : p.Settled log) (hpoller : action.isOfPoller = true)
    (hstep : p.scheduler.step? action = some next) :
    Settled { p with scheduler := next.value } (log ++ []) := by
  have step := Scheduler.step_of_step? hstep
  refine h.keep (h.coherent.step step) ?_ rfl
  apply Scheduler.collector?_step step
  · rintro r m c rfl
    cases hpoller
  · rintro r rfl
    cases hpoller
  · rintro r keep rfl
    cases hpoller

/-- Every action of a provider keeps what is remembered in agreement with the table. -/
theorem Settled.step {a : ProviderAction π κ} {next : Traced (Provider π κ)} (h : p.Settled log)
    (standard : ∀ input now seconds, a = .pass input now seconds → input.Standard)
    (hstep : p.step? a = some next) : next.value.Settled (log ++ p.schedulings a) := by
  cases a with
  | pass input now seconds =>
      obtain rfl := Option.some.inj hstep
      exact h.pass (standard input now seconds rfl) now seconds
  | openSink now =>
      obtain rfl := Option.some.inj hstep
      exact h.keep h.coherent (fun _ _ => rfl) rfl
  | consume clock => exact h.consume hstep
  | sweep now =>
      obtain rfl := Option.some.inj hstep
      obtain ⟨hscheduler, hcache⟩ := p.sweep_frame now
      exact h.keep (hscheduler ▸ h.coherent) (fun r m => by rw [hscheduler]) hcache
  | poller action =>
      by_cases hpoller : action.isOfPoller = true
      · rw [step?, if_pos hpoller] at hstep
        obtain ⟨t, ht, rfl⟩ := Option.map_eq_some_iff.mp hstep
        exact h.poller hpoller ht
      · rw [step?, if_neg hpoller] at hstep
        cases hstep
  | cancel =>
      obtain rfl := Option.some.inj hstep
      have cancelled := Scheduler.Step.cancelRoot p.scheduler
      exact h.keep (h.coherent.step cancelled)
        (Scheduler.collector?_step cancelled nofun nofun nofun) rfl

theorem scheduled_append {as : List (ProviderAction π κ)} {q : Provider π κ}
    {a : ProviderAction π κ} {next : Traced (Provider π κ)} (before : Traced.Reaches step? p as q)
    (h : q.step? a = some next) : p.scheduled (as ++ [a]) = p.scheduled as ++ q.schedulings a := by
  rw [scheduled, Traced.gather_append schedulings before, Traced.gather_single schedulings h,
    scheduled]

theorem settled_reaches {config : ProviderConfig} {registry : Registry π} {lifetime : Lifetime}
    {as : List (ProviderAction π κ)}
    (run : Traced.Reaches step? (create config registry lifetime) as p)
    (standard : ∀ input now seconds, .pass input now seconds ∈ as → input.Standard) :
    p.Settled ((create config registry lifetime).scheduled as) := by
  induction run with
  | refl => exact settled_create config registry lifetime
  | @step as q a next before h ih =>
      have settled := ih fun input now seconds hpass =>
        standard input now seconds (List.mem_append_left [a] hpass)
      rw [scheduled_append before h]
      refine settled.step ?_ h
      rintro input now seconds rfl
      exact standard input now seconds (by simp)

/-- After a pass, only listed autoscalers have pollers, and the slots of a remembered one are the
metrics that it declares, each polled by the collector that was built for the last declaration of
the metric when the autoscaler was scheduled last. Unchanged autoscalers and those that plugins
serve are remembered. A pass whose listing fails changes neither the table nor what is
remembered. -/
theorem slots_follow_declarations {config : ProviderConfig} {registry : Registry π}
    {lifetime : Lifetime} {as : List (ProviderAction π κ)} {before : Traced (Provider π κ)}
    {input : PassInput π κ} {now : Timestamp} {seconds : Double} {after : Provider π κ}
    (run : (create config registry lifetime).run? as = some before)
    (standard : ∀ input now seconds, .pass input now seconds ∈ as → input.Standard)
    (hinput : input.Standard)
    (pass : after = (before.value.pass input now seconds).value.1) :
    (∀ e, input.listing = .error e →
      after.scheduler = before.value.scheduler ∧ after.cache = before.value.cache) ∧
    ∀ listing, input.listing = .ok listing →
      (∀ r ∈ after.scheduler.resources, ∃ a ∈ listing, a.ref = r) ∧
      (∀ a ∈ listing, before.value.isUnchanged a = true ∨ before.value.ServesAll input a →
        after.cache.contains a.ref = true) ∧
      ∀ a ∈ listing, after.cache.contains a.ref = true →
        ∃ declarations answers, a.specDeclarations = .ok declarations ∧
          Scheduling.last? a.ref ((create config registry lifetime).scheduled
            (as ++ [.pass input now seconds])) = some answers ∧
          answers.map (·.declaration) = declarations ∧
          ∀ m, (after.scheduler.contains a.ref m = true ↔ m ∈ declarations.map (·.metric)) ∧
            ∀ q, after.scheduler.poller? a.ref m = some q →
              Answered.last? m answers = some (.ok q.collector) ∧
                (after.scheduler.rootCancelled = false → q.cancelled = false ∧
                  (after.scheduler.isOpen = true → q.phase ≠ .ended)) := by
  subst pass
  have reached : Traced.Reaches step? (create config registry lifetime) as before.value :=
    Traced.reaches_of_run? run
  have settled := settled_reaches reached standard
  obtain ⟨hscheduler, hcache⟩ := pass_frame before.value input now seconds
  constructor
  · intro e hlisting
    rw [hscheduler, hcache, reconcile_of_error hlisting]
    exact ⟨rfl, rfl⟩
  · intro listing hlisting
    have distinct := hinput.distinct listing hlisting
    obtain ⟨s, hvalue, -, hlisted, hserved, hremembered⟩ :=
      reconcile_spec settled.coherent hlisting distinct
    rw [hvalue] at hscheduler hcache
    refine ⟨?_, ?_, ?_⟩
    · intro r hr
      rw [hscheduler] at hr
      obtain ⟨a, ha, href⟩ := List.mem_map.mp (hlisted r hr)
      exact ⟨a, ha, href⟩
    · intro a ha hserves
      rw [hcache, SortedMap.contains_eq_true_iff]
      exact ⟨a, hserved a ha hserves⟩
    · intro a ha hcontains
      have after := settled.pass hinput now seconds
      obtain ⟨b, hb⟩ := SortedMap.contains_eq_true_iff.mp hcontains
      obtain ⟨hbl, href, -⟩ := hremembered a.ref b (by rw [hcache] at hb; exact hb)
      obtain rfl : b = a := List.inj_on_of_nodup_map distinct hbl ha href
      obtain ⟨answers, hlast, hdeclared, hruns⟩ := after.remembered b.ref b hb
      refine ⟨_, answers, hdeclared, ?_, rfl, ?_⟩
      · rw [scheduled_append reached rfl]
        exact hlast
      · intro m
        exact ⟨after.coherent.contains_iff_of_runs hruns, fun q hq =>
          ⟨Scheduler.last?_of_runs hruns hq, after.coherent.live_of_poller? hq⟩⟩

/-- An autoscaler that declares a metric of its pods twice. -/
def twice : Autoscaler :=
  let rps : TargetedMetric := ⟨⟨"rps", none⟩, ⟨"AverageValue", none, some "10", none⟩⟩
  let spec : MetricSpec := ⟨"Pods", some rps, none, none, none, none⟩
  { Autoscaler.empty with
    metadata := { Metadata.empty with ns := some "shop", name := some "web" }
    spec := some ⟨none, 3, ⟨none, "Deployment", "web"⟩, some [spec, spec], none⟩ }

/-- A pass over that autoscaler. The plugin refuses its second request in the first pass. -/
def attempt (k : Nat) : PassInput Nat Nat where
  listing := .ok [twice]
  declarations := Autoscaler.specDeclarations
  build n _ := if k = 0 ∧ n = 1 then .error ⟨["unavailable"]⟩ else .ok (10 * k + n)

theorem attempt_standard (k : Nat) : (attempt k).Standard where
  distinct := by
    intro listing hlisting
    obtain rfl : [twice] = listing := Except.ok.inj hlisting
    simp
  parser := rfl

/-- The first pass fails for one declaration, and the second is complete. -/
def attempts : List (ProviderAction Nat Nat) :=
  [.pass (attempt 0) ⟨0, 0⟩ ⟨0⟩, .poller (.start 0), .pass (attempt 1) ⟨30, 0⟩ ⟨0⟩,
    .poller (.start 2), .sweep ⟨60, 0⟩]

theorem slots_follow_declarations_retried :
    ∃ before after q, (create .standard (Registry.empty.insert (.pods "") 0) ⟨0⟩).run? attempts =
        some before ∧
      after = (before.value.pass (attempt 2) ⟨60, 0⟩ ⟨0⟩).value.1 ∧
      after.scheduler.poller? twice.ref ⟨.pods, "rps", none⟩ = some q ∧ q.collector = 11 ∧
      q.cancelled = false := by
  obtain ⟨before, after, run, pass, remembered, live, q, hq, hcollector⟩ :
      ∃ before after, (create .standard (Registry.empty.insert (.pods "") 0) ⟨0⟩).run? attempts =
          some before ∧
        after = (before.value.pass (attempt 2) ⟨60, 0⟩ ⟨0⟩).value.1 ∧
        after.cache.contains twice.ref = true ∧ after.scheduler.rootCancelled = false ∧
        ∃ q, after.scheduler.poller? twice.ref ⟨.pods, "rps", none⟩ = some q ∧ q.collector = 11 :=
    ⟨_, _, rfl, rfl, rfl, rfl, _, rfl, rfl⟩
  have standard : ∀ input now seconds, .pass input now seconds ∈ attempts → input.Standard := by
    intro input now seconds h
    simp only [attempts, List.mem_cons, ProviderAction.pass.injEq, reduceCtorEq,
      List.not_mem_nil, or_false, false_or] at h
    rcases h with ⟨rfl, -⟩ | ⟨rfl, -⟩
    · exact attempt_standard 0
    · exact attempt_standard 1
  have follows := (slots_follow_declarations run standard (attempt_standard 2) pass).2
  obtain ⟨_, _, _, _, _, slots⟩ := (follows [twice] rfl).2.2 twice (by simp) remembered
  exact ⟨before, after, q, run, pass, hq, hcollector, (((slots _).2 q hq).2 live).1⟩

end Provider

end ScalingMetrics
