import ScalingMetrics.Proofs.Health.Overall
import ScalingMetrics.Proofs.Provider.Gauge

/-!
# The reported condition of the provider

The condition that the provider reports is the outcome of its last pass. No loop ever reports that
it does not work, so the health check never fails, and the program is ready as soon as a pass has
succeeded. The meters count the passes by their outcomes.
-/

namespace ScalingMetrics

/-- The outcome of a pass that ends at a point in time. -/
structure PassOutcome (π : Type) where
  result : Except Cause (PassReport π)
  endedAt : Timestamp

namespace PassOutcome

variable {π : Type}

/-- Whether the pass succeeded. -/
def succeeded (o : PassOutcome π) : Bool := o.result.isOk

/-- The report that follows from an outcome. -/
def health (o : PassOutcome π) : ComponentHealth :=
  match o.result with
  | .ok _ => ⟨.healthy, none, o.endedAt.seconds⟩
  | .error e => ⟨.degraded, some e.render, o.endedAt.seconds⟩

/-- How many of some passes succeeded. -/
def successes (past : List (PassOutcome π)) : Nat := past.countP succeeded

/-- How many of some passes failed. -/
def failures (past : List (PassOutcome π)) : Nat := past.countP fun o => !o.succeeded

theorem successes_append (past later : List (PassOutcome π)) :
    successes (past ++ later) = successes past + successes later :=
  List.countP_append

theorem failures_append (past later : List (PassOutcome π)) :
    failures (past ++ later) = failures past + failures later :=
  List.countP_append

end PassOutcome

namespace HealthRegistry

variable {π : Type} {h : HealthRegistry} {past : List (PassOutcome π)}

/-! ### Reports -/

/-- The reports follow from the outcomes of the passes so far, and no component has reported that it
does not work. -/
structure Reflects (h : HealthRegistry) (past : List (PassOutcome π)) : Prop where
  latest : h.components.get? Component.provider = past.getLast?.map PassOutcome.health
  working : ∀ name c, h.components.get? name = some c → c.condition ≠ .unhealthy
  ready : h.ready = past.any PassOutcome.succeeded

theorem reflects_empty : Reflects empty ([] : List (PassOutcome π)) where
  latest := rfl
  working := by simp [empty]
  ready := rfl

theorem working_report {name : String} {condition : Condition} {message : Option String}
    {now : Int} (hworking : ∀ name c, h.components.get? name = some c → c.condition ≠ .unhealthy)
    (hcondition : condition ≠ .unhealthy) :
    ∀ name' c, (h.report name condition message now).components.get? name' = some c →
      c.condition ≠ .unhealthy := by
  intro name' c hc
  rw [report, SortedMap.get?_insert] at hc
  split at hc
  · obtain rfl := Option.some.inj hc
    exact hcondition
  · exact hworking name' c hc

/-- Another loop reports that it works. -/
theorem Reflects.other (hr : h.Reflects past) {name : String} (now : Int)
    (hname : name ≠ Component.provider) : (h.setHealthy name now).Reflects past where
  latest := by
    rw [setHealthy, report, SortedMap.get?_insert, if_neg hname.symm]
    exact hr.latest
  working := working_report hr.working nofun
  ready := hr.ready

/-- A pass reports its outcome, and the first that succeeds makes the program ready. -/
def conclude (h : HealthRegistry) (o : PassOutcome π) : HealthRegistry :=
  { h.report Component.provider o.health.condition o.health.message o.health.checkedAt with
    ready := h.ready || o.succeeded }

theorem Reflects.conclude (hr : h.Reflects past) (o : PassOutcome π) :
    (h.conclude o).Reflects (past ++ [o]) where
  latest := by
    change (h.components.insert Component.provider o.health).get? Component.provider = _
    rw [SortedMap.get?_insert, if_pos rfl, List.getLast?_concat, Option.map_some]
  working := by
    refine working_report hr.working ?_
    rw [PassOutcome.health]
    split
    · exact fun heq => by cases heq
    · exact fun heq => by cases heq
  ready := by
    rw [List.any_append, List.any_cons, List.any_nil, Bool.or_false, ← hr.ready]
    rfl

theorem Reflects.condition_ne (hr : h.Reflects past) : h.health.condition ≠ .unhealthy := by
  intro unhealthy
  obtain ⟨c, hc, hcondition⟩ := List.mem_map.mp (overall_eq_unhealthy_iff.mp unhealthy)
  obtain ⟨name, hname⟩ := SortedMap.mem_values_iff.mp hc
  exact hr.working name c hname hcondition

theorem Reflects.readiness (hr : h.Reflects past) :
    h.readiness.ready = true ↔ 0 < PassOutcome.successes past := by
  rw [readiness_iff, and_iff_left hr.condition_ne, hr.ready, List.any_eq_true,
    PassOutcome.successes, List.countP_pos_iff]

end HealthRegistry

namespace Http

theorem status_healthz {π : Type} {past : List (PassOutcome π)} {site : Site}
    (h : site.health.Reflects past) : (answer site "GET" "/healthz").value.status = 200 :=
  if_neg h.condition_ne

theorem status_readyz {π : Type} {past : List (PassOutcome π)} {site : Site}
    (h : site.health.Reflects past) :
    (answer site "GET" "/readyz").value.status =
      if 0 < PassOutcome.successes past then 200 else 503 :=
  if_congr h.readiness rfl rfl

end Http

/-! ### Meters -/

/-- Measurements that count passes by their outcomes, each with its duration. -/
def Tallies (measured : List Measurement) (succeeded failed : Nat) : Prop :=
  ∀ meters : Meters,
    (meters.recordAll measured).passSuccesses = meters.passSuccesses + succeeded ∧
    (meters.recordAll measured).passErrors = meters.passErrors + failed ∧
    (meters.recordAll measured).passDurations.count =
      meters.passDurations.count + (succeeded + failed)

/-- Whether a measurement is one of a pass. -/
def Measurement.isOfPass : Measurement → Bool
  | passSucceeded => true
  | passFailed => true
  | passDuration _ => true
  | _ => false

namespace Tallies

variable {measured measured' : List Measurement} {k l k' l' : Nat}

theorem append (first : Tallies measured k l) (second : Tallies measured' k' l') :
    Tallies (measured ++ measured') (k + k') (l + l') := by
  intro meters
  obtain ⟨successes, errors, durations⟩ := first meters
  obtain ⟨successes', errors', durations'⟩ := second (meters.recordAll measured)
  rw [Meters.recordAll_append]
  omega

/-- Other measurements count no pass. -/
theorem others (h : ∀ x ∈ measured, x.isOfPass = false) : Tallies measured 0 0 := by
  induction measured with
  | nil => exact fun _ => ⟨rfl, rfl, rfl⟩
  | cons x rest ih =>
      have hrest := ih fun y hy => h y (List.mem_cons_of_mem x hy)
      have hx := h x List.mem_cons_self
      intro meters
      have uncounted : (meters.record x).passSuccesses = meters.passSuccesses ∧
          (meters.record x).passErrors = meters.passErrors ∧
          (meters.record x).passDurations = meters.passDurations := by
        cases x with
        | passSucceeded => cases hx
        | passFailed => cases hx
        | passDuration seconds => cases hx
        | _ => exact ⟨rfl, rfl, rfl⟩
      obtain ⟨successes, errors, durations⟩ := uncounted
      rw [← successes, ← errors, ← durations]
      exact hrest (meters.record x)

end Tallies

namespace Provider

variable {π κ : Type} {p q : Provider π κ} {a : ProviderAction π κ}
  {as : List (ProviderAction π κ)} {past : List (PassOutcome π)}

open PassOutcome (successes failures successes_append failures_append)

/-- The outcome of an action that is a pass. -/
def concludes (p : Provider π κ) : ProviderAction π κ → List (PassOutcome π)
  | .pass input now _ => [⟨(p.reconcile input).value.2, now⟩]
  | _ => []

/-- The outcomes of the passes of a run, in order. -/
def outcomes (p : Provider π κ) (as : List (ProviderAction π κ)) : List (PassOutcome π) :=
  Traced.gather step? concludes p as

theorem outcomes_append {bs : List (ProviderAction π κ)} (before : Traced.Reaches step? p as q) :
    p.outcomes (as ++ bs) = p.outcomes as ++ q.outcomes bs :=
  Traced.gather_append concludes before

theorem outcomes_single {next : Traced (Provider π κ)} (h : p.step? a = some next) :
    p.outcomes [a] = p.concludes a :=
  Traced.gather_single concludes h

/-! ### Steps -/

theorem health_reconcile (p : Provider π κ) (input : PassInput π κ) :
    (p.reconcile input).value.1.health = p.health := by
  rw [reconcile]
  split <;> rfl

theorem health_pass (p : Provider π κ) (input : PassInput π κ) (now : Timestamp)
    (seconds : Double) :
    (p.pass input now seconds).value.1.health =
      p.health.conclude ⟨(p.reconcile input).value.2, now⟩ := by
  rw [← p.health_reconcile input]
  cases hresult : (p.reconcile input).value.2 with
  | ok report =>
      simp only [pass, Traced.value_bind, hresult]
      exact congrArg (HealthRegistry.mk _) (Bool.or_true _).symm
  | error e =>
      simp only [pass, Traced.value_bind, hresult]
      exact congrArg (HealthRegistry.mk _) (Bool.or_false _).symm

theorem health_handle (p : Provider π κ) (c : Collection) (clock : Nat → Timestamp) :
    (p.handle c clock).value.1.health = p.health := by
  unfold handle
  split
  · simp only [Traced.value_bind]
    split <;> rfl
  · rfl

theorem health_consume {clock : Nat → Timestamp} {next : Traced (Provider π κ)}
    (h : p.consume? clock = some next) : next.value.health = p.health := by
  unfold consume? at h
  split at h
  · cases h
  · next d scheduler _ =>
      obtain rfl := Option.some.inj h
      have handled := health_handle { p with scheduler } d.collection clock
      simp only [Traced.value_bind]
      split
      · exact handled
      · exact handled

theorem health_sweep (p : Provider π κ) (now : Timestamp) :
    (p.sweep now).value.health = p.health.setHealthy Component.storeSweep now.seconds := by
  simp only [sweep, Traced.value_bind]
  split <;> rfl

/-- Whatever happens, the reports follow from the outcomes of the passes. -/
theorem reflects_step {next : Traced (Provider π κ)} (h : p.health.Reflects past)
    (hstep : p.step? a = some next) : next.value.health.Reflects (past ++ p.concludes a) := by
  cases a with
  | pass input now seconds =>
      obtain rfl := Option.some.inj hstep
      rw [Traced.value_map, health_pass]
      exact h.conclude _
  | openSink now =>
      obtain rfl := Option.some.inj hstep
      exact (List.append_nil past).symm ▸ h.other now.seconds (by decide)
  | consume clock =>
      rw [health_consume hstep]
      exact (List.append_nil past).symm ▸ h
  | sweep now =>
      obtain rfl := Option.some.inj hstep
      rw [health_sweep]
      exact (List.append_nil past).symm ▸ h.other now.seconds (by decide)
  | poller action =>
      rw [step?] at hstep
      split at hstep
      · obtain ⟨t, -, rfl⟩ := Option.map_eq_some_iff.mp hstep
        exact (List.append_nil past).symm ▸ h
      · cases hstep
  | cancel =>
      obtain rfl := Option.some.inj hstep
      exact (List.append_nil past).symm ▸ h

theorem reflects_reaches {config : ProviderConfig} {registry : Registry π} {lifetime : Lifetime}
    (run : Traced.Reaches step? (create config registry lifetime) as p) :
    p.health.Reflects ((create config registry lifetime).outcomes as) := by
  induction run with
  | refl => exact HealthRegistry.reflects_empty
  | step before h ih =>
      rw [outcomes_append before, outcomes_single h]
      exact reflects_step ih h

/-! ### Counts -/

theorem isOfPass_of_isOfValues {x : Measurement} (h : x.isOfValues = true) :
    x.isOfPass = false := by
  cases x with
  | passSucceeded => cases h
  | passFailed => cases h
  | passDuration _ => cases h
  | _ => rfl

theorem tallies_reconcile (p : Provider π κ) (input : PassInput π κ) :
    Tallies (p.reconcile input).measured 0 0 := by
  apply Tallies.others
  intro x hx
  obtain ⟨k, rfl⟩ := (gauged_reconcile p input).alone x hx
  rfl

theorem tallies_pass (p : Provider π κ) (input : PassInput π κ) (now : Timestamp)
    (seconds : Double) :
    Tallies (p.pass input now seconds).measured
      (successes [⟨(p.reconcile input).value.2, now⟩])
      (failures [⟨(p.reconcile input).value.2, now⟩]) := by
  have silent := p.tallies_reconcile input
  cases hresult : (p.reconcile input).value.2 with
  | ok report =>
      have counted : Tallies [.passSucceeded, .passDuration seconds] 1 0 :=
        fun _ => ⟨rfl, rfl, rfl⟩
      simp only [pass, Traced.measured_bind, hresult]
      exact silent.append counted
  | error e =>
      have counted : Tallies [.passFailed, .passDuration seconds] 0 1 :=
        fun _ => ⟨rfl, rfl, rfl⟩
      simp only [pass, Traced.measured_bind, hresult]
      exact silent.append counted

theorem tallies_step {next : Traced (Provider π κ)} (h : p.step? a = some next) :
    Tallies next.measured (successes (p.concludes a)) (failures (p.concludes a)) := by
  cases a with
  | pass input now seconds =>
      obtain rfl := Option.some.inj h
      rw [Traced.measured_map]
      exact tallies_pass p input now seconds
  | _ =>
      apply Tallies.others
      intro x hx
      exact isOfPass_of_isOfValues (measured_step h (fun _ _ _ hpass => by cases hpass) x hx)

theorem tallies_run {last : Traced (Provider π κ)} (h : p.run? as = some last) :
    Tallies last.measured (successes (p.outcomes as)) (failures (p.outcomes as)) := by
  induction as generalizing p last with
  | nil =>
      obtain rfl := Option.some.inj h
      exact Tallies.others (List.forall_mem_nil _)
  | cons a rest ih =>
      obtain ⟨next, tail, hnext, htail, rfl⟩ := Traced.run?_cons_eq_some h
      have told : p.outcomes (a :: rest) = p.concludes a ++ next.value.outcomes rest := by
        rw [← outcomes_single hnext]
        exact outcomes_append (Traced.Reaches.single hnext)
      rw [told, successes_append, failures_append]
      exact (tallies_step hnext).append (ih htail)

/-- The provider reports nothing before its first pass, and then the outcome of its last pass. No
component ever reports that it does not work, so the health check succeeds. The program is ready
once a pass has succeeded, and stays so. The meters count succeeded and failed passes, and a
duration for each of them. -/
theorem conditions_follow_passes {config : ProviderConfig} {registry : Registry π}
    {lifetime : Lifetime} {last : Traced (Provider π κ)}
    (run : (create config registry lifetime).run? as = some last) :
    last.value.health.components.get? Component.provider =
        ((create config registry lifetime).outcomes as).getLast?.map PassOutcome.health ∧
      (∀ name c, last.value.health.components.get? name = some c → c.condition ≠ .unhealthy) ∧
      (∀ site : Http.Site, site.health = last.value.health →
        (Http.answer site "GET" "/healthz").value.status = 200 ∧
        (Http.answer site "GET" "/readyz").value.status =
          if 0 < successes ((create config registry lifetime).outcomes as) then 200 else 503) ∧
      (∀ bs later, last.value.run? bs = some later → ∀ site site' : Http.Site,
        site.health = last.value.health → site'.health = later.value.health →
        (Http.answer site "GET" "/readyz").value.status = 200 →
        (Http.answer site' "GET" "/readyz").value.status = 200) ∧
      (Meters.zero.recordAll last.measured).passSuccesses =
        successes ((create config registry lifetime).outcomes as) ∧
      (Meters.zero.recordAll last.measured).passErrors =
        failures ((create config registry lifetime).outcomes as) ∧
      (Meters.zero.recordAll last.measured).passDurations.count =
        (Meters.zero.recordAll last.measured).passSuccesses +
          (Meters.zero.recordAll last.measured).passErrors := by
  have reached : Traced.Reaches step? (create config registry lifetime) as last.value :=
    Traced.reaches_of_run? run
  have reflects := reflects_reaches reached
  obtain ⟨succeeded, failed, lasted⟩ := tallies_run run Meters.zero
  refine ⟨reflects.latest, reflects.working, ?_, ?_, ?_, ?_, ?_⟩
  · intro site hsite
    rw [← hsite] at reflects
    exact ⟨Http.status_healthz reflects, Http.status_readyz reflects⟩
  · intro bs later continued site site' hsite hsite' hready
    have further := Traced.reaches_of_run? continued
    have reflects' := reflects_reaches (reached.trans further)
    rw [outcomes_append reached, ← hsite'] at reflects'
    rw [← hsite] at reflects
    rw [Http.status_readyz reflects] at hready
    rw [Http.status_readyz reflects', successes_append]
    have once : 0 < successes ((create config registry lifetime).outcomes as) := by
      by_contra hnone
      rw [if_neg hnone] at hready
      cases hready
    exact if_pos (Nat.add_pos_left once _)
  · exact succeeded.trans (Nat.zero_add _)
  · exact failed.trans (Nat.zero_add _)
  · rw [succeeded, failed, lasted]
    simp [Meters.zero, Histogram.empty]

/-- A pass over no autoscalers, or one whose listing fails. -/
def answering (answer : Except Cause (List Autoscaler)) : PassInput Nat Nat where
  listing := answer
  declarations := Autoscaler.specDeclarations
  build _ _ := .error (.root "unavailable")

/-- A pass succeeds between two that fail. -/
def relapse : List (ProviderAction Nat Nat) :=
  [.openSink ⟨0, 0⟩, .pass (answering (.error (.root "refused"))) ⟨0, 0⟩ ⟨0⟩,
    .pass (answering (.ok [])) ⟨30, 0⟩ ⟨0⟩, .sweep ⟨60, 0⟩,
    .pass (answering (.error (.root "refused"))) ⟨60, 0⟩ ⟨0⟩]

theorem conditions_follow_passes_relapse :
    ∃ last, (create .standard (Registry.empty : Registry Nat) ⟨0⟩).run? relapse = some last ∧
      last.value.health.components.get? Component.provider =
        some ⟨.degraded, some "failed to list autoscalers: refused", 60⟩ ∧
      (Http.answer ⟨.empty, last.value.health, .zero⟩ "GET" "/healthz").value.status = 200 ∧
      (Http.answer ⟨.empty, last.value.health, .zero⟩ "GET" "/readyz").value.status = 200 ∧
      (Meters.zero.recordAll last.measured).passSuccesses = 1 ∧
      (Meters.zero.recordAll last.measured).passErrors = 2 ∧
      (Meters.zero.recordAll last.measured).passDurations.count = 3 := by
  obtain ⟨last, run⟩ : ∃ last,
      (create .standard (Registry.empty : Registry Nat) ⟨0⟩).run? relapse = some last := ⟨_, rfl⟩
  obtain ⟨latest, -, probes, -, succeeded, failed, lasted⟩ := conditions_follow_passes run
  obtain ⟨healthy, ready⟩ := probes ⟨.empty, last.value.health, .zero⟩ rfl
  rw [succeeded, failed] at lasted
  exact ⟨last, run, latest, healthy, ready, succeeded, failed, lasted⟩

end Provider

end ScalingMetrics
