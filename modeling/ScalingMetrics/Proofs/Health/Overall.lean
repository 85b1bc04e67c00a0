import Mathlib.Data.List.Induction
import ScalingMetrics.Http.Router

/-!
# The overall condition

Of each component the latest report counts, and the overall condition is the worst that components
last reported. The walk over the reports ends early, but no order of theirs changes what it finds.
So the two probes agree: a program that is ready is not unhealthy.
-/

namespace ScalingMetrics

/-- A call to the registry of health. -/
inductive HealthAction where
  | setHealthy (name : String) (now : Int)
  | setDegraded (name message : String) (now : Int)
  | setUnhealthy (name message : String) (now : Int)
  | setReady (ready : Bool)
deriving DecidableEq

namespace HealthAction

/-- The component that a call reports on, and its condition. -/
def report? : HealthAction → Option (String × Condition)
  | setHealthy name _ => some (name, .healthy)
  | setDegraded name _ _ => some (name, .degraded)
  | setUnhealthy name _ _ => some (name, .unhealthy)
  | setReady _ => none

/-- The condition that a call reports of one component. -/
def conditionOf? (name : String) (a : HealthAction) : Option Condition :=
  a.report?.bind fun r => if r.1 = name then some r.2 else none

/-- What a call says about the completed passes. -/
def ready? : HealthAction → Option Bool
  | setReady ready => some ready
  | _ => none

end HealthAction

/-- The condition that a component reported last. -/
def latest? (history : List HealthAction) (name : String) : Option Condition :=
  (history.filterMap (HealthAction.conditionOf? name)).getLast?

/-- What was said last about the completed passes. -/
def lastReady? (history : List HealthAction) : Option Bool :=
  (history.filterMap HealthAction.ready?).getLast?

namespace HealthRegistry

variable {history : List HealthAction} {reports order : List ComponentHealth} {soFar : Condition}

/-! ### The walk over the reports -/

/-- The walk finds an unhealthy component before a degraded one, wherever they stand. -/
theorem overallFrom_eq (soFar : Condition) (reports : List ComponentHealth) :
    overallFrom soFar reports =
      if .unhealthy ∈ reports.map ComponentHealth.condition then .unhealthy
      else if .degraded ∈ reports.map ComponentHealth.condition then .degraded
      else soFar := by
  induction reports generalizing soFar with
  | nil => rfl
  | cons c rest ih =>
      cases hc : c.condition with
      | healthy => simp [overallFrom, hc, ih]
      | degraded => simp [overallFrom, hc, ih]
      | unhealthy => simp [overallFrom, hc]

theorem overall_eq_unhealthy_iff :
    overall reports = .unhealthy ↔ .unhealthy ∈ reports.map ComponentHealth.condition := by
  rw [overall, overallFrom_eq]
  grind

theorem overall_eq_degraded_iff :
    overall reports = .degraded ↔
      .unhealthy ∉ reports.map ComponentHealth.condition ∧
        .degraded ∈ reports.map ComponentHealth.condition := by
  rw [overall, overallFrom_eq]
  grind

theorem overall_eq_healthy_iff :
    overall reports = .healthy ↔
      .unhealthy ∉ reports.map ComponentHealth.condition ∧
        .degraded ∉ reports.map ComponentHealth.condition := by
  rw [overall, overallFrom_eq]
  grind

theorem overall_congr_perm (h : order.Perm reports) : overall order = overall reports := by
  have same : ∀ c, c ∈ order.map ComponentHealth.condition ↔
      c ∈ reports.map ComponentHealth.condition := fun c =>
    (h.map ComponentHealth.condition).mem_iff
  rw [overall, overall, overallFrom_eq, overallFrom_eq]
  simp only [same]

/-! ### Histories -/

/-- The registry after a call. -/
def apply (h : HealthRegistry) : HealthAction → HealthRegistry
  | .setHealthy name now => h.setHealthy name now
  | .setDegraded name message now => h.setDegraded name message now
  | .setUnhealthy name message now => h.setUnhealthy name message now
  | .setReady ready => h.setReady ready

/-- The registry after calls to an empty one, in order. -/
def replay (history : List HealthAction) : HealthRegistry := history.foldl apply empty

theorem replay_concat (history : List HealthAction) (a : HealthAction) :
    replay (history ++ [a]) = (replay history).apply a := by
  simp [replay]

/-- The condition that the registry holds of a component. -/
def condition? (h : HealthRegistry) (name : String) : Option Condition :=
  (h.components.get? name).map ComponentHealth.condition

theorem condition?_report (h : HealthRegistry) (name name' : String) (condition : Condition)
    (message : Option String) (now : Int) :
    (h.report name condition message now).condition? name' =
      if name = name' then some condition else h.condition? name' := by
  rw [condition?, report, SortedMap.get?_insert]
  by_cases hname : name' = name
  · simp [hname]
  · simp [hname, Ne.symm hname, condition?]

theorem condition?_apply (h : HealthRegistry) (a : HealthAction) (name : String) :
    (h.apply a).condition? name = (a.conditionOf? name).or (h.condition? name) := by
  cases a with
  | setReady ready => rfl
  | _ =>
      refine (condition?_report h _ name _ _ _).trans ?_
      rw [HealthAction.conditionOf?, HealthAction.report?, Option.bind_some]
      split <;> rfl

theorem ready_apply (h : HealthRegistry) (a : HealthAction) :
    (h.apply a).ready = a.ready?.getD h.ready := by
  cases a <;> rfl

/-- The registry holds the latest report of each component. -/
theorem condition?_replay (name : String) :
    (replay history).condition? name = latest? history name := by
  induction history using List.reverseRecOn with
  | nil => rfl
  | append_singleton history a ih =>
      rw [replay_concat, condition?_apply, ih, latest?, latest?, List.filterMap_append]
      cases ha : a.conditionOf? name <;> simp [ha]

theorem ready_replay : (replay history).ready = true ↔ lastReady? history = some true := by
  induction history using List.reverseRecOn with
  | nil => simp [replay, empty, lastReady?]
  | append_singleton history a ih =>
      rw [replay_concat, ready_apply, lastReady?, List.filterMap_append]
      cases ha : a.ready? with
      | none => simpa [ha, lastReady?] using ih
      | some ready => simp [ha]

theorem mem_conditions_replay_iff {c : Condition} :
    c ∈ (replay history).components.values.map ComponentHealth.condition ↔
      ∃ name, latest? history name = some c := by
  simp only [← condition?_replay, condition?, Option.map_eq_some_iff, List.mem_map,
    SortedMap.mem_values_iff]
  constructor
  · rintro ⟨report, ⟨name, hname⟩, hc⟩
    exact ⟨name, report, hname, hc⟩
  · rintro ⟨name, report, hname, hc⟩
    exact ⟨report, ⟨name, hname⟩, hc⟩

/-! ### Probes -/

theorem readiness_iff (h : HealthRegistry) :
    h.readiness.ready = true ↔ h.ready = true ∧ h.health.condition ≠ .unhealthy := by
  rw [readiness, unreadyReason]
  cases h.ready with
  | false => simp
  | true => by_cases hc : h.health.condition = .unhealthy <;> simp [hc]

/-- The readiness probe asks for more than the health probe. -/
theorem healthz_of_readyz {site : Http.Site}
    (h : (Http.answer site "GET" "/readyz").value.status = 200) :
    (Http.answer site "GET" "/healthz").value.status = 200 := by
  change (if site.health.readiness.ready then 200 else 503) = 200 at h
  change (if site.health.health.condition = .unhealthy then 503 else 200) = 200
  have ready : site.health.readiness.ready = true := by
    by_contra hunready
    rw [if_neg hunready] at h
    cases h
  exact if_neg ((readiness_iff site.health).mp ready).2

/-- After any calls and for any order of the components, the overall condition is unhealthy if some
component last reported that, else degraded if some component last reported that, else healthy. The
program is ready if that was said last and no component last reported that it is unhealthy. Hence a
program whose readiness probe succeeds passes the health probe. -/
theorem overall_follows_latest (history : List HealthAction) :
    (∀ order : List ComponentHealth, order.Perm (replay history).components.values →
      (overall order = .unhealthy ↔ ∃ name, latest? history name = some .unhealthy) ∧
      (overall order = .degraded ↔ (∀ name, latest? history name ≠ some .unhealthy) ∧
        ∃ name, latest? history name = some .degraded) ∧
      (overall order = .healthy ↔ (∀ name, latest? history name ≠ some .unhealthy) ∧
        ∀ name, latest? history name ≠ some .degraded) ∧
      (replay history).health.condition = overall order) ∧
    ((replay history).readiness.ready = true ↔
      lastReady? history = some true ∧ ∀ name, latest? history name ≠ some .unhealthy) ∧
    ∀ site : Http.Site, (Http.answer site "GET" "/readyz").value.status = 200 →
      (Http.answer site "GET" "/healthz").value.status = 200 := by
  refine ⟨fun order horder => ?_, ?_, fun site => healthz_of_readyz⟩
  · have walk : overall order = overall (replay history).components.values :=
      overall_congr_perm horder
    refine ⟨?_, ?_, ?_, walk.symm⟩
    · rw [walk, overall_eq_unhealthy_iff, mem_conditions_replay_iff]
    · rw [walk, overall_eq_degraded_iff, mem_conditions_replay_iff, mem_conditions_replay_iff,
        not_exists]
    · rw [walk, overall_eq_healthy_iff, mem_conditions_replay_iff, mem_conditions_replay_iff,
        not_exists, not_exists]
  · have unhealthy : (replay history).health.condition = .unhealthy ↔
        ∃ name, latest? history name = some .unhealthy :=
      overall_eq_unhealthy_iff.trans mem_conditions_replay_iff
    rw [readiness_iff, ready_replay, ne_eq, unhealthy, not_exists]

/-- A component recovers while another is still degraded. -/
def recovery : List HealthAction :=
  [.setDegraded "provider" "slow" 1, .setUnhealthy "collector_sink" "closed" 2, .setReady true,
    .setHealthy "collector_sink" 3]

theorem overall_follows_latest_recovery :
    [⟨.degraded, some "slow", 1⟩, ⟨.healthy, none, 3⟩].Perm (replay recovery).components.values ∧
      overall [⟨.degraded, some "slow", 1⟩, ⟨.healthy, none, 3⟩] = .degraded ∧
      (replay recovery).readiness.ready = true ∧
      (Http.answer ⟨.empty, replay recovery, .zero⟩ "GET" "/readyz").value.status = 200 ∧
      (Http.answer ⟨.empty, replay recovery, .zero⟩ "GET" "/healthz").value.status = 200 := by
  obtain ⟨walks, -, probes⟩ := overall_follows_latest recovery
  have order : [⟨.degraded, some "slow", 1⟩, ⟨.healthy, none, 3⟩].Perm
      (replay recovery).components.values := List.Perm.swap _ _ []
  have ready : (Http.answer ⟨.empty, replay recovery, .zero⟩ "GET" "/readyz").value.status = 200 :=
    rfl
  have degraded : (replay recovery).health.condition = .degraded := rfl
  exact ⟨order, (walks _ order).2.2.2.symm.trans degraded, rfl, ready, probes _ ready⟩

end HealthRegistry

end ScalingMetrics
