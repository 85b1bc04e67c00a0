import ScalingMetrics.Proofs.Provider.Operations
import ScalingMetrics.Proofs.Scheduler.Sizes

/-!
# The meter of running pollers

Whatever the provider does, the meter of running pollers shows the number of slots afterwards. Only
the operations on the table touch the meter.
-/

namespace ScalingMetrics

/-- Whether a measurement is one of collected or stored values. -/
def Measurement.isOfValues : Measurement → Bool
  | collectionSucceeded => true
  | collectionFailed => true
  | storedMetrics _ _ => true
  | _ => false

theorem SchedulerAction.owner?_of_isOfPoller {κ ρ : Type} {x : SchedulerAction κ ρ}
    (h : x.isOfPoller = true) : x.owner? = none := by
  cases x with
  | add r m c => cases h
  | remove r => cases h
  | retain r keep => cases h
  | _ => rfl

namespace Provider

variable {π κ : Type} {p q : Provider π κ} {input : PassInput π κ} {s : PassState π κ}
  {a : ProviderAction π κ} {as : List (ProviderAction π κ)}

/-! ### Passes -/

theorem gauged_startPoller (p : Provider π κ) (input : PassInput π κ) (a : Autoscaler)
    (d : Declaration) (s : PassState π κ) :
    Gauged (p.startPoller input a d s).measured s.scheduler.size
      (p.startPoller input a d s).value.1.scheduler.size := by
  cases hresult : (p.registry.collector (input.build s.report.requests.length) a d
      (p.interval d)).result with
  | ok c =>
      simp only [startPoller, hresult, Traced.measured_bind, Traced.measured_line,
        Traced.measured_pure, List.nil_append, List.append_nil]
      exact s.scheduler.gauged_add a.ref d.metric c
  | error e =>
      simp only [startPoller, hresult, Traced.measured_bind, Traced.measured_line,
        Traced.measured_pure, List.append_nil]
      exact Gauged.nil _

theorem gauged_startPollers (p : Provider π κ) (input : PassInput π κ) (a : Autoscaler)
    (declarations : List Declaration) (s : PassState π κ) :
    Gauged (p.startPollers input a declarations s).measured s.scheduler.size
      (p.startPollers input a declarations s).value.1.scheduler.size := by
  induction declarations generalizing s with
  | nil => exact Gauged.nil _
  | cons d rest ih =>
      simp only [startPollers, Traced.measured_bind, Traced.measured_pure, List.append_nil]
      exact (gauged_startPoller p input a d s).append (ih _)

theorem gauged_schedule (p : Provider π κ) (input : PassInput π κ) (a : Autoscaler)
    (s : PassState π κ) :
    Gauged (p.schedule input a s).measured s.scheduler.size
      (p.schedule input a s).value.1.scheduler.size := by
  cases hparse : input.declarations a with
  | error e =>
      simp only [schedule, hparse]
      exact Gauged.nil _
  | ok declarations =>
      simp only [schedule, hparse, Traced.measured_bind, Traced.measured_pure, List.append_nil]
      exact (gauged_startPollers p input a declarations s).append
        (Scheduler.gauged_retain _ a.ref _)

theorem gauged_visit (p : Provider π κ) (input : PassInput π κ) (a : Autoscaler)
    (s : PassState π κ) :
    Gauged (p.visit input a s).measured s.scheduler.size
      (p.visit input a s).value.scheduler.size := by
  rw [visit]
  split
  · exact Gauged.nil _
  · have scheduled := gauged_schedule p input a
      (s.count fun n => { n with updated := n.updated + 1 })
    simp only [Traced.measured_bind, Traced.measured_pure, List.append_nil, Traced.value_bind,
      Traced.value_pure]
    split
    · exact scheduled
    · exact scheduled

theorem gauged_visitAll (p : Provider π κ) (input : PassInput π κ) (listing : List Autoscaler)
    (s : PassState π κ) :
    Gauged (p.visitAll input listing s).measured s.scheduler.size
      (p.visitAll input listing s).value.scheduler.size := by
  induction listing generalizing s with
  | nil => exact Gauged.nil _
  | cons a rest ih =>
      simp only [visitAll, Traced.measured_bind]
      exact (gauged_visit p input a s).append (ih _)

theorem gauged_removeAll (gone : List AutoscalerRef) (s : PassState π κ) :
    Gauged (removeAll gone s).measured s.scheduler.size
      (removeAll gone s).value.scheduler.size := by
  induction gone generalizing s with
  | nil => exact Gauged.nil _
  | cons r rest ih =>
      simp only [removeAll, Traced.measured_bind]
      exact (s.scheduler.gauged_remove r).append (ih _)

theorem gauged_reconcile (p : Provider π κ) (input : PassInput π κ) :
    Gauged (p.reconcile input).measured p.scheduler.size
      (p.reconcile input).value.1.scheduler.size := by
  cases hlisting : input.listing with
  | error e =>
      simp only [reconcile, hlisting]
      exact Gauged.nil _
  | ok listing =>
      simp only [reconcile, hlisting, Traced.measured_bind, Traced.measured_pure,
        List.append_nil]
      exact (gauged_visitAll p input listing _).append (gauged_removeAll _ _)

theorem gauges_pass (p : Provider π κ) (input : PassInput π κ) (now : Timestamp)
    (seconds : Double) :
    Gauges (p.pass input now seconds).measured p.scheduler.size
      (p.pass input now seconds).value.1.scheduler.size := by
  rw [(pass_frame p input now seconds).1]
  simp only [pass, Traced.measured_bind]
  refine (gauged_reconcile p input).gauges.append (Gauges.others ?_)
  intro n
  split <;> simp

/-! ### Other actions -/

theorem measured_keepAll (lifetime : Lifetime) (clock : Nat → Timestamp) (samples : List Sample)
    (store : Store) : (Store.keepAll lifetime clock samples store).measured = [] := by
  induction samples generalizing clock store with
  | nil => rfl
  | cons sample rest ih =>
      cases hkept : store.keep? lifetime (clock 0) sample with
      | none =>
          simp only [Store.keepAll, hkept]
          rfl
      | some kept =>
          simp only [Store.keepAll, hkept, Traced.measured_bind, ih]
          rfl

theorem measured_handle (p : Provider π κ) (c : Collection) (clock : Nat → Timestamp) :
    ∀ x ∈ (p.handle c clock).measured, x.isOfValues = true := by
  unfold handle
  split
  · simp only [Traced.measured_bind, measured_keepAll]
    split
    · simp [measureStore, Measurement.isOfValues]
    · simp [Measurement.isOfValues]
  · simp [Measurement.isOfValues]

theorem measured_sweep (p : Provider π κ) (now : Timestamp) :
    ∀ x ∈ (p.sweep now).measured, x.isOfValues = true := by
  simp only [sweep, Traced.measured_bind, Store.removeExpired]
  split
  · split <;> simp [measureStore, Measurement.isOfValues]
  · split <;> simp [measureStore, Measurement.isOfValues]

theorem measured_consume {clock : Nat → Timestamp} {next : Traced (Provider π κ)}
    (h : p.consume? clock = some next) : ∀ x ∈ next.measured, x.isOfValues = true := by
  unfold consume? at h
  split at h
  · cases h
  · next d scheduler _ =>
      obtain rfl := Option.some.inj h
      simp only [Traced.measured_bind, Traced.measured_pure, List.append_nil]
      exact measured_handle { p with scheduler } d.collection clock

/-- Measurements of values do not touch the meter. -/
theorem gauges_of_values {measured : List Measurement} (n : Nat)
    (h : ∀ x ∈ measured, x.isOfValues = true) : Gauges measured n n :=
  Gauges.others fun _ hk => Bool.false_ne_true (h _ hk)

/-- Whatever is not a pass measures values alone. -/
theorem measured_step {next : Traced (Provider π κ)} (h : p.step? a = some next)
    (ha : ∀ input now seconds, a ≠ .pass input now seconds) :
    ∀ x ∈ next.measured, x.isOfValues = true := by
  cases a with
  | pass input now seconds => exact absurd rfl (ha input now seconds)
  | openSink now =>
      obtain rfl := Option.some.inj h
      exact List.forall_mem_nil _
  | consume clock => exact measured_consume h
  | sweep now =>
      obtain rfl := Option.some.inj h
      exact p.measured_sweep now
  | poller action =>
      rw [step?] at h
      split at h
      · next hpoller =>
          obtain ⟨t, ht, rfl⟩ := Option.map_eq_some_iff.mp h
          rw [Traced.measured_map,
            Scheduler.measured_of_step? ht (SchedulerAction.owner?_of_isOfPoller hpoller)]
          exact List.forall_mem_nil _
      · cases h
  | cancel =>
      obtain rfl := Option.some.inj h
      exact List.forall_mem_nil _

/-- After every action the meter shows the number of slots, if it did before. -/
theorem gauges_step {next : Traced (Provider π κ)} (h : p.step? a = some next) :
    Gauges next.measured p.scheduler.size next.value.scheduler.size := by
  cases a with
  | pass input now seconds =>
      obtain rfl := Option.some.inj h
      rw [Traced.measured_map]
      exact gauges_pass p input now seconds
  | _ =>
      have same : next.value.scheduler.table = p.scheduler.table :=
        (frame_step h fun _ hlists => hlists).1
      rw [Scheduler.size_eq_of_table same]
      exact gauges_of_values _ (measured_step h fun _ _ _ hpass => by cases hpass)

theorem gauges_run {last : Traced (Provider π κ)} (h : p.run? as = some last) :
    Gauges last.measured p.scheduler.size last.value.scheduler.size := by
  induction as generalizing p last with
  | nil =>
      obtain rfl := Option.some.inj h
      exact Gauges.nil _
  | cons a rest ih =>
      obtain ⟨next, tail, hnext, htail, rfl⟩ := Traced.run?_cons_eq_some h
      exact (gauges_step hnext).append (ih htail)

end Provider

end ScalingMetrics
