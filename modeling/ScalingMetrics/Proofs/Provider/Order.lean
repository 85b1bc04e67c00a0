import ScalingMetrics.Proofs.Provider.Failures
import ScalingMetrics.Proofs.Provider.Gauge

/-!
# The order of a listing

If plugins answer to a request what they would answer at any other time of the pass, the order in
which autoscalers are listed does not matter. The accounts of a listing in another order are the
same in another order, and everything that a pass leaves behind depends on each account by itself.

## Implementation notes

Two passes start different pollers for the same declaration, and may number them differently. Slots
are compared through `Scheduler.tenant?`, which knows new pollers by their collectors only.
-/

namespace ScalingMetrics

namespace Scheduler

variable {κ ρ : Type} {s t u : Scheduler κ ρ} {r : AutoscalerRef} {m : MetricRef}

/-- A slot holds the poller that it held before, as it was. -/
def Keeps (s t : Scheduler κ ρ) (resource : AutoscalerRef) (metric : MetricRef) : Prop :=
  ∃ i p, s.occupant? resource metric = some i ∧ s.pollers[i]? = some p ∧
    t.occupant? resource metric = some i ∧ t.pollers[i]? = some p

/-- A slot holds a new poller with a collector. -/
def Adopts (s t : Scheduler κ ρ) (resource : AutoscalerRef) (metric : MetricRef)
    (collector : κ) : Prop :=
  ∃ i p, s.pollers.length ≤ i ∧ t.occupant? resource metric = some i ∧
    t.pollers[i]? = some p ∧ p.collector = collector

theorem Reallots.keeps (reallots : Reallots s t) (coherent : s.Coherent) {i : Nat}
    (held : t.tenant? s.pollers.length r m = some (.inl i)) (before : s.occupant? r m = some i) :
    s.Keeps t r m := by
  obtain ⟨p, hp, -⟩ := coherent.occupied r m i before
  refine ⟨i, p, before, hp, (tenant?_eq_some_inl_iff.mp held).1, ?_⟩
  rw [reallots.getElem?_of_tenant? coherent held before, hp]

theorem adopts_of_tenant? {c : κ} (held : t.tenant? s.pollers.length r m = some (.inr c)) :
    s.Adopts t r m c := by
  obtain ⟨i, p, ho, hi, hp, hc⟩ := tenant?_eq_some_inr_iff.mp held
  exact ⟨i, p, hi, ho, hp, hc⟩

end Scheduler

/-- What plugins answer depends on the request alone. -/
def PassInput.Steady {π κ : Type} (input : PassInput π κ) : Prop :=
  ∀ m n q, input.build m q = input.build n q

namespace Account

variable {π κ : Type} {xs ys : List (Account π κ)}

theorem of?_perm (distinct : (xs.map (·.autoscaler.ref)).Nodup) (perm : xs.Perm ys)
    (r : AutoscalerRef) : of? r xs = of? r ys := by
  have distinct' : (ys.map (·.autoscaler.ref)).Nodup :=
    (perm.map (·.autoscaler.ref)).nodup_iff.mp distinct
  ext x
  rw [of?_eq_some_iff distinct, of?_eq_some_iff distinct', perm.mem_iff]

/-- A slot is given up, stays as it is, or goes to the last collector that was built for it. -/
theorem slot_cases (x : Account π κ) (m : MetricRef) (old : Option (Nat ⊕ κ)) :
    x.slot m old = none ∨ x.slot m old = old ∨
      ∃ earlier y later c, x.attempts = earlier ++ y :: later ∧ y.declaration.metric = m ∧
        y.collector? = some c ∧ (∀ z ∈ later, z.declaration.metric = m → z.collector? = none) ∧
        x.slot m old = some (.inr c) := by
  cases htreatment : x.treatment with
  | unchanged => exact .inr (.inl (by rw [slot, htreatment]))
  | refused e => exact .inr (.inl (by rw [slot, htreatment]))
  | scheduled attempts =>
      rw [slot, Account.attempts, htreatment]
      by_cases hm : m ∈ attempts.map (·.declaration.metric)
      · right
        cases hlast : Attempt.last? m attempts with
        | none => exact .inl (by simp [hm, hlast])
        | some c =>
            obtain ⟨earlier, y, later, hsplit, hmetric, hbuilt, hlater⟩ :=
              Attempt.exists_of_last?_eq_some hlast
            exact .inr ⟨earlier, y, later, c, hsplit, hmetric, hbuilt, hlater,
              by simp [hm, hlast]⟩
      · exact .inl (if_neg hm)

end Account

namespace Provider

variable {π κ : Type} {p q q' : Provider π κ} {input : PassInput π κ} {a : Autoscaler}
  {listing listing' : List Autoscaler} {report report' : PassReport π}
  {xs ys : List (Account π κ)}

/-! ### Accounts of steady plugins -/

theorem attemptsFrom_of_steady (p : Provider π κ) (steady : input.Steady) (a : Autoscaler)
    (asked : Nat) (declarations : List Declaration) :
    p.attemptsFrom input a asked declarations = declarations.map (p.attemptAt input 0 a) := by
  have hbuild : ∀ n, input.build n = input.build 0 := fun n => funext (steady n 0)
  induction declarations generalizing asked with
  | nil => rfl
  | cons d rest ih =>
      rw [attemptsFrom, ih, List.map_cons, attemptAt, hbuild]
      rfl

/-- With steady plugins an account does not depend on the requests before it. -/
theorem accounts_of_steady (p : Provider π κ) (steady : input.Steady) (asked : Nat)
    (listing : List Autoscaler) :
    p.accounts input asked listing = listing.map (p.account input 0) := by
  have haccount : ∀ n a, p.account input n a = p.account input 0 a := by
    intro n a
    simp only [account, attemptsFrom_of_steady p steady]
  induction listing generalizing asked with
  | nil => rfl
  | cons a rest ih => rw [accounts, ih, List.map_cons, haccount]

theorem account_relisted (p : Provider π κ) (input : PassInput π κ)
    (listed : Except Cause (List Autoscaler)) (asked : Nat) (a : Autoscaler) :
    p.account { input with listing := listed } asked a = p.account input asked a := by
  have same : ∀ declarations,
      p.attemptsFrom { input with listing := listed } a asked declarations =
        p.attemptsFrom input a asked declarations := by
    intro declarations
    induction declarations generalizing asked with
    | nil => rfl
    | cons d rest ih =>
        rw [attemptsFrom, attemptsFrom, ih]
        rfl
  simp only [account, same]

/-- The attempts of an account are those for the declarations of the autoscaler. -/
theorem attempted_of_steady (steady : input.Steady) {earlier later : List (Attempt π κ)}
    {y : Attempt π κ} (h : (p.account input 0 a).attempts = earlier ++ y :: later) :
    ∃ before d after, input.declarations a = .ok (before ++ d :: after) ∧
      y = p.attemptAt input 0 a d ∧ later = after.map (p.attemptAt input 0 a) := by
  cases hunchanged : p.isUnchanged a with
  | true =>
      rw [account_of_unchanged _ _ hunchanged] at h
      simp [Account.attempts] at h
  | false =>
      cases hparse : input.declarations a with
      | error e =>
          rw [account_of_error _ hunchanged hparse] at h
          simp [Account.attempts] at h
      | ok declarations =>
          rw [account_of_ok _ hunchanged hparse, attemptsFrom_of_steady p steady] at h
          obtain ⟨before, rest, rfl, -, hrest⟩ := List.map_eq_append_iff.mp h
          obtain ⟨d, after, rfl, hy, hlater⟩ := List.map_eq_cons_iff.mp hrest
          exact ⟨before, d, after, rfl, hy.symm, hlater.symm⟩

/-! ### Conclusions from the same accounts -/

namespace Concluded

theorem tenant?_perm (c : Concluded p q listing report xs)
    (c' : Concluded p q' listing' report' ys)
    (distinct : (xs.map (·.autoscaler.ref)).Nodup) (perm : xs.Perm ys) (r : AutoscalerRef)
    (m : MetricRef) : q.scheduler.tenant? p.scheduler.pollers.length r m =
      q'.scheduler.tenant? p.scheduler.pollers.length r m := by
  rw [c.slots, c'.slots, Account.of?_perm distinct perm]

theorem cache_perm (c : Concluded p q listing report xs)
    (c' : Concluded p q' listing' report' ys)
    (distinct : (xs.map (·.autoscaler.ref)).Nodup) (perm : xs.Perm ys) : q'.cache = q.cache := by
  apply SortedMap.ext_get?
  intro r
  rw [c.cache, c'.cache, Account.of?_perm distinct perm]

theorem summary_perm (c : Concluded p q listing report xs)
    (c' : Concluded p q' listing' report' ys) (listed : listing.Perm listing')
    (perm : xs.Perm ys) : report'.summary = report.summary := by
  obtain ⟨gone, hnodup, hgone, hsummary⟩ := c.summary
  obtain ⟨gone', hnodup', hgone', hsummary'⟩ := c'.summary
  have attempted := perm.flatMap_right Account.attempts
  have removed : gone.Perm gone' := by
    rw [List.perm_ext_iff_of_nodup hnodup hnodup']
    intro r
    rw [hgone, hgone', (listed.map Autoscaler.ref).mem_iff]
  rw [hsummary, hsummary', listed.length_eq, perm.countP_eq, attempted.countP_eq,
    attempted.countP_eq, removed.length_eq]

/-- The slots of two conclusions from the same accounts hold the same: the poller that they held
before, or new ones whose collectors come from the same attempt. -/
theorem slots_perm (c : Concluded p q listing report xs)
    (c' : Concluded p q' listing' report' ys) (coherent : p.scheduler.Coherent)
    (distinct : (xs.map (·.autoscaler.ref)).Nodup) (perm : xs.Perm ys) (r : AutoscalerRef)
    (m : MetricRef) :
    (q.scheduler.occupant? r m = none ∧ q'.scheduler.occupant? r m = none) ∨
      (p.scheduler.Keeps q.scheduler r m ∧ p.scheduler.Keeps q'.scheduler r m) ∨
      ∃ x ∈ xs, x.autoscaler.ref = r ∧ ∃ earlier y later collector,
        x.attempts = earlier ++ y :: later ∧ y.declaration.metric = m ∧
        y.collector? = some collector ∧
        (∀ z ∈ later, z.declaration.metric = m → z.collector? = none) ∧
        p.scheduler.Adopts q.scheduler r m collector ∧
        p.scheduler.Adopts q'.scheduler r m collector := by
  have held := c.slots r m
  have same := c.tenant?_perm c' distinct perm r m
  cases hx : Account.of? r xs with
  | none =>
      rw [hx, Option.bind_none] at held
      left
      exact ⟨c.coherent.tenant?_eq_none_iff.mp held,
        c'.coherent.tenant?_eq_none_iff.mp (same ▸ held)⟩
  | some x =>
      obtain ⟨hmem, hr⟩ := (Account.of?_eq_some_iff distinct).mp hx
      rw [hx, Option.bind_some] at held
      rcases x.slot_cases m ((p.scheduler.occupant? r m).map .inl) with
        hnone | hold | ⟨earlier, y, later, collector, hsplit, hmetric, hbuilt, hlater, hnew⟩
      · left
        rw [hnone] at held
        exact ⟨c.coherent.tenant?_eq_none_iff.mp held,
          c'.coherent.tenant?_eq_none_iff.mp (same ▸ held)⟩
      · rw [hold] at held
        cases ho : p.scheduler.occupant? r m with
        | none =>
            left
            rw [ho, Option.map_none] at held
            exact ⟨c.coherent.tenant?_eq_none_iff.mp held,
              c'.coherent.tenant?_eq_none_iff.mp (same ▸ held)⟩
        | some i =>
            right; left
            rw [ho, Option.map_some] at held
            exact ⟨c.reallots.keeps coherent held ho,
              c'.reallots.keeps coherent (same ▸ held) ho⟩
      · right; right
        rw [hnew] at held
        exact ⟨x, hmem, hr, earlier, y, later, collector, hsplit, hmetric, hbuilt, hlater,
          Scheduler.adopts_of_tenant? held, Scheduler.adopts_of_tenant? (same ▸ held)⟩

end Concluded

/-- After a run and a pass, the meter of running pollers shows the number of slots. -/
theorem gauge_pass {config : ProviderConfig} {registry : Registry π} {lifetime : Lifetime}
    {as : List (ProviderAction π κ)} {before : Traced (Provider π κ)}
    (run : (create config registry lifetime).run? as = some before) (input : PassInput π κ)
    (now : Timestamp) (seconds : Double) :
    (Meters.zero.recordAll
        (before.measured ++ (before.value.pass input now seconds).measured)).activeCollectors =
      (before.value.pass input now seconds).value.1.scheduler.size :=
  ((gauges_run run).append (gauges_pass before.value input now seconds)) Meters.zero rfl

/-- If plugins are steady, a pass leaves the same behind whatever the order of its listing: what is
remembered, the slots, the pollers from before it, the numbers in its report, and the meter of
running pollers. A slot keeps its poller in both cases, or gets a new one in both, with the
collector of the same declaration: the last one for the slot that got any. The requests to plugins
and the warnings are the same in another order. -/
theorem pass_of_perm {config : ProviderConfig} {registry : Registry π} {lifetime : Lifetime}
    {as : List (ProviderAction π κ)} {before : Traced (Provider π κ)}
    (run : (create config registry lifetime).run? as = some before)
    (hlisting : input.listing = .ok listing) (distinct : (listing.map Autoscaler.ref).Nodup)
    (perm : listing.Perm listing') (steady : input.Steady)
    (now now' : Timestamp) (seconds seconds' : Double) :
    ∃ after report after' report',
      (before.value.pass input now seconds).value = (after, some report) ∧
      (before.value.pass { input with listing := .ok listing' } now' seconds').value =
        (after', some report') ∧
      after'.cache = after.cache ∧
      (∀ r m,
        (after.scheduler.occupant? r m = none ∧ after'.scheduler.occupant? r m = none) ∨
        (before.value.scheduler.Keeps after.scheduler r m ∧
          before.value.scheduler.Keeps after'.scheduler r m) ∨
        ∃ a ∈ listing, a.ref = r ∧ ∃ earlier d later collector,
          input.declarations a = .ok (earlier ++ d :: later) ∧ d.metric = m ∧
          (before.value.attemptAt input 0 a d).collector? = some collector ∧
          (∀ d' ∈ later, d'.metric = m →
            (before.value.attemptAt input 0 a d').collector? = none) ∧
          before.value.scheduler.Adopts after.scheduler r m collector ∧
          before.value.scheduler.Adopts after'.scheduler r m collector) ∧
      (∀ i, i < before.value.scheduler.pollers.length →
        after'.scheduler.pollers[i]? = after.scheduler.pollers[i]?) ∧
      report'.summary = report.summary ∧
      (Meters.zero.recordAll (before.measured ++
          (before.value.pass { input with listing := .ok listing' } now'
            seconds').measured)).activeCollectors =
        (Meters.zero.recordAll (before.measured ++
          (before.value.pass input now seconds).measured)).activeCollectors ∧
      report'.requests.Perm report.requests ∧
      report'.warnings.Perm report.warnings := by
  have distinct' : (listing'.map Autoscaler.ref).Nodup :=
    (perm.map Autoscaler.ref).nodup_iff.mp distinct
  have relisted : PassInput.listing { input with listing := .ok listing' } = .ok listing' := rfl
  have steady' : PassInput.Steady { input with listing := .ok listing' } := steady
  obtain ⟨after, report, hpass, coherent, c⟩ := pass_concluded run hlisting distinct now seconds
  obtain ⟨after', report', hpass', -, c'⟩ :=
    pass_concluded run relisted distinct' now' seconds'
  set xs := before.value.accounts input 0 listing with hxs
  have hdistinct : (xs.map (·.autoscaler.ref)).Nodup := by
    rw [hxs, refs_accounts]
    exact distinct
  have same : xs.Perm
      (before.value.accounts { input with listing := .ok listing' } 0 listing') := by
    have hrelisted : before.value.account { input with listing := .ok listing' } 0 =
        before.value.account input 0 :=
      funext fun a => account_relisted before.value input (.ok listing') 0 a
    rw [hxs, accounts_of_steady _ steady, accounts_of_steady _ steady', hrelisted]
    exact perm.map _
  refine ⟨after, report, after', report', hpass, hpass', c.cache_perm c' hdistinct same, ?_, ?_,
    c.summary_perm c' perm same, ?_, ?_, ?_⟩
  · intro r m
    refine (c.slots_perm c' coherent hdistinct same r m).imp_right (.imp_right ?_)
    rintro ⟨x, hx, hr, _, y, later, collector, hsplit, hmetric, hbuilt, hlater, adopts⟩
    rw [hxs, accounts_of_steady _ steady] at hx
    obtain ⟨a, ha, rfl⟩ := List.mem_map.mp hx
    obtain ⟨earlier, d, rest, hparse, rfl, rfl⟩ := attempted_of_steady steady hsplit
    refine ⟨a, ha, hr, earlier, d, rest, collector, hparse, hmetric, hbuilt, ?_, adopts⟩
    intro d' hd' hmetric'
    exact hlater _ (List.mem_map_of_mem hd') hmetric'
  · intro i hi
    refine c'.reallots.getElem?_congr c.reallots ?_ hi
    intro r m j
    rw [c.tenant?_perm c' hdistinct same]
  · rw [gauge_pass run, gauge_pass run, hpass, hpass']
    apply Scheduler.size_congr
    intro r m
    rw [← c.coherent.isSome_tenant? before.value.scheduler.pollers.length,
      ← c'.coherent.isSome_tenant? before.value.scheduler.pollers.length,
      c.tenant?_perm c' hdistinct same]
  · rw [c.requests, c'.requests]
    exact (same.flatMap_right Account.requests).symm
  · rw [c.warnings, c'.warnings]
    exact (same.flatMap_right Account.warnings).symm

/-- The plugin answers at any time what it would answer at first. -/
def consistent (refused : List String) (listing : List Autoscaler) : PassInput Nat Nat :=
  { refusing refused listing with build := fun _ => (refusing refused listing).build 0 }

theorem pass_of_perm_reversed :
    ∃ before after report after' report',
      (create .standard (Registry.empty.insert (.pods "") 0) ⟨0⟩).run?
        [.pass (refusing [] founding) ⟨0, 0⟩ ⟨0⟩] = some before ∧
      (before.value.pass (consistent ["lag"] troubled) ⟨30, 0⟩ ⟨0⟩).value = (after, some report) ∧
      (before.value.pass (consistent ["lag"] troubled.reverse) ⟨60, 0⟩ ⟨0⟩).value =
        (after', some report') ∧
      report.warnings.map (·.reason) = [.parseMetrics, .createCollector] ∧
      report'.warnings.Perm report.warnings ∧
      report.summary = ⟨2, 2, 1, 1, 1⟩ ∧ report'.summary = ⟨2, 2, 1, 1, 1⟩ ∧
      after'.cache = after.cache := by
  obtain ⟨before, run, reasons, summary⟩ : ∃ before,
      (create .standard (Registry.empty.insert (.pods "") 0) ⟨0⟩).run?
        [.pass (refusing [] founding) ⟨0, 0⟩ ⟨0⟩] = some before ∧
      (before.value.pass (consistent ["lag"] troubled) ⟨30, 0⟩ ⟨0⟩).value.2.map
        (fun report => report.warnings.map (·.reason)) =
          some [.parseMetrics, .createCollector] ∧
      (before.value.pass (consistent ["lag"] troubled) ⟨30, 0⟩ ⟨0⟩).value.2.map (·.summary) =
        some ⟨2, 2, 1, 1, 1⟩ := ⟨_, rfl, rfl, rfl⟩
  have listed : (consistent ["lag"] troubled).listing = .ok troubled := rfl
  have steady : (consistent ["lag"] troubled).Steady := fun _ _ _ => rfl
  obtain ⟨after, report, after', report', hpass, hpass', hcache, -, -, hsummary, -, -,
    hwarnings⟩ := pass_of_perm run listed (by decide) (List.reverse_perm troubled).symm steady
      ⟨30, 0⟩ ⟨60, 0⟩ ⟨0⟩ ⟨0⟩
  rw [hpass] at reasons summary
  have hsummary' : report.summary = ⟨2, 2, 1, 1, 1⟩ := Option.some.inj summary
  exact ⟨before, after, report, after', report', run, hpass, hpass', Option.some.inj reasons,
    hwarnings, hsummary', hsummary.trans hsummary', hcache⟩

end Provider

end ScalingMetrics
