import ScalingMetrics.Proofs.Provider.Operations
import ScalingMetrics.Proofs.Scheduler.Sizes
import ScalingMetrics.Proofs.Scheduler.Tenants

/-!
# Accounts of listed autoscalers

A pass treats each listed autoscaler in one of three ways: it is unchanged, its metrics are refused,
or a collector is attempted for each of its declarations. Everything that a pass leaves behind can
be read off the accounts of the listed autoscalers: slots, remembered copies, requests, warnings and
numbers.

## Implementation notes

An account does not mention the state in which it was drawn up, apart from the number of requests
that were made before. The effect of a list of accounts on a slot, or on a remembered copy, is the
effect of those that belong to the same autoscaler, in order (`Account.follow`).
-/

namespace ScalingMetrics

/-- A declaration with the answer to the attempt to get a collector for it. -/
structure Attempt (π κ : Type) where
  declaration : Declaration
  answer : CollectorAnswer π κ

namespace Attempt

variable {π κ : Type}

/-- The collector that was built. -/
def collector? (x : Attempt π κ) : Option κ := x.answer.result.toOption

theorem collector?_of_ok {x : Attempt π κ} {c : κ} (h : x.answer.result = .ok c) :
    x.collector? = some c := by
  rw [collector?, h]
  rfl

theorem collector?_of_error {x : Attempt π κ} {e : CollectorError}
    (h : x.answer.result = .error e) : x.collector? = none := by
  rw [collector?, h]
  rfl

/-- Whether a collector was built. -/
def built (x : Attempt π κ) : Bool := x.collector?.isSome

/-- The warning raised where no collector was built. -/
def warning? (a : Autoscaler) (x : Attempt π κ) : Option Warning :=
  match x.answer.result with
  | .ok _ => none
  | .error e => some ⟨a, .createCollector, "Failed to create new metrics collector: " ++ e.message⟩

/-- The requests made to plugins. -/
def requests (attempts : List (Attempt π κ)) : List (CollectorRequest π) :=
  attempts.filterMap (·.answer.request)

theorem requests_append (l l' : List (Attempt π κ)) :
    requests (l ++ l') = requests l ++ requests l' :=
  List.filterMap_append

theorem requests_singleton (x : Attempt π κ) : requests [x] = x.answer.request.toList := by
  cases h : x.answer.request <;> simp [requests, h]

/-- The last collector that was built for a metric. -/
def last? (metric : MetricRef) (attempts : List (Attempt π κ)) : Option κ :=
  attempts.reverse.findSome? fun x => if x.declaration.metric = metric then x.collector? else none

@[simp] theorem last?_nil (m : MetricRef) : last? m ([] : List (Attempt π κ)) = none := rfl

theorem last?_append (m : MetricRef) (l l' : List (Attempt π κ)) :
    last? m (l ++ l') = (last? m l').or (last? m l) := by
  rw [last?, List.reverse_append, List.findSome?_append]
  rfl

theorem last?_singleton (m : MetricRef) (x : Attempt π κ) :
    last? m [x] = if x.declaration.metric = m then x.collector? else none := by
  rw [last?, List.reverse_singleton, List.findSome?_singleton]

theorem isSome_last?_iff {m : MetricRef} {l : List (Attempt π κ)} :
    (last? m l).isSome = true ↔ ∃ x ∈ l, x.declaration.metric = m ∧ x.built = true := by
  rw [last?, List.findSome?_isSome_iff]
  constructor
  · rintro ⟨x, hx, hm⟩
    split at hm
    · next hmetric => exact ⟨x, List.mem_reverse.mp hx, hmetric, hm⟩
    · cases hm
  · rintro ⟨x, hx, hmetric, hbuilt⟩
    exact ⟨x, List.mem_reverse.mpr hx, by rw [if_pos hmetric]; exact hbuilt⟩

/-- The last collector is that of an attempt after which no other one for the metric succeeded. -/
theorem exists_of_last?_eq_some {m : MetricRef} {l : List (Attempt π κ)} {c : κ}
    (h : last? m l = some c) :
    ∃ earlier x later, l = earlier ++ x :: later ∧ x.declaration.metric = m ∧
      x.collector? = some c ∧
      ∀ y ∈ later, y.declaration.metric = m → y.collector? = none := by
  obtain ⟨later, x, earlier, hl, hx, hlater⟩ := List.findSome?_eq_some_iff.mp h
  have hsplit : l = earlier.reverse ++ x :: later.reverse := by
    rw [← List.reverse_reverse l, hl]
    simp
  split at hx
  · next hmetric =>
      refine ⟨earlier.reverse, x, later.reverse, hsplit, hmetric, hx, ?_⟩
      intro y hy hym
      have hnone := hlater y (List.mem_reverse.mp hy)
      rwa [if_pos hym] at hnone
  · cases hx

end Attempt

/-- How a pass treats a listed autoscaler. -/
inductive Treatment (π κ : Type) where
  /-- It is left alone. -/
  | unchanged
  /-- Its metrics are refused. -/
  | refused (reason : Cause)
  /-- A collector is attempted for each declaration. -/
  | scheduled (attempts : List (Attempt π κ))

/-- A listed autoscaler with its treatment. -/
structure Account (π κ : Type) where
  autoscaler : Autoscaler
  treatment : Treatment π κ

namespace Account

variable {π κ : Type} {α : Type}

/-- The attempts to get collectors. -/
def attempts (x : Account π κ) : List (Attempt π κ) :=
  match x.treatment with
  | .scheduled attempts => attempts
  | _ => []

/-- The requests made to plugins. -/
def requests (x : Account π κ) : List (CollectorRequest π) :=
  Attempt.requests x.attempts

/-- The warnings raised. -/
def warnings (x : Account π κ) : List Warning :=
  match x.treatment with
  | .unchanged => []
  | .refused e => [⟨x.autoscaler, .parseMetrics, "Failed to parse metrics: " ++ e.render⟩]
  | .scheduled attempts => attempts.filterMap (Attempt.warning? x.autoscaler)

/-- Whether the autoscaler is new or changed. -/
def updated (x : Account π κ) : Bool :=
  match x.treatment with
  | .unchanged => false
  | _ => true

/-- Whether nothing failed. -/
def complete (x : Account π κ) : Bool :=
  match x.treatment with
  | .unchanged => true
  | .refused _ => false
  | .scheduled attempts => attempts.all Attempt.built

/-- What becomes of a slot of the autoscaler. -/
def slot (metric : MetricRef) (x : Account π κ) (old : Option (Nat ⊕ κ)) : Option (Nat ⊕ κ) :=
  match x.treatment with
  | .scheduled attempts =>
      if metric ∈ attempts.map (·.declaration.metric) then
        ((Attempt.last? metric attempts).map .inr).or old
      else none
  | _ => old

/-- What becomes of the remembered copy of the autoscaler. -/
def copy (x : Account π κ) (old : Option Autoscaler) : Option Autoscaler :=
  if x.complete then some x.autoscaler else old

/-- What becomes of something that belongs to an autoscaler. -/
def follow (r : AutoscalerRef) (f : Account π κ → α → α) (accounts : List (Account π κ))
    (start : α) : α :=
  accounts.foldl (fun old x => if x.autoscaler.ref = r then f x old else old) start

theorem follow_append (r : AutoscalerRef) (f : Account π κ → α → α) (xs ys : List (Account π κ))
    (start : α) : follow r f (xs ++ ys) start = follow r f ys (follow r f xs start) :=
  List.foldl_append

/-- The account of an autoscaler. -/
def of? (r : AutoscalerRef) (accounts : List (Account π κ)) : Option (Account π κ) :=
  accounts.find? fun x => x.autoscaler.ref = r

theorem of?_eq_none_iff {r : AutoscalerRef} {xs : List (Account π κ)} :
    of? r xs = none ↔ r ∉ xs.map (·.autoscaler.ref) := by
  simp [of?, List.find?_eq_none]

/-- If every autoscaler has one account, it decides. -/
theorem follow_of_distinct {r : AutoscalerRef} {f : Account π κ → α → α}
    {xs : List (Account π κ)} (distinct : (xs.map (·.autoscaler.ref)).Nodup) (start : α) :
    follow r f xs start =
      match of? r xs with
      | some x => f x start
      | none => start := by
  induction xs generalizing start with
  | nil => rfl
  | cons x rest ih =>
      obtain ⟨hx, hrest⟩ := List.nodup_cons.mp distinct
      rw [follow, List.foldl_cons]
      change follow r f rest _ = _
      rw [ih hrest]
      by_cases hr : x.autoscaler.ref = r
      · have hnone : of? r rest = none := of?_eq_none_iff.mpr (hr ▸ hx)
        have hsome : of? r (x :: rest) = some x := List.find?_cons_of_pos (by simpa using hr)
        rw [hnone, hsome, if_pos hr]
      · have hskip : of? r (x :: rest) = of? r rest := List.find?_cons_of_neg (by simpa using hr)
        rw [hskip, if_neg hr]

theorem of?_eq_some_iff {r : AutoscalerRef} {x : Account π κ} {xs : List (Account π κ)}
    (distinct : (xs.map (·.autoscaler.ref)).Nodup) :
    of? r xs = some x ↔ x ∈ xs ∧ x.autoscaler.ref = r := by
  constructor
  · intro h
    exact ⟨List.mem_of_find?_eq_some h, by simpa using List.find?_some h⟩
  · rintro ⟨hx, hr⟩
    cases hfound : of? r xs with
    | none =>
        refine absurd ?_ (of?_eq_none_iff.mp hfound)
        exact hr ▸ List.mem_map_of_mem hx
    | some y =>
        have hy := List.mem_of_find?_eq_some hfound
        have hyr : y.autoscaler.ref = r := by simpa using List.find?_some hfound
        rw [List.inj_on_of_nodup_map distinct hy hx (hyr.trans hr.symm)]

end Account

namespace Provider

variable {π κ : Type} {p : Provider π κ} {input : PassInput π κ} {a : Autoscaler} {n : Nat}
  {s t u : PassState π κ} {listing : List Autoscaler}

/-- The attempt to get a collector for a declaration, with the number of requests before it. -/
def attemptAt (p : Provider π κ) (input : PassInput π κ) (asked : Nat) (a : Autoscaler)
    (d : Declaration) : Attempt π κ :=
  ⟨d, p.registry.collector (input.build asked) a d (p.interval d)⟩

/-- The attempts to get collectors for declarations in order. -/
def attemptsFrom (p : Provider π κ) (input : PassInput π κ) (a : Autoscaler) :
    Nat → List Declaration → List (Attempt π κ)
  | _, [] => []
  | asked, d :: rest =>
      let x := p.attemptAt input asked a d
      x :: p.attemptsFrom input a (asked + (Attempt.requests [x]).length) rest

/-- The account of an autoscaler, with the number of requests before it. -/
def account (p : Provider π κ) (input : PassInput π κ) (asked : Nat) (a : Autoscaler) :
    Account π κ where
  autoscaler := a
  treatment :=
    if p.isUnchanged a then .unchanged
    else
      match input.declarations a with
      | .error e => .refused e
      | .ok declarations => .scheduled (p.attemptsFrom input a asked declarations)

/-- The accounts of autoscalers in order. -/
def accounts (p : Provider π κ) (input : PassInput π κ) :
    Nat → List Autoscaler → List (Account π κ)
  | _, [] => []
  | asked, a :: rest =>
      let x := p.account input asked a
      x :: p.accounts input (asked + x.requests.length) rest

theorem map_declaration_attemptsFrom (p : Provider π κ) (input : PassInput π κ) (a : Autoscaler)
    (asked : Nat) (declarations : List Declaration) :
    (p.attemptsFrom input a asked declarations).map (·.declaration) = declarations := by
  induction declarations generalizing asked with
  | nil => rfl
  | cons d rest ih =>
      rw [attemptsFrom, List.map_cons, ih]
      rfl

theorem map_autoscaler_accounts (p : Provider π κ) (input : PassInput π κ) (asked : Nat)
    (listing : List Autoscaler) :
    (p.accounts input asked listing).map (·.autoscaler) = listing := by
  induction listing generalizing asked with
  | nil => rfl
  | cons a rest ih =>
      rw [accounts, List.map_cons, ih]
      rfl

theorem account_of_unchanged (input : PassInput π κ) (asked : Nat)
    (unchanged : p.isUnchanged a = true) : p.account input asked a = ⟨a, .unchanged⟩ := by
  rw [account, if_pos unchanged]

theorem account_of_error (asked : Nat) (changed : p.isUnchanged a = false) {e : Cause}
    (hparse : input.declarations a = .error e) : p.account input asked a = ⟨a, .refused e⟩ := by
  rw [account, if_neg (Bool.eq_false_iff.mp changed), hparse]

theorem account_of_ok (asked : Nat) (changed : p.isUnchanged a = false)
    {declarations : List Declaration} (hparse : input.declarations a = .ok declarations) :
    p.account input asked a = ⟨a, .scheduled (p.attemptsFrom input a asked declarations)⟩ := by
  rw [account, if_neg (Bool.eq_false_iff.mp changed), hparse]

theorem eq_account_of_mem {x : Account π κ} (h : x ∈ p.accounts input n listing) :
    ∃ asked, x = p.account input asked x.autoscaler := by
  induction listing generalizing n with
  | nil => cases h
  | cons a rest ih =>
      rcases List.mem_cons.mp h with rfl | hrest
      · exact ⟨n, rfl⟩
      · exact ih hrest

/-! ### Attempts -/

/-- The state of a pass after attempts for an autoscaler. -/
structure Tried (n : Nat) (a : Autoscaler) (s t : PassState π κ) (xs : List (Attempt π κ)) :
    Prop where
  coherent : t.scheduler.Coherent
  grows : s.scheduler.pollers.length ≤ t.scheduler.pollers.length
  slots : ∀ r m, t.scheduler.tenant? n r m =
    ((if r = a.ref then Attempt.last? m xs else none).map .inr).or (s.scheduler.tenant? n r m)
  requests : t.report.requests = s.report.requests ++ Attempt.requests xs
  warnings : t.report.warnings = s.report.warnings ++ xs.filterMap (Attempt.warning? a)
  summary : t.report.summary = { s.report.summary with
    scheduled := s.report.summary.scheduled + xs.countP (·.built)
    failed := s.report.summary.failed + xs.countP (!·.built) }
  cache : t.cache = s.cache

theorem Tried.refl (n : Nat) (a : Autoscaler) (h : s.scheduler.Coherent) : Tried n a s s [] where
  coherent := h
  grows := Nat.le_refl _
  slots r m := by simp
  requests := (List.append_nil _).symm
  warnings := (List.append_nil _).symm
  summary := rfl
  cache := rfl

theorem Tried.trans {xs ys : List (Attempt π κ)} (first : Tried n a s t xs)
    (second : Tried n a t u ys) : Tried n a s u (xs ++ ys) where
  coherent := second.coherent
  grows := Nat.le_trans first.grows second.grows
  slots r m := by
    rw [second.slots, first.slots, Attempt.last?_append]
    split
    · rw [Option.map_or, Option.or_assoc]
    · rfl
  requests := by rw [second.requests, first.requests, Attempt.requests_append, List.append_assoc]
  warnings := by rw [second.warnings, first.warnings, List.filterMap_append, List.append_assoc]
  summary := by
    rw [second.summary, first.summary, List.countP_append, List.countP_append]
    simp only [Nat.add_assoc]
  cache := second.cache.trans first.cache

theorem startPoller_of_ok {d : Declaration} {c : κ}
    (h : (p.attemptAt input s.report.requests.length a d).answer.result = .ok c) :
    (p.startPoller input a d s).value =
      (PassState.count
        { s.request (p.attemptAt input s.report.requests.length a d).answer.request with
          scheduler := s.scheduler.replace a.ref d.metric c }
        fun n => { n with scheduled := n.scheduled + 1 }, true) := by
  have answered : (p.registry.collector (input.build s.report.requests.length) a d
      (p.interval d)).result = .ok c := h
  simp only [startPoller, answered, Traced.value_bind, Traced.value_pure, Scheduler.add_value]
  rfl

theorem startPoller_of_error {d : Declaration} {e : CollectorError}
    (h : (p.attemptAt input s.report.requests.length a d).answer.result = .error e) :
    (p.startPoller input a d s).value =
      (((s.request (p.attemptAt input s.report.requests.length a d).answer.request).warn
        ⟨a, .createCollector, "Failed to create new metrics collector: " ++ e.message⟩).count
        fun n => { n with failed := n.failed + 1 }, false) := by
  have answered : (p.registry.collector (input.build s.report.requests.length) a d
      (p.interval d)).result = .error e := h
  simp only [startPoller, answered, Traced.value_bind, Traced.value_pure]
  rfl

/-- A poller is started if and only if a collector is built; otherwise there is a warning. -/
theorem startPoller_tried (p : Provider π κ) (input : PassInput π κ) (a : Autoscaler)
    (d : Declaration) (h : s.scheduler.Coherent) (hn : n ≤ s.scheduler.pollers.length) :
    (p.startPoller input a d s).value.2 =
        (p.attemptAt input s.report.requests.length a d).built ∧
      Tried n a s (p.startPoller input a d s).value.1
        [p.attemptAt input s.report.requests.length a d] := by
  have asked : ∀ x : Attempt π κ, s.report.requests ++ x.answer.request.toList =
      s.report.requests ++ Attempt.requests [x] := fun x => by rw [Attempt.requests_singleton]
  cases hresult : (p.attemptAt input s.report.requests.length a d).answer.result with
  | ok c =>
      rw [startPoller_of_ok hresult]
      set x := p.attemptAt input s.report.requests.length a d
      have declared : x.declaration = d := rfl
      refine ⟨by simp [Attempt.built, Attempt.collector?_of_ok hresult], h.add a.ref d.metric c,
        ?_, ?_, asked x, ?_, ?_, rfl⟩
      · exact Nat.le_of_lt ((Scheduler.length_pollers_replace ..).symm ▸ Nat.lt_succ_self _)
      · intro r m
        refine (h.tenant?_replace hn a.ref r d.metric m c).trans ?_
        rw [Attempt.last?_singleton, Attempt.collector?_of_ok hresult, declared]
        by_cases hr : r = a.ref
        · by_cases hm : m = d.metric
          · simp [hr, hm]
          · simp [hr, hm, Ne.symm hm]
        · simp [hr]
      · simp [Attempt.warning?, hresult, PassState.count, PassState.request]
      · simp [Attempt.built, Attempt.collector?_of_ok hresult, PassState.count,
          PassState.request]
  | error e =>
      rw [startPoller_of_error hresult]
      set x := p.attemptAt input s.report.requests.length a d
      refine ⟨by simp [Attempt.built, Attempt.collector?_of_error hresult], h, Nat.le_refl _,
        ?_, asked x, ?_, ?_, rfl⟩
      · intro r m
        simp [Attempt.last?_singleton, Attempt.collector?_of_error hresult, PassState.count,
          PassState.warn, PassState.request]
      · simp [Attempt.warning?, hresult, PassState.count, PassState.warn, PassState.request]
      · simp [Attempt.built, Attempt.collector?_of_error hresult, PassState.count,
          PassState.warn, PassState.request]

theorem startPollers_tried (p : Provider π κ) (input : PassInput π κ) (a : Autoscaler)
    (declarations : List Declaration) (h : s.scheduler.Coherent)
    (hn : n ≤ s.scheduler.pollers.length) :
    (p.startPollers input a declarations s).value.2 =
        (p.attemptsFrom input a s.report.requests.length declarations).all Attempt.built ∧
      Tried n a s (p.startPollers input a declarations s).value.1
        (p.attemptsFrom input a s.report.requests.length declarations) := by
  induction declarations generalizing s with
  | nil => exact ⟨rfl, Tried.refl n a h⟩
  | cons d rest ih =>
      obtain ⟨started, first⟩ := startPoller_tried p input a d h hn
      obtain ⟨others_started, others⟩ := ih first.coherent (Nat.le_trans hn first.grows)
      have asked : (p.startPoller input a d s).value.1.report.requests.length =
          s.report.requests.length +
            (Attempt.requests [p.attemptAt input s.report.requests.length a d]).length := by
        rw [first.requests, List.length_append]
      rw [asked] at others_started others
      constructor
      · simp only [startPollers, Traced.value_bind, Traced.value_pure, attemptsFrom, List.all_cons]
        rw [started, others_started]
      · exact first.trans others

/-! ### Visits -/

/-- The state of a pass after visits with the given accounts. -/
structure Accounted (n : Nat) (s t : PassState π κ) (xs : List (Account π κ)) : Prop where
  coherent : t.scheduler.Coherent
  grows : s.scheduler.pollers.length ≤ t.scheduler.pollers.length
  slots : ∀ r m, t.scheduler.tenant? n r m =
    Account.follow r (Account.slot m) xs (s.scheduler.tenant? n r m)
  cache : ∀ r, t.cache.get? r = Account.follow r Account.copy xs (s.cache.get? r)
  requests : t.report.requests = s.report.requests ++ xs.flatMap Account.requests
  warnings : t.report.warnings = s.report.warnings ++ xs.flatMap Account.warnings
  summary : t.report.summary = { s.report.summary with
    updated := s.report.summary.updated + xs.countP Account.updated
    scheduled := s.report.summary.scheduled + (xs.flatMap Account.attempts).countP (·.built)
    failed := s.report.summary.failed + (xs.flatMap Account.attempts).countP (!·.built) }

theorem Accounted.refl (n : Nat) (h : s.scheduler.Coherent) : Accounted n s s [] where
  coherent := h
  grows := Nat.le_refl _
  slots _ _ := rfl
  cache _ := rfl
  requests := (List.append_nil _).symm
  warnings := (List.append_nil _).symm
  summary := rfl

theorem Accounted.trans {xs ys : List (Account π κ)} (first : Accounted n s t xs)
    (second : Accounted n t u ys) : Accounted n s u (xs ++ ys) where
  coherent := second.coherent
  grows := Nat.le_trans first.grows second.grows
  slots r m := by rw [second.slots, first.slots, Account.follow_append]
  cache r := by rw [second.cache, first.cache, Account.follow_append]
  requests := by rw [second.requests, first.requests, List.flatMap_append, List.append_assoc]
  warnings := by rw [second.warnings, first.warnings, List.flatMap_append, List.append_assoc]
  summary := by
    rw [second.summary, first.summary, List.flatMap_append, List.countP_append,
      List.countP_append, List.countP_append]
    simp only [Nat.add_assoc]

theorem follow_singleton {α : Type} (r : AutoscalerRef) (f : Account π κ → α → α)
    (x : Account π κ) (start : α) :
    Account.follow r f [x] start = if x.autoscaler.ref = r then f x start else start := rfl

/-- What a visit does before it remembers the autoscaler or not. -/
structure Treated (n : Nat) (s t : PassState π κ) (x : Account π κ) : Prop where
  coherent : t.scheduler.Coherent
  grows : s.scheduler.pollers.length ≤ t.scheduler.pollers.length
  slots : ∀ r m, t.scheduler.tenant? n r m =
    if r = x.autoscaler.ref then x.slot m (s.scheduler.tenant? n r m)
    else s.scheduler.tenant? n r m
  cache : t.cache = s.cache
  requests : t.report.requests = s.report.requests ++ x.requests
  warnings : t.report.warnings = s.report.warnings ++ x.warnings
  summary : t.report.summary = { s.report.summary with
    updated := s.report.summary.updated + [x].countP Account.updated
    scheduled := s.report.summary.scheduled + x.attempts.countP (·.built)
    failed := s.report.summary.failed + x.attempts.countP (!·.built) }

/-- An autoscaler is remembered if nothing failed. -/
theorem Treated.accounted {x : Account π κ} (treated : Treated n s t x) :
    Accounted n s (if x.complete then t.remember x.autoscaler else t) [x] := by
  have hscheduler : (if x.complete then t.remember x.autoscaler else t).scheduler =
      t.scheduler := by split <;> rfl
  have hreport : (if x.complete then t.remember x.autoscaler else t).report = t.report := by
    split <;> rfl
  refine ⟨?_, ?_, ?_, ?_, ?_, ?_, ?_⟩
  · rw [hscheduler]
    exact treated.coherent
  · rw [hscheduler]
    exact treated.grows
  · intro r m
    rw [hscheduler, treated.slots, follow_singleton]
    simp only [eq_comm]
  · intro r
    rw [follow_singleton, Account.copy, ← treated.cache]
    split
    · rw [get?_remember]
      simp only [eq_comm]
    · simp
  · rw [hreport, treated.requests, List.flatMap_singleton]
  · rw [hreport, treated.warnings, List.flatMap_singleton]
  · rw [hreport, treated.summary, List.flatMap_singleton]

theorem visit_unchanged (h : s.scheduler.Coherent) (unchanged : p.isUnchanged a = true)
    (input : PassInput π κ) : Accounted n s (p.visit input a s).value [⟨a, .unchanged⟩] := by
  have hvisit : (p.visit input a s).value = s.remember a := by
    rw [visit, if_pos unchanged]
    rfl
  have treated : Treated n s s ⟨a, .unchanged⟩ :=
    ⟨h, Nat.le_refl _, fun r m => by simp [Account.slot], rfl, (List.append_nil _).symm,
      (List.append_nil _).symm, rfl⟩
  rw [hvisit]
  exact treated.accounted

theorem visit_refused (h : s.scheduler.Coherent) (changed : p.isUnchanged a = false)
    {e : Cause} (hparse : input.declarations a = .error e) :
    Accounted n s (p.visit input a s).value [⟨a, .refused e⟩] := by
  set t := (s.count fun n => { n with updated := n.updated + 1 }).warn
    ⟨a, .parseMetrics, "Failed to parse metrics: " ++ e.render⟩ with ht
  have hvisit : (p.visit input a s).value = t := by
    rw [visit, if_neg (Bool.eq_false_iff.mp changed), schedule, hparse]
    rfl
  have treated : Treated n s t ⟨a, .refused e⟩ :=
    ⟨h, Nat.le_refl _, fun r m => by simp [Account.slot, ht, PassState.count, PassState.warn],
      rfl, (List.append_nil _).symm, rfl, rfl⟩
  rw [hvisit]
  exact treated.accounted

/-- Slots for which nothing is declared are given up after the attempts. -/
theorem Tried.treated {xs : List (Attempt π κ)}
    (tried : Tried n a (s.count fun n => { n with updated := n.updated + 1 }) t xs) :
    Treated n s
      { t with
        scheduler := t.scheduler.withdraw a.ref (xs.map (·.declaration.metric)).contains }
      ⟨a, .scheduled xs⟩ := by
  refine ⟨tried.coherent.withdraw _ _, ?_, ?_, tried.cache, tried.requests, tried.warnings,
    tried.summary⟩
  · exact Nat.le_trans tried.grows (Nat.le_of_eq (Scheduler.length_pollers_cancel ..).symm)
  · intro r m
    rw [Scheduler.tenant?_withdraw, tried.slots]
    by_cases hr : r = a.ref
    · by_cases hm : m ∈ xs.map (·.declaration.metric)
      · simp [hr, hm, Account.slot, PassState.count]
      · simp [hr, hm, Account.slot]
    · simp [hr, PassState.count]

theorem visit_scheduled (h : s.scheduler.Coherent) (hn : n ≤ s.scheduler.pollers.length)
    (changed : p.isUnchanged a = false) {declarations : List Declaration}
    (hparse : input.declarations a = .ok declarations) :
    Accounted n s (p.visit input a s).value
      [⟨a, .scheduled (p.attemptsFrom input a s.report.requests.length declarations)⟩] := by
  set xs := p.attemptsFrom input a s.report.requests.length declarations
  set s' := s.count fun n => { n with updated := n.updated + 1 }
  obtain ⟨started, tried⟩ : (p.startPollers input a declarations s').value.2 =
      xs.all Attempt.built ∧ Tried n a s' (p.startPollers input a declarations s').value.1 xs :=
    startPollers_tried p input a declarations h hn
  have declared : declarations.map (·.metric) = xs.map (·.declaration.metric) := by
    rw [← p.map_declaration_attemptsFrom input a s.report.requests.length declarations,
      List.map_map]
    rfl
  rw [visit, if_neg (Bool.eq_false_iff.mp changed), schedule, hparse]
  simp only [Traced.value_bind, Traced.value_pure, Scheduler.retain_value]
  rw [started, declared]
  exact tried.treated.accounted

/-- A visit does what the account of the autoscaler says. -/
theorem visit_accounted (p : Provider π κ) (input : PassInput π κ) (a : Autoscaler)
    (h : s.scheduler.Coherent) (hn : n ≤ s.scheduler.pollers.length) :
    Accounted n s (p.visit input a s).value
      [p.account input s.report.requests.length a] := by
  cases hunchanged : p.isUnchanged a with
  | true =>
      rw [account_of_unchanged _ _ hunchanged]
      exact visit_unchanged h hunchanged input
  | false =>
      cases hparse : input.declarations a with
      | error e =>
          rw [account_of_error _ hunchanged hparse]
          exact visit_refused h hunchanged hparse
      | ok declarations =>
          rw [account_of_ok _ hunchanged hparse]
          exact visit_scheduled h hn hunchanged hparse

theorem visitAll_accounted (p : Provider π κ) (input : PassInput π κ)
    (listing : List Autoscaler) (h : s.scheduler.Coherent)
    (hn : n ≤ s.scheduler.pollers.length) :
    Accounted n s (p.visitAll input listing s).value
      (p.accounts input s.report.requests.length listing) := by
  induction listing generalizing s with
  | nil => exact .refl n h
  | cons a rest ih =>
      have first := visit_accounted p input a h hn
      have others := ih first.coherent (Nat.le_trans hn first.grows)
      rw [first.requests, List.flatMap_singleton, List.length_append] at others
      exact first.trans others

/-! ### Passes -/

theorem removeAll_accounted (n : Nat) (gone : List AutoscalerRef) (s : PassState π κ) :
    (∀ r m, (removeAll gone s).value.scheduler.tenant? n r m =
      if r ∈ gone then none else s.scheduler.tenant? n r m) ∧
      (removeAll gone s).value.report = { s.report with
        summary := { s.report.summary with
          removed := s.report.summary.removed + gone.length } } := by
  induction gone generalizing s with
  | nil => simp [removeAll]
  | cons r rest ih =>
      set s' : PassState π κ := PassState.count
        { s with scheduler := s.scheduler.withdraw r fun _ => false }
        fun n => { n with removed := n.removed + 1 } with hs'
      have hremoved : (removeAll (r :: rest) s).value = (removeAll rest s').value := by
        simp only [removeAll, Traced.value_bind, Scheduler.remove_value]
        rfl
      obtain ⟨slots, report⟩ := ih s'
      rw [hremoved]
      constructor
      · intro r' m
        have withdrawn : s'.scheduler.tenant? n r' m =
            if r' = r ∧ false = false then none else s.scheduler.tenant? n r' m :=
          Scheduler.tenant?_withdraw s.scheduler r r' m _
        rw [slots, withdrawn]
        by_cases hr : r' = r <;> simp [hr]
      · rw [report, List.length_cons, Nat.add_comm rest.length, ← Nat.add_assoc]
        rfl

/-- What a pass with the given accounts leaves behind. -/
structure Concluded (p q : Provider π κ) (listing : List Autoscaler) (report : PassReport π)
    (accounts : List (Account π κ)) : Prop where
  coherent : q.scheduler.Coherent
  reallots : Scheduler.Reallots p.scheduler q.scheduler
  slots : ∀ r m, q.scheduler.tenant? p.scheduler.pollers.length r m =
    (Account.of? r accounts).bind fun x => x.slot m ((p.scheduler.occupant? r m).map .inl)
  cache : ∀ r, q.cache.get? r = (Account.of? r accounts).bind fun x => x.copy none
  requests : report.requests = accounts.flatMap Account.requests
  warnings : report.warnings = accounts.flatMap Account.warnings
  summary : ∃ gone : List AutoscalerRef, gone.Nodup ∧
    (∀ r, r ∈ gone ↔ (∃ m, p.scheduler.contains r m = true) ∧
      r ∉ listing.map Autoscaler.ref) ∧
    report.summary = ⟨listing.length, accounts.countP Account.updated,
      (accounts.flatMap Account.attempts).countP (·.built),
      (accounts.flatMap Account.attempts).countP (!·.built), gone.length⟩

theorem refs_accounts (p : Provider π κ) (input : PassInput π κ) (listing : List Autoscaler) :
    (p.accounts input n listing).map (·.autoscaler.ref) = listing.map Autoscaler.ref := by
  have refs := congrArg (List.map Autoscaler.ref) (p.map_autoscaler_accounts input n listing)
  rw [List.map_map] at refs
  exact refs

theorem nodup_unlisted (s : Scheduler κ Outcome) (listing : List Autoscaler) :
    (unlisted s listing).Nodup :=
  (SortedMap.nodup_keys s.table).filter _

/-- Of the autoscalers that are not listed, those with slots before the visits are removed. -/
theorem Accounted.mem_unlisted_iff {xs : List (Account π κ)} (visits : Accounted n s t xs)
    (coherent : s.scheduler.Coherent) (populated : t.scheduler.Populated)
    (refs : xs.map (·.autoscaler.ref) = listing.map Autoscaler.ref)
    (distinct : (listing.map Autoscaler.ref).Nodup) {r : AutoscalerRef} :
    r ∈ unlisted t.scheduler listing ↔
      (∃ m, s.scheduler.contains r m = true) ∧ r ∉ listing.map Autoscaler.ref := by
  rw [Provider.mem_unlisted_iff, populated.mem_resources_iff]
  apply and_congr_left
  intro hout
  apply exists_congr
  intro m
  have hnone : Account.of? r xs = none := Account.of?_eq_none_iff.mpr (refs ▸ hout)
  have held : t.scheduler.tenant? n r m = s.scheduler.tenant? n r m := by
    rw [visits.slots, Account.follow_of_distinct (refs ▸ distinct), hnone]
  rw [← visits.coherent.isSome_tenant? n, held, coherent.isSome_tenant?]

/-- After the removals only autoscalers with accounts have slots. -/
theorem Accounted.tenant?_removed {xs : List (Account π κ)} (visits : Accounted n s t xs)
    (coherent : s.scheduler.Coherent) (populated : t.scheduler.Populated)
    (refs : xs.map (·.autoscaler.ref) = listing.map Autoscaler.ref)
    (distinct : (listing.map Autoscaler.ref).Nodup) (r : AutoscalerRef) (m : MetricRef) :
    (if r ∈ unlisted t.scheduler listing then none else t.scheduler.tenant? n r m) =
      (Account.of? r xs).bind fun x => x.slot m (s.scheduler.tenant? n r m) := by
  have gone := visits.mem_unlisted_iff coherent populated refs distinct (r := r)
  rw [visits.slots, Account.follow_of_distinct (refs ▸ distinct)]
  by_cases hlisted : r ∈ listing.map Autoscaler.ref
  · rw [if_neg fun h => (gone.mp h).2 hlisted]
    cases haccount : Account.of? r xs with
    | some x => rfl
    | none => exact absurd (refs ▸ hlisted) (Account.of?_eq_none_iff.mp haccount)
  · have hnone : Account.of? r xs = none := Account.of?_eq_none_iff.mpr (refs ▸ hlisted)
    rw [hnone, Option.bind_none, ite_eq_left_iff]
    intro hkept
    -- An autoscaler that is neither listed nor removed had no slots.
    have hempty : ¬ s.scheduler.contains r m = true :=
      fun hslot => hkept (gone.mpr ⟨⟨m, hslot⟩, hlisted⟩)
    rwa [← coherent.isSome_tenant? n, Option.not_isSome_iff_eq_none] at hempty

/-- A pass over distinct autoscalers does what their accounts say, and removes the autoscalers that
have slots without being listed. -/
theorem reconcile_concluded (h : p.scheduler.Coherent) (populated : p.scheduler.Populated)
    (hlisting : input.listing = .ok listing) (distinct : (listing.map Autoscaler.ref).Nodup) :
    ∃ report, (p.reconcile input).value.2 = .ok report ∧
      Concluded p (p.reconcile input).value.1 listing report (p.accounts input 0 listing) := by
  obtain ⟨visited, s, hvisited, hs, hvalue⟩ := reconcile_of_ok (p := p) hlisting
  set xs := p.accounts input 0 listing
  set n := p.scheduler.pollers.length
  have refs : xs.map (·.autoscaler.ref) = listing.map Autoscaler.ref :=
    refs_accounts p input listing
  have visits : Accounted n (.start p.scheduler listing.length) visited xs := by
    rw [hvisited]
    exact visitAll_accounted p input listing h (Nat.le_refl _)
  obtain ⟨ys, reached, -⟩ :=
    (visitAll_concerns p input listing (.start p.scheduler listing.length)).operations
  rw [← hvisited] at reached
  have hpopulated : visited.scheduler.Populated := populated.reaches reached
  obtain ⟨coherent, -, -, cache, requests⟩ :=
    removeAll_spec (unlisted visited.scheduler listing) visits.coherent
  obtain ⟨removed, report⟩ :=
    removeAll_accounted n (unlisted visited.scheduler listing) visited
  obtain ⟨_, -, -, -, zs, worked, hzs⟩ := p.reconcile_work hlisting
  rw [← hs] at coherent cache requests removed report
  rw [hvalue] at worked ⊢
  refine ⟨s.report, rfl, coherent, ?_, ?_, ?_, ?_, ?_, ?_⟩
  · refine h.reallots_reaches worked ?_
    intro x hx
    rcases hzs x hx with ⟨b, -, -, hscheduled⟩ | ⟨r, -, rfl⟩
    · exact ⟨b.ref, SchedulerAction.owner?_of_scheduled? hscheduled⟩
    · exact ⟨r, rfl⟩
  · intro r m
    rw [removed, visits.tenant?_removed h hpopulated refs distinct]
    exact h.tenant?_self r m ▸ rfl
  · intro r
    change s.cache.get? r = _
    rw [cache, visits.cache, Account.follow_of_distinct (refs ▸ distinct)]
    cases Account.of? r xs with
    | some x => rfl
    | none => rfl
  · rw [requests, visits.requests]
    rfl
  · rw [report, visits.warnings]
    rfl
  · refine ⟨unlisted visited.scheduler listing, nodup_unlisted _ _, ?_, ?_⟩
    · exact fun r => visits.mem_unlisted_iff h hpopulated refs distinct
    · rw [report, visits.summary]
      simp [PassState.start]

end Provider

end ScalingMetrics
