import ScalingMetrics.Proofs.Provider.Accounts
import ScalingMetrics.Proofs.Provider.Unchanged

/-!
# Failures in a pass

What fails for one autoscaler concerns no other one. An autoscaler whose metrics are refused keeps
its slots, one with declarations that get no collector keeps the slots that it had for them, and
neither is remembered, so that the next pass tries again. Every failure raises one warning and is
counted once.
-/

namespace ScalingMetrics

namespace Account

variable {π κ : Type} {x : Account π κ} {xs : List (Account π κ)}

theorem autoscaler_of_mem_warnings {w : Warning} (h : w ∈ x.warnings) :
    w.autoscaler = x.autoscaler := by
  cases htreatment : x.treatment with
  | unchanged => simp [warnings, htreatment] at h
  | refused e =>
      rw [warnings, htreatment] at h
      rw [List.mem_singleton.mp h]
  | scheduled attempts =>
      rw [warnings, htreatment] at h
      obtain ⟨y, -, hy⟩ := List.mem_filterMap.mp h
      rw [Attempt.warning?] at hy
      split at hy
      · cases hy
      · rw [← Option.some.inj hy]

/-- The warnings about an autoscaler are those of its account. -/
theorem filter_warnings (distinct : (xs.map (·.autoscaler.ref)).Nodup) (hx : x ∈ xs) :
    ((xs.flatMap warnings).filter fun w => w.autoscaler.ref = x.autoscaler.ref) = x.warnings := by
  have own : ∀ y : Account π κ, y.autoscaler.ref = x.autoscaler.ref →
      (y.warnings.filter fun w => w.autoscaler.ref = x.autoscaler.ref) = y.warnings := by
    intro y hy
    rw [List.filter_eq_self]
    intro w hw
    simpa [autoscaler_of_mem_warnings hw] using hy
  have foreign : ∀ ys : List (Account π κ), x.autoscaler.ref ∉ ys.map (·.autoscaler.ref) →
      ((ys.flatMap warnings).filter fun w => w.autoscaler.ref = x.autoscaler.ref) = [] := by
    intro ys hys
    rw [List.filter_eq_nil_iff]
    intro w hw href
    obtain ⟨y, hy, hwy⟩ := List.mem_flatMap.mp hw
    have hyx : y.autoscaler.ref = x.autoscaler.ref := by
      rw [← autoscaler_of_mem_warnings hwy]
      simpa using href
    exact hys (hyx ▸ List.mem_map_of_mem hy)
  induction xs with
  | nil => cases hx
  | cons y rest ih =>
      obtain ⟨hy, hrest⟩ := List.nodup_cons.mp distinct
      rw [List.flatMap_cons, List.filter_append]
      rcases List.mem_cons.mp hx with rfl | hmem
      · rw [own x rfl, foreign rest hy, List.append_nil]
      · have hne : y.autoscaler.ref ≠ x.autoscaler.ref := by
          intro heq
          apply hy
          change y.autoscaler.ref ∈ rest.map (·.autoscaler.ref)
          rw [heq]
          exact List.mem_map_of_mem hmem
        have hother : x.autoscaler.ref ∉ [y].map (·.autoscaler.ref) := by
          simpa using Ne.symm hne
        have hnone := foreign [y] hother
        rw [List.flatMap_singleton] at hnone
        rw [hnone, List.nil_append, ih hrest hmem]

end Account

namespace Provider

variable {π κ : Type} {p q : Provider π κ} {input : PassInput π κ} {listing : List Autoscaler}
  {report : PassReport π} {accounts : List (Account π κ)} {x : Account π κ} {n : Nat}

theorem countP_updated (p : Provider π κ) (input : PassInput π κ) (n : Nat)
    (listing : List Autoscaler) :
    (p.accounts input n listing).countP Account.updated =
      listing.countP fun a => !p.isUnchanged a := by
  have hupdated : ∀ asked a, (p.account input asked a).updated = !p.isUnchanged a := by
    intro asked a
    cases hunchanged : p.isUnchanged a with
    | true =>
        rw [account_of_unchanged _ _ hunchanged]
        rfl
    | false =>
        cases hparse : input.declarations a with
        | error e =>
            rw [account_of_error _ hunchanged hparse]
            rfl
        | ok declarations =>
            rw [account_of_ok _ hunchanged hparse]
            rfl
  induction listing generalizing n with
  | nil => rfl
  | cons a rest ih => rw [accounts, List.countP_cons, List.countP_cons, ih, hupdated]

theorem complete_account_iff {asked : Nat} {a : Autoscaler} :
    (p.account input asked a).complete = true ↔ p.isUnchanged a = true ∨
      (∃ declarations, input.declarations a = .ok declarations) ∧
        ∀ y ∈ (p.account input asked a).attempts, y.built = true := by
  cases hunchanged : p.isUnchanged a with
  | true =>
      rw [account_of_unchanged _ _ hunchanged]
      simp [Account.complete]
  | false =>
      cases hparse : input.declarations a with
      | error e =>
          rw [account_of_error _ hunchanged hparse]
          simp [Account.complete]
      | ok declarations =>
          rw [account_of_ok _ hunchanged hparse]
          simp [Account.complete, Account.attempts]

theorem complete_iff_of_mem (hx : x ∈ p.accounts input n listing) :
    x.complete = true ↔ p.isUnchanged x.autoscaler = true ∨
      (∃ declarations, input.declarations x.autoscaler = .ok declarations) ∧
        ∀ y ∈ x.attempts, y.built = true := by
  obtain ⟨asked, hasked⟩ := eq_account_of_mem hx
  rw [hasked]
  exact complete_account_iff

theorem eq_refused_of_mem (hx : x ∈ p.accounts input n listing)
    (changed : p.isUnchanged x.autoscaler = false) {e : Cause}
    (hparse : input.declarations x.autoscaler = .error e) : x = ⟨x.autoscaler, .refused e⟩ := by
  obtain ⟨asked, hasked⟩ := eq_account_of_mem hx
  exact hasked.trans (account_of_error asked changed hparse)

/-- There is one attempt for each declaration. -/
theorem scheduled_of_mem (hx : x ∈ p.accounts input n listing)
    (changed : p.isUnchanged x.autoscaler = false) {declarations : List Declaration}
    (hparse : input.declarations x.autoscaler = .ok declarations) :
    x.treatment = .scheduled x.attempts ∧ x.attempts.map (·.declaration) = declarations := by
  obtain ⟨asked, hasked⟩ := eq_account_of_mem hx
  rw [account_of_ok asked changed hparse] at hasked
  rw [hasked]
  exact ⟨rfl, p.map_declaration_attemptsFrom input x.autoscaler asked declarations⟩

theorem changed_of_mem_warnings (hx : x ∈ p.accounts input n listing) {w : Warning}
    (hw : w ∈ x.warnings) : p.isUnchanged x.autoscaler = false := by
  rw [Bool.eq_false_iff]
  intro unchanged
  obtain ⟨asked, hasked⟩ := eq_account_of_mem hx
  rw [hasked, account_of_unchanged input asked unchanged] at hw
  cases hw

namespace Concluded

/-- A remembered copy is that of an account without failures. -/
theorem get?_eq_some_iff (c : Concluded p q listing report accounts)
    (distinct : (accounts.map (·.autoscaler.ref)).Nodup) {r : AutoscalerRef} {b : Autoscaler} :
    q.cache.get? r = some b ↔
      b.ref = r ∧ ∃ x ∈ accounts, x.autoscaler = b ∧ x.complete = true := by
  rw [c.cache, Option.bind_eq_some_iff]
  constructor
  · rintro ⟨x, hx, hcopy⟩
    obtain ⟨hmem, hr⟩ := (Account.of?_eq_some_iff distinct).mp hx
    rw [Account.copy] at hcopy
    split at hcopy
    · next hcomplete =>
        obtain rfl := Option.some.inj hcopy
        exact ⟨hr, x, hmem, rfl, hcomplete⟩
    · cases hcopy
  · rintro ⟨hr, x, hmem, rfl, hcomplete⟩
    refine ⟨x, (Account.of?_eq_some_iff distinct).mpr ⟨hmem, hr⟩, ?_⟩
    rw [Account.copy, if_pos hcomplete]

/-- An account that spares the slots leaves them and their pollers as they were. -/
theorem spares (c : Concluded p q listing report accounts) (coherent : p.scheduler.Coherent)
    (distinct : (accounts.map (·.autoscaler.ref)).Nodup) (hx : x ∈ accounts)
    (hslot : ∀ m old, x.slot m old = old) :
    (∀ m, q.scheduler.occupant? x.autoscaler.ref m = p.scheduler.occupant? x.autoscaler.ref m) ∧
      ∀ m i, p.scheduler.occupant? x.autoscaler.ref m = some i →
        q.scheduler.pollers[i]? = p.scheduler.pollers[i]? := by
  have held : ∀ m, q.scheduler.tenant? p.scheduler.pollers.length x.autoscaler.ref m =
      (p.scheduler.occupant? x.autoscaler.ref m).map .inl := by
    intro m
    rw [c.slots, (Account.of?_eq_some_iff distinct).mpr ⟨hx, rfl⟩, Option.bind_some, hslot]
  constructor
  · intro m
    exact c.coherent.occupant?_of_tenant? (held m)
  · intro m i ho
    refine c.reallots.getElem?_of_tenant? coherent ?_ ho
    rw [held, ho, Option.map_some]

/-- The slots of an account with attempts are those declared metrics that got a collector now or had
a slot before. -/
theorem contains_iff (c : Concluded p q listing report accounts)
    (coherent : p.scheduler.Coherent) (distinct : (accounts.map (·.autoscaler.ref)).Nodup)
    (hx : x ∈ accounts) {attempts : List (Attempt π κ)}
    (htreatment : x.treatment = .scheduled attempts) (m : MetricRef) :
    q.scheduler.contains x.autoscaler.ref m = true ↔
      m ∈ attempts.map (·.declaration.metric) ∧
        ((∃ y ∈ attempts, y.declaration.metric = m ∧ y.built = true) ∨
          p.scheduler.contains x.autoscaler.ref m = true) := by
  rw [← c.coherent.isSome_tenant? p.scheduler.pollers.length, c.slots,
    (Account.of?_eq_some_iff distinct).mpr ⟨hx, rfl⟩, Option.bind_some, Account.slot, htreatment,
    ← Attempt.isSome_last?_iff, ← coherent.isSome_tenant? p.scheduler.pollers.length,
    coherent.tenant?_self]
  by_cases hm : m ∈ attempts.map (·.declaration.metric)
  · simp [hm]
  · simp [hm]

theorem warnings_about (c : Concluded p q listing report accounts)
    (distinct : (accounts.map (·.autoscaler.ref)).Nodup) (hx : x ∈ accounts) :
    (report.warnings.filter fun w => w.autoscaler.ref = x.autoscaler.ref) = x.warnings := by
  rw [c.warnings, Account.filter_warnings distinct hx]

end Concluded

/-- The conclusion of a pass from a state that the provider can be in. -/
theorem pass_concluded {config : ProviderConfig} {registry : Registry π} {lifetime : Lifetime}
    {as : List (ProviderAction π κ)} {before : Traced (Provider π κ)}
    (run : (create config registry lifetime).run? as = some before)
    (hlisting : input.listing = .ok listing) (distinct : (listing.map Autoscaler.ref).Nodup)
    (now : Timestamp) (seconds : Double) :
    ∃ after report, (before.value.pass input now seconds).value = (after, some report) ∧
      before.value.scheduler.Coherent ∧
      Concluded before.value after listing report (before.value.accounts input 0 listing) := by
  have reached : Traced.Reaches step? (create config registry lifetime) as before.value :=
    Traced.reaches_of_run? run
  have coherent := coherent_reaches reached
  obtain ⟨xs, scheduled, -⟩ := scheduler_reaches reached
  have populated := (Scheduler.populated_create _).reaches scheduled
  obtain ⟨report, hreport, c⟩ := reconcile_concluded coherent populated hlisting distinct
  obtain ⟨hscheduler, hcache⟩ := pass_frame before.value input now seconds
  refine ⟨_, report, Prod.ext rfl (pass_of_ok hreport now seconds), coherent, ?_⟩
  exact ⟨hscheduler ▸ c.coherent, hscheduler ▸ c.reallots, hscheduler ▸ c.slots,
    hcache ▸ c.cache, c.requests, c.warnings, c.summary⟩

/-- A pass over distinct autoscalers remembers those that are unchanged and those whose metrics are
understood and all got a collector. An autoscaler whose metrics are refused keeps its slots with
the pollers in them, and one warning is raised about it. Any other one has afterwards the slots for
those declared metrics that got a collector now or had a slot before, and a warning is raised for
each declaration without a collector. The numbers in the report are those of listed autoscalers, of
new and changed ones, of declarations with and without a collector, and of autoscalers that had
slots and are not listed. -/
theorem pass_accounts {config : ProviderConfig} {registry : Registry π} {lifetime : Lifetime}
    {as : List (ProviderAction π κ)} {before : Traced (Provider π κ)}
    (run : (create config registry lifetime).run? as = some before)
    (hlisting : input.listing = .ok listing) (distinct : (listing.map Autoscaler.ref).Nodup)
    (haccounts : accounts = before.value.accounts input 0 listing)
    (now : Timestamp) (seconds : Double) :
    ∃ after report, (before.value.pass input now seconds).value = (after, some report) ∧
      accounts.map (·.autoscaler) = listing ∧
      report.requests = accounts.flatMap Account.requests ∧
      (∀ r b, after.cache.get? r = some b ↔ b.ref = r ∧ ∃ x ∈ accounts, x.autoscaler = b ∧
        ((∃ old, before.value.cache.get? b.ref = some old ∧ old.agrees b = true) ∨
          (∃ declarations, input.declarations b = .ok declarations) ∧
            ∀ y ∈ x.attempts, y.built = true)) ∧
      (∀ x ∈ accounts, (∀ old, before.value.cache.get? x.autoscaler.ref = some old →
          old.agrees x.autoscaler = false) → ∀ e,
        input.declarations x.autoscaler = .error e →
          (∀ m, after.scheduler.occupant? x.autoscaler.ref m =
            before.value.scheduler.occupant? x.autoscaler.ref m) ∧
          (∀ m i, before.value.scheduler.occupant? x.autoscaler.ref m = some i →
            after.scheduler.pollers[i]? = before.value.scheduler.pollers[i]?) ∧
          (report.warnings.filter fun w => w.autoscaler.ref = x.autoscaler.ref) =
            [⟨x.autoscaler, .parseMetrics, "Failed to parse metrics: " ++ e.render⟩]) ∧
      (∀ x ∈ accounts, (∀ old, before.value.cache.get? x.autoscaler.ref = some old →
          old.agrees x.autoscaler = false) → ∀ declarations,
        input.declarations x.autoscaler = .ok declarations →
          x.attempts.map (·.declaration) = declarations ∧
          (∀ m, after.scheduler.contains x.autoscaler.ref m = true ↔
            m ∈ declarations.map (·.metric) ∧
              ((∃ y ∈ x.attempts, y.declaration.metric = m ∧ y.built = true) ∨
                before.value.scheduler.contains x.autoscaler.ref m = true)) ∧
          (report.warnings.filter fun w => w.autoscaler.ref = x.autoscaler.ref) =
            x.attempts.filterMap (Attempt.warning? x.autoscaler)) ∧
      (∀ w ∈ report.warnings, w.autoscaler ∈ listing ∧
        ∀ old, before.value.cache.get? w.autoscaler.ref = some old →
          old.agrees w.autoscaler = false) ∧
      ∃ gone : List AutoscalerRef, gone.Nodup ∧
        (∀ r, r ∈ gone ↔ (∃ m, before.value.scheduler.contains r m = true) ∧
          r ∉ listing.map Autoscaler.ref) ∧
        report.summary = ⟨listing.length,
          listing.countP fun a => (before.value.cache.get? a.ref).all fun old => !old.agrees a,
          (accounts.flatMap Account.attempts).countP (·.built),
          (accounts.flatMap Account.attempts).countP (!·.built), gone.length⟩ := by
  obtain ⟨after, report, hpass, coherent, c⟩ := pass_concluded run hlisting distinct now seconds
  subst haccounts
  set accounts := before.value.accounts input 0 listing with haccounts
  have hdistinct : (accounts.map (·.autoscaler.ref)).Nodup := by
    rw [haccounts, refs_accounts]
    exact distinct
  have listed : accounts.map (·.autoscaler) = listing :=
    before.value.map_autoscaler_accounts input 0 listing
  refine ⟨after, report, hpass, listed, c.requests, ?_, ?_, ?_, ?_, ?_⟩
  · intro r b
    rw [c.get?_eq_some_iff hdistinct]
    apply and_congr_right
    intro _
    constructor
    · rintro ⟨x, hx, rfl, hcomplete⟩
      exact ⟨x, hx, rfl, ((complete_iff_of_mem hx).mp hcomplete).imp_left isUnchanged_iff.mp⟩
    · rintro ⟨x, hx, rfl, hkept⟩
      exact ⟨x, hx, rfl, (complete_iff_of_mem hx).mpr (hkept.imp_left isUnchanged_iff.mpr)⟩
  · intro x hx changed e hparse
    have treated := eq_refused_of_mem hx (isUnchanged_eq_false_iff.mpr changed) hparse
    have spared : ∀ m old, x.slot m old = old := by
      intro m old
      rw [treated]
      rfl
    obtain ⟨hslots, hpollers⟩ := c.spares coherent hdistinct hx spared
    refine ⟨hslots, hpollers, ?_⟩
    rw [c.warnings_about hdistinct hx, treated]
    rfl
  · intro x hx changed declarations hparse
    obtain ⟨treated, declared⟩ :=
      scheduled_of_mem hx (isUnchanged_eq_false_iff.mpr changed) hparse
    refine ⟨declared, ?_, ?_⟩
    · intro m
      rw [c.contains_iff coherent hdistinct hx treated, ← declared, List.map_map]
      rfl
    · rw [c.warnings_about hdistinct hx, Account.warnings, treated]
  · intro w hw
    rw [c.warnings] at hw
    obtain ⟨x, hx, hwx⟩ := List.mem_flatMap.mp hw
    rw [Account.autoscaler_of_mem_warnings hwx, ← listed]
    exact ⟨List.mem_map_of_mem hx,
      isUnchanged_eq_false_iff.mp (changed_of_mem_warnings hx hwx)⟩
  · obtain ⟨gone, hnodup, hgone, hsummary⟩ := c.summary
    refine ⟨gone, hnodup, hgone, ?_⟩
    have updated : (fun a => !before.value.isUnchanged a) =
        fun a => (before.value.cache.get? a.ref).all fun old => !old.agrees a := by
      funext a
      rw [isUnchanged]
      cases before.value.cache.get? a.ref <;> rfl
    rw [hsummary, haccounts, countP_updated, updated]

/-- A metric of the scaled pods. -/
def podsMetric (name : String) : MetricSpec :=
  ⟨"Pods", some ⟨⟨name, none⟩, ⟨"AverageValue", none, some "10", none⟩⟩, none, none, none, none⟩

/-- An autoscaler with metrics, in a version. -/
def demanding (name version : String) (metrics : List MetricSpec) : Autoscaler :=
  { Autoscaler.empty with
    metadata := { Metadata.empty with
      ns := some "shop", name := some name, resourceVersion := some version }
    spec := some ⟨none, 3, ⟨none, "Deployment", name⟩, some metrics, none⟩ }

/-- A pass over a listing, in which the plugin refuses some metrics. -/
def refusing (refused : List String) (listing : List Autoscaler) : PassInput Nat Nat where
  listing := .ok listing
  declarations := Autoscaler.specDeclarations
  build n q :=
    if q.declaration.metric.metric.name ∈ refused then .error ⟨["unavailable"]⟩ else .ok n

/-- Three autoscalers, one of which goes later. -/
def founding : List Autoscaler :=
  [demanding "api" "1" [podsMetric "rps"], demanding "cart" "1" [podsMetric "lag"],
    demanding "old" "1" [podsMetric "rps"]]

/-- One autoscaler has a metric without a source now. Another one has an additional metric, and the
plugin refuses the former one. -/
def troubled : List Autoscaler :=
  [demanding "api" "2" [⟨"Pods", none, none, none, none, none⟩],
    demanding "cart" "2" [podsMetric "lag", podsMetric "rps"]]

/-- An autoscaler that asks for the same in every version. -/
def steady (version : String) : Autoscaler := demanding "steady" version [podsMetric "rps"]

theorem pass_accounts_troubled :
    ∃ before after report, (create .standard (Registry.empty.insert (.pods "") 0) ⟨0⟩).run?
        [.pass (refusing [] (steady "1" :: founding)) ⟨0, 0⟩ ⟨0⟩] = some before ∧
      (before.value.pass (refusing ["lag"] (steady "2" :: troubled)) ⟨30, 0⟩ ⟨0⟩).value =
        (after, some report) ∧
      (report.warnings.filter fun w => w.autoscaler.ref = ⟨"shop", "api"⟩) =
        [⟨troubled[0], .parseMetrics,
          "Failed to parse metrics: metric of type Pods has no pods source"⟩] ∧
      after.scheduler.occupant? ⟨"shop", "api"⟩ ⟨.pods, "rps", none⟩ = some 1 ∧
      after.scheduler.contains ⟨"shop", "cart"⟩ ⟨.pods, "lag", none⟩ = true ∧
      before.value.cache.get? (steady "2").ref = some (steady "1") ∧
      after.cache.get? (steady "2").ref = some (steady "2") ∧
      after.cache.get? ⟨"shop", "cart"⟩ = none ∧ report.summary = ⟨3, 2, 1, 1, 1⟩ := by
  obtain ⟨before, run, api, cart, cached, changed, forgotten, summary⟩ : ∃ before,
      (create .standard (Registry.empty.insert (.pods "") 0) ⟨0⟩).run?
        [.pass (refusing [] (steady "1" :: founding)) ⟨0, 0⟩ ⟨0⟩] = some before ∧
      before.value.scheduler.occupant? ⟨"shop", "api"⟩ ⟨.pods, "rps", none⟩ = some 1 ∧
      before.value.scheduler.contains ⟨"shop", "cart"⟩ ⟨.pods, "lag", none⟩ = true ∧
      before.value.cache.get? (steady "2").ref = some (steady "1") ∧
      (troubled.all fun a =>
        (before.value.cache.get? a.ref).all fun old => !old.agrees a) = true ∧
      (before.value.pass (refusing ["lag"] (steady "2" :: troubled)) ⟨30, 0⟩ ⟨0⟩).value.1.cache.get?
        ⟨"shop", "cart"⟩ = none ∧
      (before.value.pass (refusing ["lag"] (steady "2" :: troubled)) ⟨30, 0⟩ ⟨0⟩).value.2.map
        (·.summary) = some ⟨3, 2, 1, 1, 1⟩ := ⟨_, rfl, rfl, rfl, rfl, rfl, rfl, rfl⟩
  have listed : (refusing ["lag"] (steady "2" :: troubled)).listing =
      .ok (steady "2" :: troubled) := rfl
  obtain ⟨after, report, hpass, hmap, -, remembered, refused, scheduled, -, -⟩ :=
    pass_accounts run listed (by decide) rfl ⟨30, 0⟩ ⟨0⟩
  have new : ∀ a ∈ troubled, ∀ old, before.value.cache.get? a.ref = some old →
      old.agrees a = false := by
    simpa [List.all_eq_true, Option.all_eq_true] using changed
  have account : ∀ a ∈ steady "2" :: troubled,
      ∃ x ∈ before.value.accounts (refusing ["lag"] (steady "2" :: troubled)) 0
        (steady "2" :: troubled), x.autoscaler = a :=
    fun a ha => List.mem_map.mp (hmap.symm ▸ ha)
  obtain ⟨x, hx, hapi⟩ := account troubled[0] (by simp [troubled])
  obtain ⟨y, hy, hcart⟩ := account troubled[1] (by simp [troubled])
  obtain ⟨z, hz, hsteady⟩ := account (steady "2") (by simp)
  obtain ⟨slots, -, warned⟩ := refused x hx (hapi ▸ new _ (by simp [troubled]))
    (SpecError.missingSource .pods).cause (by rw [hapi]; rfl)
  obtain ⟨declarations, hparse, hlag⟩ : ∃ declarations,
      (refusing ["lag"] (steady "2" :: troubled)).declarations troubled[1] = .ok declarations ∧
        ⟨.pods, "lag", none⟩ ∈ declarations.map (·.metric) := ⟨_, rfl, by decide⟩
  obtain ⟨-, present, -⟩ := scheduled y hy (hcart ▸ new _ (by simp [troubled])) declarations
    (by rw [hcart]; exact hparse)
  rw [hapi] at slots warned
  rw [hcart] at present
  have unchanged : (steady "1").agrees (steady "2") = true := by decide
  refine ⟨before, after, report, run, hpass, warned, (slots _).trans api,
    (present _).mpr ⟨hlag, .inr cart⟩, cached,
    (remembered _ _).mpr ⟨rfl, z, hz, hsteady, .inl ⟨_, cached, unchanged⟩⟩, ?_, ?_⟩
  · rw [hpass] at forgotten
    exact forgotten
  · simpa [hpass] using summary

end Provider

end ScalingMetrics
