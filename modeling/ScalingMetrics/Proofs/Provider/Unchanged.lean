import ScalingMetrics.Proofs.Provider.Operations
import ScalingMetrics.Telemetry.Meters

/-!
# Unchanged autoscalers

A pass leaves an autoscaler alone that asks for the same as its remembered copy, whatever else is
listed. If this holds of all that are listed, and the pass before listed the same ones, the pass does
nothing but remember the newer copies.
-/

namespace ScalingMetrics

namespace Provider

variable {π κ : Type} {p : Provider π κ} {input : PassInput π κ} {a : Autoscaler}
  {s : PassState π κ} {listing : List Autoscaler}

theorem isUnchanged_iff : p.isUnchanged a = true ↔
    ∃ old, p.cache.get? a.ref = some old ∧ old.agrees a = true := by
  rw [isUnchanged]
  cases hold : p.cache.get? a.ref with
  | none => simp
  | some old => simp

theorem isUnchanged_eq_false_iff : p.isUnchanged a = false ↔
    ∀ old, p.cache.get? a.ref = some old → old.agrees a = false := by
  rw [← Bool.not_eq_true, isUnchanged_iff]
  simp only [not_exists, not_and, Bool.not_eq_true]

theorem pass_of_ok {report : PassReport π} (h : (p.reconcile input).value.2 = .ok report)
    (now : Timestamp) (seconds : Double) :
    (p.pass input now seconds).value.2 = some report := by
  simp only [pass, Traced.value_bind, h]
  rfl

/-! ### Passes over others -/

/-- Work for others does not disturb an unchanged autoscaler. -/
theorem reconcile_spares_unchanged (coherent : p.scheduler.Coherent)
    (hlisting : input.listing = .ok listing) (distinct : (listing.map Autoscaler.ref).Nodup)
    (ha : a ∈ listing) (unchanged : p.isUnchanged a = true) :
    (p.reconcile input).value.1.cache.get? a.ref = some a ∧
      (p.reconcile input).value.1.scheduler.slots a.ref = p.scheduler.slots a.ref ∧
      ∀ m i, p.scheduler.occupant? a.ref m = some i →
        (p.reconcile input).value.1.scheduler.pollers[i]? = p.scheduler.pollers[i]? := by
  constructor
  · obtain ⟨s, hvalue, -, -, remembers, -⟩ := reconcile_spec coherent hlisting distinct
    rw [hvalue]
    exact remembers a ha (.inl unchanged)
  · obtain ⟨-, -, -, -, xs, reached, hxs⟩ := p.reconcile_work hlisting
    apply coherent.slots_reaches reached
    intro x hx
    rcases hxs x hx with ⟨b, hb, hchanged, hscheduled⟩ | ⟨r, hr, rfl⟩
    · refine ⟨b.ref, SchedulerAction.owner?_of_scheduled? hscheduled, ?_⟩
      intro href
      obtain rfl : a = b := List.inj_on_of_nodup_map distinct ha hb href
      exact Bool.false_ne_true (hchanged.symm.trans unchanged)
    · refine ⟨r, rfl, ?_⟩
      rintro rfl
      exact hr (List.mem_map_of_mem ha)

/-! ### Passes over unchanged autoscalers -/

theorem foldl_remember (listing : List Autoscaler) (s : PassState π κ) :
    ∃ cache, listing.foldl PassState.remember s = { s with cache } := by
  induction listing generalizing s with
  | nil => exact ⟨s.cache, rfl⟩
  | cons a rest ih => exact ih (s.remember a)

theorem visitAll_of_unchanged (h : ∀ a ∈ listing, p.isUnchanged a = true) :
    p.visitAll input listing s = pure (listing.foldl PassState.remember s) := by
  induction listing generalizing s with
  | nil => rfl
  | cons a rest ih =>
      have visited : p.visit input a s = pure (s.remember a) := if_pos (h a List.mem_cons_self)
      calc
        p.visitAll input (a :: rest) s
            = p.visit input a s >>= p.visitAll input rest := rfl
        _ = p.visitAll input rest (s.remember a) := by rw [visited, pure_bind]
        _ = pure (rest.foldl PassState.remember (s.remember a)) :=
          ih fun b hb => h b (List.mem_cons_of_mem a hb)

/-- A pass in which nothing is new, changed or gone only remembers. -/
theorem reconcile_of_unchanged (hlisting : input.listing = .ok listing)
    (h : ∀ a ∈ listing, p.isUnchanged a = true)
    (present : ∀ r ∈ p.scheduler.resources, r ∈ listing.map Autoscaler.ref) :
    ∃ cache, p.reconcile input =
      pure ({ p with cache }, .ok ⟨⟨listing.length, 0, 0, 0, 0⟩, [], []⟩) := by
  obtain ⟨cache, hcache⟩ := foldl_remember listing
    (PassState.start p.scheduler listing.length : PassState π κ)
  have nobody : unlisted p.scheduler listing = [] := by
    rw [List.eq_nil_iff_forall_not_mem]
    intro r hr
    obtain ⟨hmem, hout⟩ := mem_unlisted_iff.mp hr
    exact hout (present r hmem)
  refine ⟨cache, ?_⟩
  simp only [reconcile, hlisting, visitAll_of_unchanged h, hcache, pure_bind]
  rw [PassState.start, nobody]
  rfl

/-- Since a pass over a listing, no others have slots or are remembered. -/
theorem covers_since {config : ProviderConfig} {registry : Registry π} {lifetime : Lifetime}
    {earlier between : List (ProviderAction π κ)} {now : Timestamp} {seconds : Double}
    (run : Traced.Reaches step? (create config registry lifetime)
      (earlier ++ .pass input now seconds :: between) p)
    (hlisting : input.listing = .ok listing)
    (quiet : ∀ a ∈ between, ∀ listing, ¬ a.Lists listing) :
    (∀ r ∈ p.scheduler.resources, r ∈ listing.map Autoscaler.ref) ∧
      ∀ r b, p.cache.get? r = some b → r ∈ listing.map Autoscaler.ref := by
  obtain ⟨q, first, rest⟩ := Traced.Reaches.split run
  obtain ⟨next, hnext, others⟩ := Traced.Reaches.cons_inv rest
  obtain rfl := Option.some.inj hnext
  obtain ⟨hscheduler, hcache⟩ := pass_frame q input now seconds
  obtain ⟨htable, hkept⟩ := frame_reaches others quiet
  have covers := reconcile_covers (coherent_reaches first) hlisting
  rw [Scheduler.resources, htable, hkept]
  change (∀ r ∈ (q.pass input now seconds).value.1.scheduler.resources, _) ∧
    ∀ r b, (q.pass input now seconds).value.1.cache.get? r = some b → _
  rw [hscheduler, hcache]
  exact covers

/-- A successful pass does not disturb an autoscaler that agrees with its remembered copy: no
collector is asked for on its behalf, no warning is raised, and its slots hold the same pollers as
before, which are cancelled only with the root. The new copy is remembered. If all listed autoscalers
agree with their remembered copies, and the successful pass before listed the same ones, the pass
changes neither the scheduler nor the number of pollers that is measured, and what is remembered
agrees with what was. -/
theorem pass_spares_unchanged {config : ProviderConfig} {registry : Registry π}
    {lifetime : Lifetime} {as : List (ProviderAction π κ)} {before : Traced (Provider π κ)}
    (run : (create config registry lifetime).run? as = some before)
    (hlisting : input.listing = .ok listing) (distinct : (listing.map Autoscaler.ref).Nodup)
    (now : Timestamp) (seconds : Double) :
    ∃ after report, (before.value.pass input now seconds).value = (after, some report) ∧
      (∀ a ∈ listing, ∀ old, before.value.cache.get? a.ref = some old → old.agrees a = true →
        (∀ q ∈ report.requests, q.autoscaler.ref ≠ a.ref) ∧
        (∀ w ∈ report.warnings, w.autoscaler.ref ≠ a.ref) ∧
        after.cache.get? a.ref = some a ∧
        after.scheduler.slots a.ref = before.value.scheduler.slots a.ref ∧
        ∀ m i, before.value.scheduler.occupant? a.ref m = some i →
          ∃ q, before.value.scheduler.pollers[i]? = some q ∧
            after.scheduler.pollers[i]? = some q ∧
            q.cancelled = before.value.scheduler.rootCancelled) ∧
      ∀ earlier between input' now' seconds' listing',
        as = earlier ++ .pass input' now' seconds' :: between →
        input'.listing = .ok listing' →
        (∀ a ∈ between, ∀ listing, ¬ a.Lists listing) →
        (∀ r, r ∈ listing'.map Autoscaler.ref ↔ r ∈ listing.map Autoscaler.ref) →
        (∀ a ∈ listing, ∃ old, before.value.cache.get? a.ref = some old ∧ old.agrees a = true) →
        report = ⟨⟨listing.length, 0, 0, 0, 0⟩, [], []⟩ ∧
        after.scheduler = before.value.scheduler ∧
        (∀ meters : Meters,
          (meters.recordAll (before.value.pass input now seconds).measured).activeCollectors =
            meters.activeCollectors) ∧
        ∀ r, Option.Rel (fun old new => old.agrees new = true) (before.value.cache.get? r)
          (after.cache.get? r) := by
  have reached : Traced.Reaches step? (create config registry lifetime) as before.value :=
    Traced.reaches_of_run? run
  have coherent := coherent_reaches reached
  obtain ⟨hscheduler, hcache⟩ := pass_frame before.value input now seconds
  obtain ⟨report, hreport, requests, warnings, -⟩ := before.value.reconcile_work hlisting
  have distinct_refs : ∀ a ∈ listing, before.value.isUnchanged a = true → ∀ b ∈ listing,
      before.value.isUnchanged b = false → b.ref ≠ a.ref := by
    intro a ha unchanged b hb hchanged href
    obtain rfl : b = a := List.inj_on_of_nodup_map distinct hb ha href
    exact Bool.false_ne_true (hchanged.symm.trans unchanged)
  refine ⟨_, report, Prod.ext rfl (pass_of_ok hreport now seconds), ?_, ?_⟩
  · intro a ha old hold hagrees
    have unchanged : before.value.isUnchanged a = true := isUnchanged_iff.mpr ⟨old, hold, hagrees⟩
    obtain ⟨hremembered, hslots, hpollers⟩ :=
      reconcile_spares_unchanged coherent hlisting distinct ha unchanged
    rw [hscheduler, hcache]
    refine ⟨?_, ?_, hremembered, hslots, ?_⟩
    · intro q hq
      exact distinct_refs a ha unchanged _ (requests q hq).1 (requests q hq).2
    · intro w hw
      exact distinct_refs a ha unchanged _ (warnings w hw).1 (warnings w hw).2
    · intro m i ho
      obtain ⟨q, hq, -, -, hcancelled⟩ := coherent.occupied a.ref m i ho
      exact ⟨q, hq, (hpollers m i ho).trans hq, hcancelled⟩
  · rintro earlier between input' now' seconds' listing' rfl hlisting' quiet same agree
    obtain ⟨slots, remembered⟩ := covers_since reached hlisting' quiet
    have unchanged : ∀ a ∈ listing, before.value.isUnchanged a = true :=
      fun a ha => isUnchanged_iff.mpr (agree a ha)
    obtain ⟨cache, hidle⟩ := reconcile_of_unchanged hlisting unchanged fun r hr =>
      (same r).mp (slots r hr)
    refine ⟨?_, ?_, ?_, ?_⟩
    · rw [hidle] at hreport
      exact (Except.ok.inj hreport).symm
    · rw [hscheduler, hidle]
      rfl
    · intro meters
      rw [pass, hidle]
      rfl
    · intro r
      rw [hcache]
      -- An autoscaler that is not listed now was not listed before, so neither copy exists.
      by_cases hr : r ∈ listing.map Autoscaler.ref
      · obtain ⟨a, ha, rfl⟩ := List.mem_map.mp hr
        obtain ⟨old, hold, hagrees⟩ := agree a ha
        rw [hold, (reconcile_spares_unchanged coherent hlisting distinct ha
          (unchanged a ha)).1]
        exact .some hagrees
      · have hold : before.value.cache.get? r = none := by
          rw [Option.eq_none_iff_forall_ne_some]
          exact fun b hb => hr ((same r).mp (remembered r b hb))
        have hnew : (before.value.reconcile input).value.1.cache.get? r = none := by
          rw [Option.eq_none_iff_forall_ne_some]
          exact fun b hb => hr ((reconcile_covers coherent hlisting).2 r b hb)
        rw [hold, hnew]
        exact .none

/-- An autoscaler with one metric of its pods, in a version. -/
def versioned (name metric version : String) : Autoscaler :=
  let pods : TargetedMetric := ⟨⟨metric, none⟩, ⟨"AverageValue", none, some "10", none⟩⟩
  { Autoscaler.empty with
    metadata := { Metadata.empty with
      ns := some "shop", name := some name, resourceVersion := some version }
    spec := some ⟨none, 3, ⟨none, "Deployment", name⟩,
      some [⟨"Pods", some pods, none, none, none, none⟩], none⟩ }

/-- A pass over a listing, in which the plugin answers all requests or none. -/
def answered (works : Bool) (listing : List Autoscaler) : PassInput Nat Nat where
  listing := .ok listing
  declarations := Autoscaler.specDeclarations
  build n _ := if works then .ok n else .error ⟨["unavailable"]⟩

/-- Two autoscalers get pollers, one of which begins. -/
def settling : List (ProviderAction Nat Nat) :=
  [.pass (answered true [versioned "web" "rps" "1", versioned "api" "rps" "1"]) ⟨0, 0⟩ ⟨0⟩,
    .poller (.start 0)]

/-- The first autoscaler has a new version, the second one another metric, and a third one is
new. -/
def disturbance : List Autoscaler :=
  [versioned "web" "rps" "2", versioned "api" "lag" "2", versioned "db" "rps" "1"]

/-- The two autoscalers have new versions. -/
def repetition : List Autoscaler := [versioned "web" "rps" "2", versioned "api" "rps" "2"]

theorem pass_spares_unchanged_versioned :
    ∃ before after report q, (create .standard (Registry.empty.insert (.pods "") 0) ⟨0⟩).run?
        settling = some before ∧
      (before.value.pass (answered false disturbance) ⟨30, 0⟩ ⟨0⟩).value = (after, some report) ∧
      report.summary = ⟨3, 2, 0, 2, 0⟩ ∧ after.scheduler.pollers[0]? = some q ∧ q.polls = 1 ∧
      q.cancelled = false ∧
      (before.value.pass (answered false repetition) ⟨30, 0⟩ ⟨0⟩).value.1.scheduler =
        before.value.scheduler := by
  obtain ⟨before, run, web, api, ho, live, hpolls, hsummary⟩ : ∃ before,
      (create .standard (Registry.empty.insert (.pods "") 0) ⟨0⟩).run? settling = some before ∧
      before.value.cache.get? ⟨"shop", "web"⟩ = some (versioned "web" "rps" "1") ∧
      before.value.cache.get? ⟨"shop", "api"⟩ = some (versioned "api" "rps" "1") ∧
      before.value.scheduler.occupant? ⟨"shop", "web"⟩ ⟨.pods, "rps", none⟩ = some 0 ∧
      before.value.scheduler.rootCancelled = false ∧
      before.value.scheduler.pollers[0]?.map (·.polls) = some 1 ∧
      (before.value.pass (answered false disturbance) ⟨30, 0⟩ ⟨0⟩).value.2.map (·.summary) =
        some ⟨3, 2, 0, 2, 0⟩ := ⟨_, rfl, rfl, rfl, rfl, rfl, rfl, rfl⟩
  have listed : (answered false disturbance).listing = .ok disturbance := rfl
  have relisted : (answered false repetition).listing = .ok repetition := rfl
  obtain ⟨after, report, hpass, spares, -⟩ :=
    pass_spares_unchanged run listed (by decide) ⟨30, 0⟩ ⟨0⟩
  obtain ⟨again, _, hagain, -, idle⟩ :=
    pass_spares_unchanged run relisted (by decide) ⟨30, 0⟩ ⟨0⟩
  obtain ⟨-, -, -, -, pollers⟩ :=
    spares (versioned "web" "rps" "2") (by simp [disturbance]) _ web (by decide)
  obtain ⟨q, hq, hq', hcancelled⟩ := pollers _ 0 ho
  have hpolls' : q.polls = 1 := by simpa [hq] using hpolls
  have same : again.scheduler = before.value.scheduler := by
    refine (idle [] [.poller (.start 0)] _ _ _ _ rfl rfl ?_ (fun _ => Iff.rfl) ?_).2.1
    · simp [ProviderAction.Lists]
    · intro a ha
      simp only [repetition, List.mem_cons, List.not_mem_nil, or_false] at ha
      rcases ha with rfl | rfl
      · exact ⟨_, web, by decide⟩
      · exact ⟨_, api, by decide⟩
  refine ⟨before, after, report, q, run, hpass, ?_, hq', hpolls', hcancelled.trans live, ?_⟩
  · simpa [hpass] using hsummary
  · rw [hagain]
    exact same

end Provider

end ScalingMetrics
