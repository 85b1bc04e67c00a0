import ScalingMetrics.Proofs.Provider.Operations

/-!
# Results of removed autoscalers

Once a pass has removed an autoscaler, what its pollers still do is hardly seen: the loop that takes
values receives from it what the channel holds at that moment and what is on its way there, at most
one result for each poller, and no more until the autoscaler is listed again.

## Implementation notes

Passes are made at once here. When others act between the operations of a pass, the same holds from
the moment at which it removes the autoscaler (`received_amid_pass`).
-/

namespace ScalingMetrics

namespace Provider

variable {π κ : Type}

/-- From a pass that does not list an autoscaler until it is listed again, the loop that takes
values receives those of its results that are in the channel after the pass, oldest first, then at
most those that are on their way, and no others. As long as the loop has not ended, none that came
into the channel is lost. -/
theorem received_after_removal {config : ProviderConfig} {registry : Registry π}
    {lifetime : Lifetime} {as after : List (ProviderAction π κ)}
    {before last : Traced (Provider π κ)} {input : PassInput π κ} {now : Timestamp}
    {seconds : Double} {removed : Provider π κ} {listing : List Autoscaler} {r : AutoscalerRef}
    (run : (create config registry lifetime).run? as = some before)
    (hlisting : input.listing = .ok listing) (hr : r ∉ listing.map Autoscaler.ref)
    (pass : removed = (before.value.pass input now seconds).value.1)
    (later : removed.run? after = some last)
    (absent : ∀ a ∈ after, ∀ listing, a.Lists listing → r ∉ listing.map Autoscaler.ref) :
    ∃ late, late.Subperm (removed.scheduler.flights r) ∧
      ofResource r (removed.received after) ++ ofResource r last.value.scheduler.queue <+:
        ofResource r removed.scheduler.queue ++ late ∧
      (last.value.scheduler.isOpen = true →
        ofResource r (removed.received after) ++ ofResource r last.value.scheduler.queue =
          ofResource r removed.scheduler.queue ++ late) ∧
      (ofResource r (removed.received after)).length ≤
        max config.resultsBuffer 1 + (removed.scheduler.flights r).length := by
  have reached : Traced.Reaches step? (create config registry lifetime) as before.value :=
    Traced.reaches_of_run? run
  have hstep : before.value.step? (.pass input now seconds) =
      some ((·.1) <$> before.value.pass input now seconds) := rfl
  have hremoved : Traced.Reaches step? (create config registry lifetime)
      (as ++ [.pass input now seconds]) removed := pass ▸ reached.step hstep
  have hslots : removed.scheduler.slots r = ∅ := by
    apply Scheduler.slots_of_not_mem_resources
    rw [pass, (pass_frame before.value input now seconds).1]
    exact fun hmem => hr ((reconcile_covers (coherent_reaches reached) hlisting).1 r hmem)
  obtain ⟨xs, earlier, -⟩ := scheduler_reaches hremoved
  obtain ⟨ys, others, received, hys⟩ := scheduler_reaches (Traced.reaches_of_run? later)
  rw [← received]
  apply Scheduler.received_of_slots_empty earlier hslots others
  intro m c hadd
  obtain ⟨a, ha, permits⟩ := hys _ hadd
  obtain ⟨listing', hlists, hmem⟩ := ProviderAction.lists_of_permits_add permits
  exact absent a ha listing' hlists hmem

/-- An autoscaler with two metrics of its pods. -/
def polled : Autoscaler :=
  let pods (name : String) : MetricSpec :=
    ⟨"Pods", some ⟨⟨name, none⟩, ⟨"AverageValue", none, some "10", none⟩⟩, none, none, none, none⟩
  { Autoscaler.empty with
    metadata := { Metadata.empty with ns := some "shop", name := some "web" }
    spec := some ⟨none, 3, ⟨none, "Deployment", "web"⟩, some [pods "rps", pods "lag"], none⟩ }

/-- A pass over a listing, in which the plugin answers every request. -/
def served (listing : List Autoscaler) : PassInput Nat Nat where
  listing := .ok listing
  declarations := Autoscaler.specDeclarations
  build n _ := .ok n

/-- Two pollers share a channel with room for one result. The first one has put a result there and
polls again, and the second one is about to send. -/
def crowded : List (ProviderAction Nat Nat) :=
  [.pass (served [polled]) ⟨0, 0⟩ ⟨0⟩, .poller (.start 0), .poller (.start 1),
    .poller (.finish 0 (.ok [])), .poller (.finish 1 (.ok [])), .poller (.look 0),
    .poller (.look 1), .poller (.accept 0 5), .poller (.elapse 5), .poller (.wake 0)]

/-- After the removal the reader makes room, the second poller sends, and both end. -/
def drained : List (ProviderAction Nat Nat) :=
  [.consume fun _ => ⟨30, 0⟩, .poller (.accept 1 5), .poller (.stop 1),
    .poller (.finish 0 (.ok [])), .consume fun _ => ⟨31, 0⟩, .pass (served []) ⟨60, 0⟩ ⟨0⟩]

theorem received_after_removal_crowded :
    ∃ before removed last, (create { ProviderConfig.standard with resultsBuffer := 0 }
        (Registry.empty.insert (.pods "") 0) ⟨0⟩).run? crowded = some before ∧
      removed = (before.value.pass (served []) ⟨30, 0⟩ ⟨0⟩).value.1 ∧
      removed.run? drained = some last ∧
      (removed.received drained).map (·.poller) = [0, 1] ∧
      (removed.scheduler.flights polled.ref).map (·.poller) = [1] ∧
      (ofResource polled.ref (removed.received drained)).length ≤
        1 + (removed.scheduler.flights polled.ref).length := by
  obtain ⟨before, removed, last, run, pass, later, results, onTheWay⟩ :
      ∃ before removed last, (create { ProviderConfig.standard with resultsBuffer := 0 }
          (Registry.empty.insert (.pods "") 0) ⟨0⟩).run? crowded = some before ∧
        removed = (before.value.pass (served []) ⟨30, 0⟩ ⟨0⟩).value.1 ∧
        removed.run? drained = some last ∧ (removed.received drained).map (·.poller) = [0, 1] ∧
        (removed.scheduler.flights polled.ref).map (·.poller) = [1] :=
    ⟨_, _, _, rfl, rfl, rfl, rfl, rfl⟩
  have absent : ∀ a ∈ drained, ∀ listing, a.Lists listing →
      polled.ref ∉ listing.map Autoscaler.ref := by
    intro a ha listing hlists
    simp only [drained, List.mem_cons, List.not_mem_nil, or_false] at ha
    rcases ha with rfl | rfl | rfl | rfl | rfl | rfl
    · cases hlists
    · cases hlists
    · cases hlists
    · cases hlists
    · cases hlists
    · obtain rfl : [] = listing := Except.ok.inj hlists
      simp
  obtain ⟨late, -, -, -, bounded⟩ := received_after_removal run rfl (by simp) pass later absent
  exact ⟨before, removed, last, run, pass, later, results, onTheWay, bounded⟩

/-- After a removal more results may be received than the channel holds or has room for. -/
theorem received_beyond_channel :
    ∃ before removed last, (create { ProviderConfig.standard with resultsBuffer := 0 }
        (Registry.empty.insert (.pods "") 0) ⟨0⟩).run? crowded = some before ∧
      removed = (before.value.pass (served []) ⟨30, 0⟩ ⟨0⟩).value.1 ∧
      removed.run? drained = some last ∧
      (ofResource polled.ref removed.scheduler.queue).map (·.poller) = [0] ∧
      (ofResource polled.ref (removed.received drained)).map (·.poller) = [0, 1] ∧
      ¬ (ofResource polled.ref (removed.received drained)).length ≤ max 0 1 :=
  ⟨_, _, _, rfl, rfl, rfl, rfl, rfl, by decide⟩

end Provider

end ScalingMetrics
