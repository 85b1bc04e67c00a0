import Mathlib.Data.Option.Basic
import ScalingMetrics.Proofs.Provider.Gauge
import ScalingMetrics.Proofs.Store.History

/-!
# What collected results leave behind

Collected results are handled and the store is swept in any order. The store is that of the
insertions and sweeps alone, a failed result leaves no trace in it, and the meters count the results
and show the size of the store after the last event that wrote to it.

## Implementation notes

A batch with a value whose expiry overflows does not return. The insertion of such a value means
nothing either, so runs of events and their insertions exist together. What follows such a batch is
a run of its own, from the state that the batch leaves.
-/

namespace ScalingMetrics

/-- An event that concerns the store. -/
inductive StoreEvent where
  /-- A result is handled, with a reading of the clock for each of its values. -/
  | handle (c : Collection) (clock : Nat → Timestamp)
  | sweep (now : Timestamp)

/-- The insertion of each value of a batch, in order. None if an expiry overflows. -/
def Lifetime.insertions? (l : Lifetime) (clock : Nat → Timestamp) (samples : List Sample) :
    Option (List StoreAction) :=
  samples.zipIdx.mapM fun x => (l.expiry? (clock x.2)).map (StoreAction.insert x.1)

theorem Lifetime.insertions?_cons (l : Lifetime) (clock : Nat → Timestamp) (sample : Sample)
    (rest : List Sample) :
    l.insertions? clock (sample :: rest) = (l.expiry? (clock 0)).bind fun expiry =>
      (l.insertions? (fun n => clock (n + 1)) rest).map (.insert sample expiry :: ·) := by
  rw [insertions?, List.zipIdx_cons, List.mapM_cons, Nat.zero_add, List.zipIdx_succ, List.mapM_map]
  cases l.expiry? (clock 0) with
  | none => rfl
  | some expiry => exact (Option.map_eq_bind ..).symm

namespace StoreEvent

/-- A batch was collected, however small. -/
def succeeded : StoreEvent → Bool
  | handle c _ => c.result.isOk
  | sweep _ => false

/-- A collection failed. -/
def failed : StoreEvent → Bool
  | handle c _ => !c.result.isOk
  | sweep _ => false

/-- Whether an event writes to the store. -/
def writes : StoreEvent → Bool
  | handle c _ => c.result.isOk
  | sweep _ => true

/-- The changes of the store that an event asks for. -/
def changes? (l : Lifetime) : StoreEvent → Option (List StoreAction)
  | handle c clock => l.insertions? clock c.result.samples
  | sweep now => some [.sweep now]

theorem changes?_of_error {l : Lifetime} {c : Collection} {clock : Nat → Timestamp} {cause : Cause}
    (h : c.result = .error cause) : (handle c clock).changes? l = some [] := by
  rw [changes?, h]
  rfl

theorem changes?_of_ok {l : Lifetime} {c : Collection} {clock : Nat → Timestamp}
    {samples : List Sample} (h : c.result = .ok samples) :
    (handle c clock).changes? l = l.insertions? clock samples := by
  rw [changes?, h]
  rfl

end StoreEvent

namespace Store

variable {lifetime : Lifetime} {clock : Nat → Timestamp} {samples : List Sample} {s : Store}
  {changes : List StoreAction}

theorem keepAll_of_insertions (h : lifetime.insertions? clock samples = some changes) :
    (keepAll lifetime clock samples s).value = (changes.foldl apply s, true) := by
  induction samples generalizing clock s changes with
  | nil =>
      obtain rfl : [] = changes := Option.some.inj h
      rfl
  | cons sample rest ih =>
      rw [Lifetime.insertions?_cons] at h
      obtain ⟨expiry, hexpiry, h⟩ := Option.bind_eq_some_iff.mp h
      obtain ⟨others, hothers, rfl⟩ := Option.map_eq_some_iff.mp h
      simp only [keepAll, keep?, hexpiry, Option.map_some, Traced.value_bind]
      exact ih hothers

theorem keepAll_of_overflow (h : lifetime.insertions? clock samples = none) :
    (keepAll lifetime clock samples s).value.2 = false := by
  induction samples generalizing clock s with
  | nil => cases h
  | cons sample rest ih =>
      rw [Lifetime.insertions?_cons] at h
      cases hexpiry : lifetime.expiry? (clock 0) with
      | none => simp [keepAll, keep?, hexpiry]
      | some expiry =>
          rw [hexpiry, Option.bind_some, Option.map_eq_none_iff] at h
          simp only [keepAll, keep?, hexpiry, Option.map_some, Traced.value_bind]
          exact ih h

end Store

/-! ### Meters -/

/-- Measurements that count succeeded and failed collections, and show the size of the store if they
show one at all. -/
def Measures (measured : List Measurement) (succeeded failed : Nat) (size? : Option (Nat × Nat)) :
    Prop :=
  ∀ meters : Meters,
    (meters.recordAll measured).collectionSuccesses = meters.collectionSuccesses + succeeded ∧
    (meters.recordAll measured).collectionErrors = meters.collectionErrors + failed ∧
    (meters.recordAll measured).storedMetrics = size?.or meters.storedMetrics

theorem Measures.append {measured measured' : List Measurement} {k l k' l' : Nat}
    {size? size'? : Option (Nat × Nat)} (first : Measures measured k l size?)
    (second : Measures measured' k' l' size'?) :
    Measures (measured ++ measured') (k + k') (l + l') (size'?.or size?) := by
  intro meters
  obtain ⟨successes, errors, stored⟩ := first meters
  obtain ⟨successes', errors', stored'⟩ := second (meters.recordAll measured)
  rw [Meters.recordAll_append, successes', errors', stored', successes, errors, stored,
    Option.or_assoc]
  exact ⟨Nat.add_assoc .., Nat.add_assoc .., rfl⟩

namespace Provider

variable {π κ : Type} {p q : Provider π κ} {e : StoreEvent} {events : List StoreEvent}
  {next last : Traced (Provider π κ)} {c : Collection} {clock : Nat → Timestamp}

/-! ### Single events -/

/-- What happens at an event. -/
def occur (p : Provider π κ) : StoreEvent → Traced (Provider π κ)
  | .handle c clock => (·.1) <$> p.handle c clock
  | .sweep now => p.sweep now

/-- Whether an event comes to its end. -/
def returns (p : Provider π κ) : StoreEvent → Bool
  | .handle c clock => (p.handle c clock).value.2
  | .sweep _ => true

/-- The state after an event, if it returns. -/
def feed? (p : Provider π κ) (e : StoreEvent) : Option (Traced (Provider π κ)) :=
  if p.returns e then some (p.occur e) else none

/-- A failed collection changes nothing. -/
theorem handle_of_error {cause : Cause} (h : c.result = .error cause) :
    (p.handle c clock).value = (p, true) ∧
      (p.handle c clock).measured = [.collectionFailed] := by
  simp only [handle, h]
  exact ⟨rfl, rfl⟩

theorem handle_of_insertions {samples : List Sample} {changes : List StoreAction}
    (h : c.result = .ok samples) (kept : p.lifetime.insertions? clock samples = some changes) :
    (p.handle c clock).value = ({ p with store := changes.foldl Store.apply p.store }, true) ∧
      (p.handle c clock).measured = [.collectionSucceeded,
        .storedMetrics (changes.foldl Store.apply p.store).counts.1
          (changes.foldl Store.apply p.store).counts.2] := by
  have stored := Store.keepAll_of_insertions (s := p.store) kept
  simp only [handle, h, Traced.value_bind, Traced.measured_bind, stored, measured_keepAll]
  exact ⟨rfl, rfl⟩

theorem handle_of_overflow {samples : List Sample} (h : c.result = .ok samples)
    (overflow : p.lifetime.insertions? clock samples = none) :
    (p.handle c clock).value.2 = false := by
  have broken := Store.keepAll_of_overflow (s := p.store) overflow
  simp only [handle, h, Traced.value_bind, broken]
  rfl

theorem sweep_writes (p : Provider π κ) (now : Timestamp) :
    (p.sweep now).value.store = p.store.apply (.sweep now) ∧
      (p.sweep now).value.lifetime = p.lifetime ∧
      (p.sweep now).measured = [.storedMetrics (p.store.apply (.sweep now)).counts.1
        (p.store.apply (.sweep now)).counts.2] := by
  have swept : (p.store.removeExpired now).measured = [] := by
    rw [Store.removeExpired]
    split <;> rfl
  simp only [sweep, Traced.value_bind, Traced.measured_bind, swept]
  split <;> exact ⟨rfl, rfl, rfl⟩

/-- What an event does that returns. A successful batch and a sweep write to the store. -/
inductive Fed (p : Provider π κ) : StoreEvent → Provider π κ → List Measurement → Prop
  | failed {c clock cause} (h : c.result = .error cause) :
      Fed p (.handle c clock) p [.collectionFailed]
  | kept {c clock samples changes} {q : Provider π κ} (h : c.result = .ok samples)
      (kept : p.lifetime.insertions? clock samples = some changes)
      (hq : q = { p with store := changes.foldl Store.apply p.store }) :
      Fed p (.handle c clock) q
        [.collectionSucceeded, .storedMetrics q.store.counts.1 q.store.counts.2]
  | swept {now} {q : Provider π κ} (store : q.store = p.store.apply (.sweep now))
      (lifetime : q.lifetime = p.lifetime) :
      Fed p (.sweep now) q [.storedMetrics q.store.counts.1 q.store.counts.2]

/-- An event returns if its insertions mean something. -/
theorem feed?_eq_none_iff : p.feed? e = none ↔ e.changes? p.lifetime = none := by
  simp only [feed?, ite_eq_right_iff, reduceCtorEq, imp_false, Bool.not_eq_true]
  cases e with
  | sweep now => simp [returns, StoreEvent.changes?]
  | handle c clock =>
      rw [returns]
      cases hresult : c.result with
      | error cause => simp [(handle_of_error hresult).1, StoreEvent.changes?_of_error hresult]
      | ok samples =>
          rw [StoreEvent.changes?_of_ok hresult]
          cases hkept : p.lifetime.insertions? clock samples with
          | none => simp [handle_of_overflow hresult hkept]
          | some changes => simp [(handle_of_insertions hresult hkept).1]

theorem fed_of_feed? (h : p.feed? e = some next) : p.Fed e next.value next.measured := by
  have possible : e.changes? p.lifetime ≠ none := fun hnone =>
    nomatch h.symm.trans (feed?_eq_none_iff.mpr hnone)
  obtain ⟨-, rfl⟩ : p.returns e = true ∧ p.occur e = next := by simpa [feed?] using h
  cases e with
  | sweep now =>
      obtain ⟨store, lifetime, measured⟩ := p.sweep_writes now
      simp only [occur, measured, ← store]
      exact .swept store lifetime
  | handle c clock =>
      cases hresult : c.result with
      | error cause =>
          obtain ⟨value, measured⟩ : (p.handle c clock).value = (p, true) ∧ _ :=
            handle_of_error hresult
          simp only [occur, Traced.value_map, Traced.measured_map, value, measured]
          exact .failed hresult
      | ok samples =>
          rw [StoreEvent.changes?_of_ok hresult] at possible
          obtain ⟨changes, hkept⟩ := Option.ne_none_iff_exists'.mp possible
          obtain ⟨value, measured⟩ := handle_of_insertions hresult hkept
          simp only [occur, Traced.value_map, Traced.measured_map, value, measured]
          exact .kept hresult hkept rfl

theorem Fed.lifetime {measured : List Measurement} (h : p.Fed e q measured) :
    q.lifetime = p.lifetime := by
  cases h with
  | failed h => rfl
  | kept h kept hq => rw [hq]
  | swept store lifetime => exact lifetime

theorem Fed.store {measured : List Measurement} (h : p.Fed e q measured) :
    ∃ changes, e.changes? p.lifetime = some changes ∧
      q.store = changes.foldl Store.apply p.store := by
  cases h with
  | failed h => exact ⟨[], StoreEvent.changes?_of_error h, rfl⟩
  | kept h kept hq => exact ⟨_, (StoreEvent.changes?_of_ok h).trans kept, by rw [hq]⟩
  | swept store lifetime => exact ⟨_, rfl, store⟩

theorem Fed.eq_of_not_writes {measured : List Measurement} (h : p.Fed e q measured)
    (quiet : e.writes = false) : q = p := by
  cases h with
  | failed h => rfl
  | kept h kept hq => simp [StoreEvent.writes, h, Except.isOk, Except.toBool] at quiet
  | swept store lifetime => cases quiet

theorem Fed.measures {measured : List Measurement} (h : p.Fed e q measured) :
    Measures measured ([e].countP StoreEvent.succeeded) ([e].countP StoreEvent.failed)
      (if e.writes then some q.store.counts else none) := by
  intro meters
  cases h with
  | failed h =>
      simp [StoreEvent.succeeded, StoreEvent.failed, StoreEvent.writes, h, Except.isOk,
        Except.toBool, Meters.recordAll, Meters.record]
  | kept h kept hq =>
      simp [StoreEvent.succeeded, StoreEvent.failed, StoreEvent.writes, h, Except.isOk,
        Except.toBool, Meters.recordAll, Meters.record]
  | swept store lifetime =>
      simp [StoreEvent.succeeded, StoreEvent.failed, StoreEvent.writes, Meters.recordAll,
        Meters.record]

/-! ### Runs -/

/-- The state after events in order, if all of them return. -/
def feedAll? (p : Provider π κ) (events : List StoreEvent) : Option (Traced (Provider π κ)) :=
  Traced.run? feed? p events

/-- The store follows from the insertions and the sweeps alone. -/
theorem store_feedAll? (p : Provider π κ) (events : List StoreEvent) :
    (p.feedAll? events).map (·.value.store) =
      (events.mapM (StoreEvent.changes? p.lifetime)).map fun changes =>
        changes.flatten.foldl Store.apply p.store := by
  induction events generalizing p with
  | nil => rfl
  | cons e rest ih =>
      rw [feedAll?, Traced.map_value_run?_cons, List.mapM_cons]
      cases hnext : p.feed? e with
      | none =>
          rw [feed?_eq_none_iff.mp hnext]
          rfl
      | some next =>
          have fed := fed_of_feed? hnext
          obtain ⟨changes, hchanges, hstore⟩ := fed.store
          have later := ih next.value
          rw [feedAll?, fed.lifetime, hstore] at later
          rw [Option.bind_some, later, hchanges]
          cases rest.mapM (StoreEvent.changes? p.lifetime) with
          | none => rfl
          | some history => exact congrArg some List.foldl_append.symm

theorem eq_of_feedAll? (h : p.feedAll? events = some last)
    (quiet : events.any StoreEvent.writes = false) : last.value = p := by
  induction events generalizing p last with
  | nil =>
      obtain rfl := Option.some.inj h
      rfl
  | cons e rest ih =>
      obtain ⟨next, tail, hnext, htail, rfl⟩ := Traced.run?_cons_eq_some h
      rw [List.any_cons, Bool.or_eq_false_iff] at quiet
      have first := (fed_of_feed? hnext).eq_of_not_writes quiet.1
      exact (ih htail quiet.2).trans first

theorem measures_feedAll? (h : p.feedAll? events = some last) :
    Measures last.measured (events.countP StoreEvent.succeeded) (events.countP StoreEvent.failed)
      (if events.any StoreEvent.writes then some last.value.store.counts else none) := by
  induction events generalizing p last with
  | nil =>
      obtain rfl := Option.some.inj h
      exact fun _ => ⟨rfl, rfl, rfl⟩
  | cons e rest ih =>
      obtain ⟨next, tail, hnext, htail, rfl⟩ := Traced.run?_cons_eq_some h
      have both := (fed_of_feed? hnext).measures.append (ih htail)
      rw [← List.countP_append, ← List.countP_append, List.singleton_append] at both
      have size : ((if rest.any StoreEvent.writes then some tail.value.store.counts else none).or
          (if e.writes then some next.value.store.counts else none)) =
            if (e :: rest).any StoreEvent.writes then some tail.value.store.counts else none := by
        rw [List.any_cons]
        cases hrest : rest.any StoreEvent.writes with
        | true => simp
        | false =>
            rw [eq_of_feedAll? htail hrest]
            simp
      rwa [size] at both

/-! ### Actions of the provider -/

/-- The event in an action of the provider, if there is one. -/
def eventOf? (p : Provider π κ) : ProviderAction π κ → Option StoreEvent
  | .consume clock => p.scheduler.receive?.map fun d => .handle d.1.collection clock
  | .sweep now => some (.sweep now)
  | _ => none

theorem store_reconcile (p : Provider π κ) (input : PassInput π κ) :
    (p.reconcile input).value.1.store = p.store := by
  rw [reconcile]
  split <;> rfl

theorem store_pass (p : Provider π κ) (input : PassInput π κ) (now : Timestamp)
    (seconds : Double) : (p.pass input now seconds).value.1.store = p.store := by
  rw [← p.store_reconcile input]
  simp only [pass, Traced.value_bind]
  split <;> rfl

theorem measured_pass (p : Provider π κ) (input : PassInput π κ) (now : Timestamp)
    (seconds : Double) : ∀ x ∈ (p.pass input now seconds).measured, x.isOfValues = false := by
  have alone : ∀ x ∈ (p.reconcile input).measured, x.isOfValues = false := by
    intro x hx
    obtain ⟨k, rfl⟩ := (gauged_reconcile p input).alone x hx
    rfl
  cases hresult : (p.reconcile input).value.2 with
  | ok report =>
      have later : ∀ x ∈ [Measurement.passSucceeded, .passDuration seconds],
          x.isOfValues = false := by simp [Measurement.isOfValues]
      simp only [pass, Traced.measured_bind, hresult]
      exact fun x hx => (List.mem_append.mp hx).elim (alone x) (later x)
  | error e =>
      have later : ∀ x ∈ [Measurement.passFailed, .passDuration seconds],
          x.isOfValues = false := by simp [Measurement.isOfValues]
      simp only [pass, Traced.measured_bind, hresult]
      exact fun x hx => (List.mem_append.mp hx).elim (alone x) (later x)

/-- What is left in the channel does not matter to a result that was taken from it. -/
theorem handle_congr (p : Provider π κ) (scheduler : Scheduler κ Outcome) (c : Collection)
    (clock : Nat → Timestamp) :
    ({ p with scheduler }.handle c clock).value.1.store = (p.handle c clock).value.1.store ∧
      ({ p with scheduler }.handle c clock).measured = (p.handle c clock).measured := by
  unfold handle
  split
  · simp only [Traced.value_bind, Traced.measured_bind]
    split <;> exact ⟨rfl, rfl⟩
  · exact ⟨rfl, rfl⟩

theorem store_of_event {a : ProviderAction π κ} (h : p.step? a = some next)
    (hevent : p.eventOf? a = some e) :
    next.value.store = (p.occur e).value.store ∧ next.measured = (p.occur e).measured := by
  cases a with
  | consume clock =>
      rw [step?, consume?] at h
      cases hreceive : p.scheduler.receive? with
      | none => simp [hreceive] at h
      | some received =>
          obtain ⟨d, scheduler⟩ := received
          rw [hreceive] at h
          obtain rfl := Option.some.inj h
          rw [eventOf?, hreceive] at hevent
          obtain rfl := Option.some.inj hevent
          obtain ⟨store, measured⟩ := p.handle_congr scheduler d.collection clock
          rw [occur, Traced.value_map, Traced.measured_map, ← store, ← measured]
          simp only [Traced.value_bind, Traced.measured_bind, Traced.measured_pure, List.append_nil,
            and_true]
          split <;> rfl
  | sweep now =>
      obtain rfl := Option.some.inj h
      obtain rfl := Option.some.inj hevent
      exact ⟨rfl, rfl⟩
  | _ => cases hevent

/-- The loops that take values and sweep are the only writers of the store. -/
theorem store_of_no_event {a : ProviderAction π κ} (h : p.step? a = some next)
    (hevent : p.eventOf? a = none) :
    next.value.store = p.store ∧ ∀ x ∈ next.measured, x.isOfValues = false := by
  cases a with
  | pass input now seconds =>
      obtain rfl := Option.some.inj h
      refine ⟨p.store_pass input now seconds, ?_⟩
      rw [Traced.measured_map]
      exact p.measured_pass input now seconds
  | openSink now =>
      obtain rfl := Option.some.inj h
      exact ⟨rfl, List.forall_mem_nil _⟩
  | consume clock =>
      rw [step?, consume?, Option.map_eq_none_iff.mp hevent] at h
      cases h
  | sweep now => cases hevent
  | poller action =>
      rw [step?] at h
      split at h
      · next hpoller =>
          obtain ⟨t, ht, rfl⟩ := Option.map_eq_some_iff.mp h
          rw [Traced.measured_map,
            Scheduler.measured_of_step? ht (SchedulerAction.owner?_of_isOfPoller hpoller)]
          exact ⟨rfl, List.forall_mem_nil _⟩
      · cases h
  | cancel =>
      obtain rfl := Option.some.inj h
      exact ⟨rfl, List.forall_mem_nil _⟩

/-- Whatever batches, failures and sweeps follow each other, the store is that of inserting every
value of every successful batch between the sweeps. The meters count successful and failed
collections, and show the size of the store since the first event that wrote to it. A failed
collection changes nothing but its count. Nothing else that the provider does writes to the store or
measures it. -/
theorem store_follows_events (p : Provider π κ) (events : List StoreEvent) :
    (p.feedAll? events).map (·.value.store) =
        (events.mapM (StoreEvent.changes? p.lifetime)).map (fun changes =>
          changes.flatten.foldl Store.apply p.store) ∧
    (∀ last, p.feedAll? events = some last → ∀ meters : Meters,
      (meters.recordAll last.measured).collectionSuccesses =
        meters.collectionSuccesses + events.countP StoreEvent.succeeded ∧
      (meters.recordAll last.measured).collectionErrors =
        meters.collectionErrors + events.countP StoreEvent.failed ∧
      (meters.recordAll last.measured).storedMetrics =
        if events.any StoreEvent.writes then some last.value.store.counts
        else meters.storedMetrics) ∧
    (∀ c clock cause, c.result = .error cause → (p.handle c clock).value = (p, true) ∧
      ∀ meters : Meters, (meters.recordAll (p.handle c clock).measured).storedMetrics =
        meters.storedMetrics) ∧
    ∀ a next, p.step? a = some next →
      (∀ e, p.eventOf? a = some e → next.value.store = (p.occur e).value.store ∧
        next.measured = (p.occur e).measured) ∧
      (p.eventOf? a = none → next.value.store = p.store ∧
        ∀ x ∈ next.measured, x.isOfValues = false) := by
  refine ⟨p.store_feedAll? events, ?_, ?_, fun a next h =>
    ⟨fun e he => store_of_event h he, store_of_no_event h⟩⟩
  · intro last run meters
    obtain ⟨successes, errors, stored⟩ := measures_feedAll? run meters
    refine ⟨successes, errors, stored.trans ?_⟩
    split <;> rfl
  · intro c clock cause h
    obtain ⟨value, measured⟩ : (p.handle c clock).value = (p, true) ∧ _ := handle_of_error h
    refine ⟨value, fun meters => ?_⟩
    rw [measured]
    rfl

/-- A provider that keeps values for a minute. -/
def brief : Provider Nat Nat := create .standard .empty (.ofSeconds 60)

/-- The result of a poll for the length of queues. -/
def lagOf (result : Outcome) : Collection := ⟨⟨"shop", "web"⟩, ⟨.external, "lag", none⟩, result⟩

/-- The length of a queue. -/
def lag (queue : String) (length : Double) : Sample :=
  .external "shop" ⟨"lag", .ofList [("queue", queue)], ⟨0, 0⟩, none, length⟩

/-- A second batch overwrites one value of the first, and an empty one follows. The other value has
expired before the sweep, and the last poll fails. -/
def overwriting : List StoreEvent :=
  [.handle (lagOf (.ok [lag "q1" ⟨1⟩, lag "q2" ⟨2⟩])) fun _ => ⟨0, 0⟩,
    .handle (lagOf (.ok [lag "q1" ⟨3⟩])) fun _ => ⟨30, 0⟩,
    .handle (lagOf (.ok [])) fun _ => ⟨40, 0⟩, .sweep ⟨70, 0⟩,
    .handle (lagOf (.error (.root "unavailable"))) fun _ => ⟨80, 0⟩]

theorem store_follows_events_overwriting :
    (∃ last changes, brief.feedAll? overwriting = some last ∧
      overwriting.mapM (StoreEvent.changes? (.ofSeconds 60)) = some changes ∧
      changes.flatten.length = 4 ∧
      last.value.store = changes.flatten.foldl Store.apply .empty ∧
      last.value.store.counts = (0, 1) ∧
      (Meters.zero.recordAll last.measured).collectionSuccesses = 3 ∧
      (Meters.zero.recordAll last.measured).collectionErrors = 1 ∧
      (Meters.zero.recordAll last.measured).storedMetrics = some (0, 1)) ∧
    (brief.handle (lagOf (.error (.root "unavailable"))) fun _ => ⟨80, 0⟩).value = (brief, true) ∧
    (∃ next, brief.step? (.sweep ⟨70, 0⟩) = some next ∧
      next.measured = (brief.occur (.sweep ⟨70, 0⟩)).measured) ∧
    ∃ next, brief.step? (.openSink ⟨0, 0⟩) = some next ∧ next.value.store = brief.store := by
  obtain ⟨last, run, counts⟩ : ∃ last, brief.feedAll? overwriting = some last ∧
      last.value.store.counts = (0, 1) := ⟨_, rfl, rfl⟩
  obtain ⟨changes, asked, length⟩ : ∃ changes,
      overwriting.mapM (StoreEvent.changes? (.ofSeconds 60)) = some changes ∧
      changes.flatten.length = 4 := ⟨_, rfl, rfl⟩
  obtain ⟨store, measured, failed, writers⟩ := store_follows_events brief overwriting
  have lifetime : brief.lifetime = .ofSeconds 60 := rfl
  rw [run, lifetime, asked] at store
  obtain ⟨successes, errors, stored⟩ := measured last run Meters.zero
  rw [counts] at stored
  have swept := (writers (.sweep ⟨70, 0⟩) _ rfl).1 _ rfl
  have opened := (writers (.openSink ⟨0, 0⟩) _ rfl).2 rfl
  exact ⟨⟨last, changes, run, asked, length, Option.some.inj store, counts, successes, errors,
    stored⟩, (failed _ _ _ rfl).1, ⟨_, rfl, swept.2⟩, ⟨_, rfl, opened.1⟩⟩

end Provider

end ScalingMetrics
