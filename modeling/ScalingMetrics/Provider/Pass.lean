import ScalingMetrics.Autoscaler.Declared
import ScalingMetrics.Collector.Request
import ScalingMetrics.Provider.Basic
import ScalingMetrics.Provider.Warning

/-!
# Reconciliation passes

A pass lists the autoscalers and makes the pollers follow their declarations:

* an autoscaler that asks for the same as its remembered copy is left alone;
* any other is scheduled: each declaration gets a new poller, and metrics that are no longer
  declared lose theirs. It is remembered if nothing failed, and tried again in the next pass
  otherwise;
* autoscalers that are not listed lose all their pollers.

A pass whose listing fails changes nothing.
-/

namespace ScalingMetrics

/-- What a pass is told from outside. -/
structure PassInput (π κ : Type) where
  /-- The answer of the lister. -/
  listing : Except Cause (List Autoscaler)
  /-- The metrics that an autoscaler declares, or why they are refused. -/
  declarations : Autoscaler → Except Cause (List Declaration)
  /-- The answer of a plugin to a request, by the number of requests before it in the pass. -/
  build : Nat → CollectorRequest π → Except Cause κ

/-- The metrics that the specification of an autoscaler declares. -/
def Autoscaler.specDeclarations (a : Autoscaler) : Except Cause (List Declaration) :=
  a.declarations.mapError SpecError.cause

/-- What a pass did, in numbers. -/
structure PassSummary where
  /-- Autoscalers in the listing. -/
  listed : Nat
  /-- New or changed autoscalers. -/
  updated : Nat
  /-- Pollers started. -/
  scheduled : Nat
  /-- Declarations without a collector. -/
  failed : Nat
  /-- Autoscalers that lost all their pollers. -/
  removed : Nat
deriving DecidableEq

/-- The numbers by name. -/
def PassSummary.fields (n : PassSummary) : List (String × LogValue) :=
  [("listed", .count n.listed), ("updated", .count n.updated), ("scheduled", .count n.scheduled),
    ("failed", .count n.failed), ("removed", .count n.removed)]

/-- What a pass did. -/
structure PassReport (π : Type) where
  summary : PassSummary
  /-- The requests to plugins, in order. -/
  requests : List (CollectorRequest π)
  /-- The warnings raised, in order. -/
  warnings : List Warning
deriving DecidableEq

/-- How far a pass has come. -/
structure PassState (π κ : Type) where
  scheduler : Scheduler κ Outcome
  /-- The autoscalers to be remembered. -/
  cache : SortedMap AutoscalerRef Autoscaler
  report : PassReport π

namespace PassState

variable {π κ : Type}

/-- The start of a pass over a number of autoscalers. -/
def start (scheduler : Scheduler κ Outcome) (listed : Nat) : PassState π κ :=
  ⟨scheduler, ∅, ⟨⟨listed, 0, 0, 0, 0⟩, [], []⟩⟩

/-- Enters a request to a plugin, if one was made. -/
def request (s : PassState π κ) (request : Option (CollectorRequest π)) : PassState π κ :=
  { s with report := { s.report with requests := s.report.requests ++ request.toList } }

/-- Raises a warning. -/
def warn (s : PassState π κ) (w : Warning) : PassState π κ :=
  { s with report := { s.report with warnings := s.report.warnings ++ [w] } }

/-- Changes the numbers. -/
def count (s : PassState π κ) (f : PassSummary → PassSummary) : PassState π κ :=
  { s with report := { s.report with summary := f s.report.summary } }

/-- Remembers an autoscaler. -/
def remember (s : PassState π κ) (a : Autoscaler) : PassState π κ :=
  { s with cache := s.cache.insert a.ref a }

end PassState

namespace Provider

variable {π κ : Type}

/-- Starts a poller for a declaration, and says whether there is a collector for it. -/
def startPoller (p : Provider π κ) (input : PassInput π κ) (a : Autoscaler) (d : Declaration)
    (s : PassState π κ) : Traced (PassState π κ × Bool) :=
  let built :=
    p.registry.collector (input.build s.report.requests.length) a d (p.interval d)
  let s := s.request built.request
  match built.result with
  | .ok collector => do
    Traced.line .info "Adding metric collector"
      [("event", .text "collector_added"), ("resource", .text a.ref.render),
        ("metric", .text d.metric.render), ("interval_secs", .count (p.interval d).seconds)]
    let (scheduler, _) ← s.scheduler.add a.ref d.metric collector
    return ({ s with scheduler }.count fun n => { n with scheduled := n.scheduled + 1 }, true)
  | .error e => do
    Traced.line .warn "Failed to create metric collector"
      [("resource", .text a.ref.render), ("metric", .text d.metric.render),
        ("error", .text e.message)]
    let note := "Failed to create new metrics collector: " ++ e.message
    return ((s.warn ⟨a, .createCollector, note⟩).count fun n => { n with failed := n.failed + 1 },
      false)

/-- Starts pollers for declarations in order, and says whether there are collectors for all. -/
def startPollers (p : Provider π κ) (input : PassInput π κ) (a : Autoscaler) :
    List Declaration → PassState π κ → Traced (PassState π κ × Bool)
  | [], s => pure (s, true)
  | d :: rest, s => do
    let (s, started) ← p.startPoller input a d s
    let (s, others) ← p.startPollers input a rest s
    return (s, started && others)

/-- Schedules an autoscaler, and says whether nothing failed. If its metrics are refused, its
pollers stay. -/
def schedule (p : Provider π κ) (input : PassInput π κ) (a : Autoscaler) (s : PassState π κ) :
    Traced (PassState π κ × Bool) :=
  match input.declarations a with
  | .error e => do
    let note := "Failed to parse metrics: " ++ e.render
    Traced.line .warn "Failed to parse autoscaler metrics"
      [("resource", .text a.ref.render), ("error", .text note)]
    return (s.warn ⟨a, .parseMetrics, note⟩, false)
  | .ok declarations => do
    let (s, complete) ← p.startPollers input a declarations s
    let (scheduler, _) ← s.scheduler.retain a.ref (declarations.map (·.metric))
    return ({ s with scheduler }, complete)

/-- Whether an autoscaler asks for the same as its remembered copy. -/
def isUnchanged (p : Provider π κ) (a : Autoscaler) : Bool :=
  match p.cache.get? a.ref with
  | none => false
  | some remembered => remembered.agrees a

/-- Visits a listed autoscaler. -/
def visit (p : Provider π κ) (input : PassInput π κ) (a : Autoscaler) (s : PassState π κ) :
    Traced (PassState π κ) :=
  if p.isUnchanged a then pure (s.remember a)
  else do
    let (s, complete) ←
      p.schedule input a (s.count fun n => { n with updated := n.updated + 1 })
    return if complete then s.remember a else s

/-- Visits listed autoscalers in order. -/
def visitAll (p : Provider π κ) (input : PassInput π κ) :
    List Autoscaler → PassState π κ → Traced (PassState π κ)
  | [], s => pure s
  | a :: rest, s => do
    let s ← p.visit input a s
    p.visitAll input rest s

/-- Removes the pollers of autoscalers. -/
def removeAll : List AutoscalerRef → PassState π κ → Traced (PassState π κ)
  | [], s => pure s
  | r :: rest, s => do
    let (scheduler, _) ← s.scheduler.remove r
    removeAll rest ({ s with scheduler }.count fun n => { n with removed := n.removed + 1 })

/-- The autoscalers with pollers that are not listed. -/
def unlisted (scheduler : Scheduler κ Outcome) (listing : List Autoscaler) : List AutoscalerRef :=
  scheduler.resources.filter fun r => !(listing.map Autoscaler.ref).contains r

/-- One pass. -/
def reconcile (p : Provider π κ) (input : PassInput π κ) :
    Traced (Provider π κ × Except Cause (PassReport π)) :=
  match input.listing with
  | .error e => pure (p, .error (e.inContext "failed to list autoscalers"))
  | .ok listing => do
    let s ← p.visitAll input listing (.start p.scheduler listing.length)
    let s ← removeAll (unlisted s.scheduler listing) s
    return ({ p with scheduler := s.scheduler, cache := s.cache }, .ok s.report)

end Provider

end ScalingMetrics
