import ScalingMetrics.Metric.Identity
import ScalingMetrics.Metric.Object
import ScalingMetrics.Telemetry.Basic

/-!
# Pollers and their slots

A slot is a metric of an autoscaler. The scheduler runs one poller for each slot in its table. A
poller polls its collector, offers the result to the channel and sleeps for an interval, in turns.
The channel holds a limited number of results; pollers that find it full wait in line. Before a
poller sends, it looks whether it has been cancelled; the look and the sending are two things.

## Implementation notes

Pollers are numbered in the order they are added and never forgotten, so a poller that was replaced
or removed can still be spoken of. The table holds numbers. A cancelled poller is only marked here;
it ends where it next looks at its mark. Pollers that are cancelled together are marked in one step,
since one that notices early does nothing but end, which may as well come later.
-/

namespace ScalingMetrics

/-- Where a poller stands. -/
inductive Phase (ρ : Type) where
  /-- The poller has been added and has not begun. -/
  | starting
  /-- A poll is under way since a point in time. -/
  | polling (since : Nat)
  /-- A result waits for room in the channel. -/
  | offering (result : ρ)
  /-- A result is on its way to the channel: the poller has looked and is not cancelled. -/
  | sending (result : ρ)
  /-- The poller sleeps until a point in time. -/
  | sleeping (wakeAt : Nat)
  | ended
deriving DecidableEq

/-- The poller of a slot. -/
structure Poller (κ ρ : Type) where
  resource : AutoscalerRef
  metric : MetricRef
  collector : κ
  cancelled : Bool
  /-- The number of polls begun. -/
  polls : Nat
  phase : Phase ρ
  /-- The turn of the scheduler at which the phase began. -/
  turn : Nat
deriving DecidableEq

/-- The result of one poll on its way to the reader. -/
structure Delivery (ρ : Type) where
  /-- The number of the poller. -/
  poller : Nat
  /-- The number of the poll, from one. -/
  ordinal : Nat
  resource : AutoscalerRef
  metric : MetricRef
  result : ρ
deriving DecidableEq

/-- The pollers, the table of slots and the channel of results. -/
structure Scheduler (κ ρ : Type) where
  /-- Milliseconds since the start. -/
  now : Nat
  /-- The number of steps taken. -/
  turn : Nat
  /-- The greatest number of results in the channel. -/
  capacity : Nat
  /-- All pollers end, those still to be added included. -/
  rootCancelled : Bool
  /-- The results have a reader. -/
  isOpen : Bool
  pollers : List (Poller κ ρ)
  table : SortedMap AutoscalerRef (SortedMap MetricRef Nat)
  /-- The results in the channel, oldest first. -/
  queue : List (Delivery ρ)
  /-- The pollers that wait for room, in the order of their coming. -/
  waiting : List Nat
deriving DecidableEq

namespace Scheduler

variable {κ ρ : Type}

/-- A scheduler without pollers, with room for one result at least. -/
def create (resultsBuffer : Nat) : Scheduler κ ρ :=
  ⟨0, 0, max resultsBuffer 1, false, true, [], ∅, [], []⟩

/-- The greatest number of results that a channel can have room for. -/
def channelLimit : Nat := Nat.pow 2 61 - 1

/-- A scheduler without pollers, if its channel is not too large. -/
def create? (resultsBuffer : Nat) : Option (Scheduler κ ρ) :=
  if channelLimit < max resultsBuffer 1 then none else some (create resultsBuffer)

/-- The pollers of an autoscaler by metric. -/
def slots (s : Scheduler κ ρ) (resource : AutoscalerRef) : SortedMap MetricRef Nat :=
  (s.table.get? resource).getD ∅

/-- The number of slots. -/
def size (s : Scheduler κ ρ) : Nat := s.table.values.foldr (fun row n => row.size + n) 0

/-- Whether a slot has a poller. -/
def contains (s : Scheduler κ ρ) (resource : AutoscalerRef) (metric : MetricRef) : Bool :=
  (s.slots resource).contains metric

/-- The autoscalers with a poller, each once. -/
def resources (s : Scheduler κ ρ) : List AutoscalerRef := s.table.keys

/-- Whether no slot has a poller. -/
def isEmpty (s : Scheduler κ ρ) : Bool := s.size == 0

/-- The fields of a log line about a slot. -/
def slotFields (resource : AutoscalerRef) (metric : MetricRef) : List (String × LogValue) :=
  [("resource", .text resource.render), ("metric", .text metric.render)]

/-- A log line about a slot. -/
def slotLine (message : String) (resource : AutoscalerRef) (metric : MetricRef) : LogLine :=
  ⟨.debug, message, slotFields resource metric⟩

/-- Marks pollers as cancelled. -/
def cancel (s : Scheduler κ ρ) (numbers : List Nat) : Scheduler κ ρ :=
  { s with
    pollers := s.pollers.mapIdx fun i p =>
      if numbers.contains i then { p with cancelled := true } else p }

/-- Enters a poller for a slot. -/
def enter (s : Scheduler κ ρ) (resource : AutoscalerRef) (metric : MetricRef) (collector : κ) :
    Scheduler κ ρ :=
  { s with
    turn := s.turn + 1
    pollers := s.pollers ++ [⟨resource, metric, collector, s.rootCancelled, 0, .starting, s.turn⟩]
    table := s.table.insert resource ((s.slots resource).insert metric s.pollers.length) }

/-- Puts a poller into a slot in place of any other, which is cancelled and whose number is given.
-/
def add (s : Scheduler κ ρ) (resource : AutoscalerRef) (metric : MetricRef) (collector : κ) :
    Traced (Scheduler κ ρ × Option Nat) := do
  let previous := (s.slots resource).get? metric
  if previous.isSome then
    Traced.lines [slotLine "Replacing running poller" resource metric]
  let next := (s.cancel previous.toList).enter resource metric collector
  Traced.measure (.activeCollectors next.size)
  return (next, previous)

/-- Cancels the pollers of an autoscaler and counts them. -/
def remove (s : Scheduler κ ρ) (resource : AutoscalerRef) : Traced (Scheduler κ ρ × Nat) :=
  match s.table.get? resource with
  | none => pure (s, 0)
  | some row => do
    let next := { s.cancel row.values with table := s.table.erase resource }
    Traced.lines (row.keys.map (slotLine "Cancelling poller" resource))
    Traced.line .info "Removed metric collectors"
      [("event", .text "collectors_removed"), ("resource", .text resource.render),
        ("count", .count row.size)]
    Traced.measure (.activeCollectors next.size)
    return (next, row.size)

/-- The table with the pollers of an autoscaler replaced; a row without pollers is dropped. -/
def setRow (s : Scheduler κ ρ) (resource : AutoscalerRef) (row : SortedMap MetricRef Nat) :
    SortedMap AutoscalerRef (SortedMap MetricRef Nat) :=
  if row.isEmpty then s.table.erase resource else s.table.insert resource row

/-- Cancels the pollers of an autoscaler for metrics that are not kept, and counts them. -/
def retain (s : Scheduler κ ρ) (resource : AutoscalerRef) (keep : List MetricRef) :
    Traced (Scheduler κ ρ × Nat) :=
  match s.table.get? resource with
  | none => pure (s, 0)
  | some row => do
    let stale := row.filter fun metric _ => !keep.contains metric
    let kept := row.filter fun metric _ => keep.contains metric
    let next := { s.cancel stale.values with table := s.setRow resource kept }
    Traced.lines (stale.keys.map (slotLine "Cancelling stale poller" resource))
    if !stale.isEmpty then Traced.measure (.activeCollectors next.size)
    return (next, stale.size)

/-- Cancels all pollers and those to come. -/
def cancelRoot (s : Scheduler κ ρ) : Scheduler κ ρ :=
  { s with
    rootCancelled := true
    pollers := s.pollers.map fun p => { p with cancelled := true } }

/-- The reader goes, and the results in the channel are lost. -/
def close (s : Scheduler κ ρ) : Scheduler κ ρ := { s with isOpen := false, queue := [] }

end Scheduler

end ScalingMetrics
