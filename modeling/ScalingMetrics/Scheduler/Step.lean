import ScalingMetrics.Scheduler.Basic
import ScalingMetrics.Telemetry.Run

/-!
# The steps of a scheduler

Pollers, readers and the owner of the scheduler act in any order. An action names who acts and what
it learns: the result of a poll, or the interval until the next one. Not every action is possible in
every state, and one that is not has no next state.

## Implementation notes

A poller runs beside the owner of the scheduler, who may cancel it between its look and its sending:
these are two actions. What follows any other look touches nothing that is shared, and is one action
with it. An attempt to send that finds no room changes nothing and is no action; the poller looks
again before the next one. Which of the pollers that wait for room is the next to find some is left
open.
-/

namespace ScalingMetrics

/-- One step of a scheduler. -/
inductive SchedulerAction (κ ρ : Type) where
  | add (resource : AutoscalerRef) (metric : MetricRef) (collector : κ)
  | remove (resource : AutoscalerRef)
  | retain (resource : AutoscalerRef) (keep : List MetricRef)
  | cancelRoot
  /-- The reader goes. -/
  | close
  /-- The reader takes a result. -/
  | receive
  /-- A poller begins. -/
  | start (poller : Nat)
  /-- A poll is answered. -/
  | finish (poller : Nat) (result : ρ)
  /-- A poller with a result finds that it has not been cancelled. -/
  | look (poller : Nat)
  /-- The channel takes the result of a poller, which sleeps for an interval in milliseconds. -/
  | accept (poller interval : Nat)
  /-- A poller ends. -/
  | stop (poller : Nat)
  /-- A poller has slept enough and polls again. -/
  | wake (poller : Nat)
  /-- Time passes, in milliseconds. -/
  | elapse (duration : Nat)
deriving DecidableEq

namespace Scheduler

variable {κ ρ : Type}

/-- Sets the phase of a poller. -/
def enterPhase (s : Scheduler κ ρ) (i : Nat) (p : Poller κ ρ) (phase : Phase ρ) : Scheduler κ ρ :=
  { s with turn := s.turn + 1, pollers := s.pollers.set i { p with phase, turn := s.turn } }

/-- Begins the next poll. -/
def beginPoll (s : Scheduler κ ρ) (i : Nat) (p : Poller κ ρ) : Scheduler κ ρ :=
  s.enterPhase i { p with polls := p.polls + 1 } (.polling s.now)

/-- Ends a poller. -/
def finishPoller (s : Scheduler κ ρ) (i : Nat) (p : Poller κ ρ) : Traced (Scheduler κ ρ) := do
  Traced.lines [slotLine "Poller stopped" p.resource p.metric]
  return { s.enterPhase i p .ended with waiting := s.waiting.filter (· != i) }

/-- A poller begins with a poll, even if it has been cancelled. -/
def start? (s : Scheduler κ ρ) (i : Nat) : Option (Traced (Scheduler κ ρ)) :=
  match s.pollers[i]? with
  | none => none
  | some p =>
    match p.phase with
    | .starting => some do
      Traced.lines [slotLine "Poller started" p.resource p.metric]
      return s.beginPoll i p
    | _ => none

/-- The result of a poll is offered to the channel, unless the poller was cancelled meanwhile. -/
def finish? (s : Scheduler κ ρ) (i : Nat) (result : ρ) : Option (Traced (Scheduler κ ρ)) :=
  match s.pollers[i]? with
  | none => none
  | some p =>
    match p.phase with
    | .polling _ =>
      if p.cancelled then some (s.finishPoller i p)
      else some (pure { s.enterPhase i p (.offering result) with waiting := s.waiting ++ [i] })
    | _ => none

/-- A poller that waits with a result is about to send it, unless it was cancelled meanwhile. -/
def look? (s : Scheduler κ ρ) (i : Nat) : Option (Scheduler κ ρ) :=
  match s.pollers[i]? with
  | none => none
  | some p =>
    match p.phase with
    | .offering result => if p.cancelled then none else some (s.enterPhase i p (.sending result))
    | _ => none

/-- The channel takes the result that a poller sends, if it has room and a reader. The poller does
not look at its cancellation again. -/
def accept? (s : Scheduler κ ρ) (i interval : Nat) : Option (Scheduler κ ρ) :=
  match s.pollers[i]? with
  | none => none
  | some p =>
    match p.phase with
    | .sending result =>
      if s.isOpen && s.queue.length < s.capacity then
        some { s.enterPhase i p (.sleeping (s.now + interval)) with
          queue := s.queue ++ [⟨i, p.polls, p.resource, p.metric, result⟩]
          waiting := s.waiting.filter (· != i) }
      else none
    | _ => none

/-- A cancelled poller ends where it waits or sleeps, and one whose results have no reader where it
sends. -/
def stop? (s : Scheduler κ ρ) (i : Nat) : Option (Traced (Scheduler κ ρ)) :=
  match s.pollers[i]? with
  | none => none
  | some p =>
    match p.phase with
    | .offering _ => if p.cancelled then some (s.finishPoller i p) else none
    | .sending _ =>
      if !s.isOpen then some do
        Traced.lines [slotLine "Results channel closed" p.resource p.metric]
        s.finishPoller i p
      else none
    | .sleeping _ => if p.cancelled then some (s.finishPoller i p) else none
    | _ => none

/-- A poller that has slept enough polls again. -/
def wake? (s : Scheduler κ ρ) (i : Nat) : Option (Scheduler κ ρ) :=
  match s.pollers[i]? with
  | none => none
  | some p =>
    match p.phase with
    | .sleeping wakeAt =>
      if !p.cancelled && wakeAt ≤ s.now then some (s.beginPoll i p) else none
    | _ => none

/-- The oldest result in the channel, and the channel without it. -/
def receive? (s : Scheduler κ ρ) : Option (Delivery ρ × Scheduler κ ρ) :=
  match s.queue with
  | [] => none
  | d :: rest => if s.isOpen then some (d, { s with queue := rest }) else none

/-- Time passes. -/
def elapse (s : Scheduler κ ρ) (duration : Nat) : Scheduler κ ρ :=
  { s with now := s.now + duration }

/-- The state after an action, if the action is possible. -/
def step? (s : Scheduler κ ρ) : SchedulerAction κ ρ → Option (Traced (Scheduler κ ρ))
  | .add resource metric collector => some ((·.1) <$> s.add resource metric collector)
  | .remove resource => some ((·.1) <$> s.remove resource)
  | .retain resource keep => some ((·.1) <$> s.retain resource keep)
  | .cancelRoot => some (pure s.cancelRoot)
  | .close => some (pure s.close)
  | .receive => s.receive?.map fun r => pure r.2
  | .start i => s.start? i
  | .finish i result => s.finish? i result
  | .look i => (s.look? i).map pure
  | .accept i interval => (s.accept? i interval).map pure
  | .stop i => s.stop? i
  | .wake i => (s.wake? i).map pure
  | .elapse duration => some (pure (s.elapse duration))

/-- The state after actions in order, if all of them are possible. -/
def run? (s : Scheduler κ ρ) : List (SchedulerAction κ ρ) → Option (Traced (Scheduler κ ρ)) :=
  Traced.run? step? s

end Scheduler

end ScalingMetrics
