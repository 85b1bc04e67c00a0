import ScalingMetrics.Scheduler.Step

/-!
# A scheduler on a virtual clock

On a virtual clock time passes only when nothing else can happen. Collectors are known in advance:
how long a poll takes, what it answers and how long the poller sleeps then. At each instant the
pollers act in the order in which they began to wait, each until it has to wait again.

## Implementation notes

An instant ends when no poller can act. Without a reader it ends because the channel fills up. With
one it ends when every poller sleeps: a collector that lets its poller sleep at all does so after at
most as many polls as it has intervals. The fuel covers this.
-/

namespace ScalingMetrics

/-- What a collector does. -/
structure CollectorScript (ρ : Type) where
  /-- The milliseconds that a poll takes. -/
  latency : Nat
  /-- The result of a poll, by the number of polls before. -/
  result : Nat → ρ
  /-- The milliseconds of sleep after each poll, of which the last are repeated. -/
  intervals : List Nat

/-- The milliseconds of sleep after a poll, by the number of polls before. -/
def CollectorScript.interval {ρ : Type} (c : CollectorScript ρ) (polls : Nat) : Nat :=
  (c.intervals[polls]?).getD (c.intervals.getLast?.getD 0)

namespace Scheduler

variable {κ ρ : Type}

/-- What a poller can do at this instant. -/
def nextAction? (script : κ → CollectorScript ρ) (s : Scheduler κ ρ) (i : Nat) (p : Poller κ ρ) :
    Option (SchedulerAction κ ρ) :=
  let c := script p.collector
  match p.phase with
  | .starting => some (.start i)
  | .polling since =>
    if since + c.latency ≤ s.now then some (.finish i (c.result (p.polls - 1))) else none
  | .offering _ =>
    if p.cancelled then some (.stop i)
    else if !s.isOpen || (s.queue.length < s.capacity && s.waiting.head? == some i) then
      some (.look i)
    else none
  | .sending _ =>
    if !s.isOpen then some (.stop i) else some (.accept i (c.interval (p.polls - 1)))
  | .sleeping wakeAt =>
    if p.cancelled then some (.stop i) else if wakeAt ≤ s.now then some (.wake i) else none
  | .ended => none

/-- A poller that can act, with its number and its action. -/
structure Ready (κ ρ : Type) where
  poller : Nat
  turn : Nat
  action : SchedulerAction κ ρ

/-- The pollers that can act. -/
def readyPollers (script : κ → CollectorScript ρ) (s : Scheduler κ ρ) : List (Ready κ ρ) :=
  s.pollers.zipIdx.filterMap fun (p, i) =>
    (s.nextAction? script i p).map fun action => ⟨i, p.turn, action⟩

/-- The one that began to wait first. -/
def earliest? (ready : List (Ready κ ρ)) : Option (Ready κ ρ) :=
  ready.foldl
    (fun best r =>
      match best with
      | none => some r
      | some b => if r.turn < b.turn then some r else some b) none

/-- Who acts next: the poller that acted last as long as it can, then the one that waits longest. -/
def nextReady? (script : κ → CollectorScript ρ) (s : Scheduler κ ρ) (last : Option Nat) :
    Option (Ready κ ρ) :=
  let ready := s.readyPollers script
  (ready.find? fun r => some r.poller == last).or (earliest? ready)

/-- Lets pollers act at this instant, a number of actions at most. -/
def settleFrom (script : κ → CollectorScript ρ) :
    Nat → Option Nat → Scheduler κ ρ → Traced (Scheduler κ ρ)
  | 0, _, s => pure s
  | fuel + 1, last, s =>
    match s.nextReady? script last with
    | none => pure s
    | some r =>
      match s.step? r.action with
      | none => pure s
      | some next => do settleFrom script fuel (some r.poller) (← next)

/-- Lets pollers act until none can at this instant. Every room in the channel is taken by one round
of a poller, and beyond that each poller begins and ends once. -/
def settle (script : κ → CollectorScript ρ) (s : Scheduler κ ρ) : Traced (Scheduler κ ρ) :=
  settleFrom script (8 * (s.pollers.length + (s.capacity - s.queue.length) + 1)) none s

/-- A result with the time at which it was read. -/
structure Reading (ρ : Type) where
  time : Nat
  delivery : Delivery ρ

/-- Reads results at this instant, a number of them at most; pollers that wait may send in between.
-/
def read (script : κ → CollectorScript ρ) :
    Nat → Scheduler κ ρ → Traced (Scheduler κ ρ × List (Reading ρ))
  | 0, s => return (← s.settle script, [])
  | count + 1, s => do
    let s ← s.settle script
    match s.receive? with
    | none => return (s, [])
    | some (d, s) =>
      let (last, rest) ← read script count s
      return (last, ⟨s.now, d⟩ :: rest)

/-- Reads everything in the channel. -/
def takeAll (s : Scheduler κ ρ) : Scheduler κ ρ × List (Reading ρ) :=
  if s.isOpen then ({ s with queue := [] }, s.queue.map fun d => ⟨s.now, d⟩) else (s, [])

/-- Lets pollers act and reads all results, in rounds, until nothing more is sent. -/
def readRounds (script : κ → CollectorScript ρ) :
    Nat → Scheduler κ ρ → Traced (Scheduler κ ρ × List (Reading ρ))
  | 0, s => return (s, [])
  | rounds + 1, s => do
    let s ← s.settle script
    if s.queue.isEmpty then return (s, [])
    let (s, first) := s.takeAll
    let (s, rest) ← readRounds script rounds s
    return (s, first ++ rest)

/-- A bound on the results that pollers send at one instant, as long as each of them sleeps at
all. -/
def sendLimit (script : κ → CollectorScript ρ) (s : Scheduler κ ρ) : Nat :=
  s.pollers.foldl (fun n p => n + (script p.collector).intervals.length + 1) 0

/-- Ends an instant, with or without a reader. -/
def endInstant (script : κ → CollectorScript ρ) (reading : Bool) (s : Scheduler κ ρ) :
    Traced (Scheduler κ ρ × List (Reading ρ)) :=
  if reading && s.isOpen then readRounds script (s.sendLimit script + 2) s
  else return (← s.settle script, [])

/-- When a poller will act on its own. -/
def dueTime? (script : κ → CollectorScript ρ) (p : Poller κ ρ) : Option Nat :=
  match p.phase with
  | .polling since => some (since + (script p.collector).latency)
  | .sleeping wakeAt => some wakeAt
  | _ => none

/-- The next time at which a poller will act on its own. -/
def nextDue? (script : κ → CollectorScript ρ) (s : Scheduler κ ρ) : Option Nat :=
  ((s.pollers.filterMap (dueTime? script)).filter (s.now < ·)).min?

/-- Lets time pass until an instant is over or a condition holds at the end of an earlier one. -/
def advanceFrom (script : κ → CollectorScript ρ) (reading : Bool) (done : Scheduler κ ρ → Bool)
    (target : Nat) : Nat → Scheduler κ ρ → Traced (Scheduler κ ρ × List (Reading ρ))
  | 0, s => s.endInstant script reading
  | fuel + 1, s => do
    let (s, first) ← s.endInstant script reading
    if done s || target ≤ s.now then return (s, first)
    let next := (s.nextDue? script).getD target
    let (s, rest) ← advanceFrom script reading done target fuel (s.elapse (min next target - s.now))
    return (s, first ++ rest)

/-- Lets a number of milliseconds pass, or fewer if a condition holds before, with or without a
reader. -/
def advance (script : κ → CollectorScript ρ) (reading : Bool) (done : Scheduler κ ρ → Bool)
    (duration : Nat) (s : Scheduler κ ρ) : Traced (Scheduler κ ρ × List (Reading ρ)) :=
  advanceFrom script reading done (s.now + duration) (duration + 1) s

/-- Whether a poller has ended. -/
def hasEnded (s : Scheduler κ ρ) (i : Nat) : Bool :=
  match s.pollers[i]? with
  | some p =>
    match p.phase with
    | .ended => true
    | _ => false
  | none => true

/-- Waits for a poller to end, a number of milliseconds at most, and says whether it did. A poller
that would end just when the time is up is not seen to end. -/
def awaitEnd (script : κ → CollectorScript ρ) (i limit : Nat) (s : Scheduler κ ρ) :
    Traced (Scheduler κ ρ × Bool) :=
  if s.hasEnded i then pure (s, true)
  else
    match limit with
    | 0 => pure (s, false)
    | limit + 1 => do
      let (s, _) ← s.advance script false (hasEnded · i) limit
      if s.hasEnded i then return (s, true)
      return (s.elapse 1, false)

end Scheduler

end ScalingMetrics
