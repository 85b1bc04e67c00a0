import ScalingMetrics.Provider.Loop
import ScalingMetrics.Scheduler.VirtualClock

/-!
# A provider on a virtual clock

On a virtual clock the loops of a provider act at known times: passes and sweeps at once and then at
the ends of their intervals, and values are taken in as soon as they are sent. The points in time at
which values are stored are read from another clock, which goes on with every reading and does not
follow the virtual one.

## Implementation notes

At one instant a pass comes first, then the sweep, then the pollers and the loop that takes values.
-/

namespace ScalingMetrics

/-- The n-th reading of the clock that expiries are told by: a nanosecond after the reading before.
-/
def wallClock (n : Nat) : Timestamp := ⟨1767225600 + n / nanosPerSecond, n % nanosPerSecond⟩

/-- When the loops act next, in milliseconds. -/
structure DueTimes where
  pass : Nat
  sweep : Nat
deriving DecidableEq

/-- A provider with its loops. -/
structure LiveProvider (π κ : Type) where
  provider : Provider π κ
  /-- How often the loops were started. Only the first start has an effect. -/
  starts : Nat
  /-- When the loops act next, as long as they run. -/
  due : Option DueTimes
  /-- The number of readings of the clock so far. -/
  readings : Nat

/-- What a provider on a virtual clock is told from outside. -/
structure ProviderScript (π κ : Type) where
  input : PassInput π κ
  collectors : κ → CollectorScript Outcome

namespace LiveProvider

variable {π κ : Type}

/-- A provider whose loops have not been started. -/
def create (provider : Provider π κ) : LiveProvider π κ := ⟨provider, 0, none, 0⟩

/-- The current time in milliseconds. -/
def now (l : LiveProvider π κ) : Nat := l.provider.scheduler.now

/-- Whether the loops run. -/
def isRunning (l : LiveProvider π κ) : Bool := l.due.isSome

/-- For each start whether it has come to its end. -/
def finishedStarts (l : LiveProvider π κ) : List Bool :=
  (List.range l.starts).map fun n => 0 < n || !l.isRunning

/-- The readings of the clock to come. -/
def clock (l : LiveProvider π κ) (n : Nat) : Timestamp := wallClock (l.readings + n)

/-- Reads the clock a number of times. -/
def tick (l : LiveProvider π κ) (n : Nat) : LiveProvider π κ :=
  { l with readings := l.readings + n }

/-- Changes the scheduler. -/
def withScheduler (l : LiveProvider π κ) (s : Scheduler κ Outcome) : LiveProvider π κ :=
  { l with provider := { l.provider with scheduler := s } }

/-- Keeps a value; none if its expiry overflows. -/
def keep? (l : LiveProvider π κ) (sample : Sample) : Option (LiveProvider π κ) :=
  (l.provider.store.keep? l.provider.lifetime (l.clock 0) sample).map fun store =>
    { l with provider := { l.provider with store } }.tick 1

/-- Takes a collected result in, and says whether all its values were kept. -/
def handle (l : LiveProvider π κ) (c : Collection) : Traced (LiveProvider π κ × Bool) := do
  let (provider, complete) ← l.provider.handle c l.clock
  return ({ l with provider }.tick c.result.samples.length, complete)

/-- Drops expired values and counts them. -/
def removeExpired (l : LiveProvider π κ) : Traced (LiveProvider π κ × Nat) := do
  let (store, removed) ← l.provider.store.removeExpired (l.clock 0)
  return ({ l with provider := { l.provider with store } }.tick 1, removed)

/-! ### Loops -/

/-- A pass if one is due, with its report. -/
def passIfDue (script : ProviderScript π κ) (l : LiveProvider π κ) :
    Traced (LiveProvider π κ × List (PassReport π)) :=
  match l.due with
  | none => pure (l, [])
  | some due =>
    if due.pass ≤ l.now then do
      let (provider, report) ← l.provider.pass script.input (l.clock 0) (.zero false)
      let next := due.pass + provider.config.syncInterval.timerMillis
      return ({ l with provider, due := some { due with pass := next } }.tick 1, report.toList)
    else pure (l, [])

/-- A sweep if one is due. -/
def sweepIfDue (l : LiveProvider π κ) : Traced (LiveProvider π κ) :=
  match l.due with
  | none => pure l
  | some due =>
    if due.sweep ≤ l.now then do
      let provider ← l.provider.sweep (l.clock 0)
      let next := due.sweep + provider.config.sweepInterval.timerMillis
      return { l with provider, due := some { due with sweep := next } }.tick 1
    else pure l

/-- Lets pollers act until none can. -/
def settlePollers (script : ProviderScript π κ) (l : LiveProvider π κ) :
    Traced (LiveProvider π κ) :=
  return l.withScheduler (← l.provider.scheduler.settle script.collectors)

/-- Takes results in, a number of them at most, until nothing more is sent. -/
def consumeAll (script : ProviderScript π κ) : Nat → LiveProvider π κ → Traced (LiveProvider π κ)
  | 0, l => l.settlePollers script
  | count + 1, l => do
    let l ← l.settlePollers script
    match l.provider.scheduler.queue.head? with
    | none => return l
    | some d =>
      match l.provider.consume? l.clock with
      | none => return l
      | some next =>
        let values := Outcome.samples d.result
        consumeAll script count ({ l with provider := ← next }.tick values.length)

/-- Lets pollers act at this instant, and takes their results in if the loops run. -/
def flush (script : ProviderScript π κ) (l : LiveProvider π κ) : Traced (LiveProvider π κ) :=
  if l.isRunning then
    let s := l.provider.scheduler
    l.consumeAll script (s.queue.length + s.sendLimit script.collectors + 2)
  else l.settlePollers script

/-- Ends an instant. -/
def endInstant (script : ProviderScript π κ) (l : LiveProvider π κ) :
    Traced (LiveProvider π κ × List (PassReport π)) := do
  let (l, reports) ← l.passIfDue script
  let l ← l.sweepIfDue
  return (← l.flush script, reports)

/-- The next time at which something will happen. -/
def nextDue? (script : ProviderScript π κ) (l : LiveProvider π κ) : Option Nat :=
  let loops := l.due.toList.flatMap fun due => [due.pass, due.sweep]
  (loops ++ (l.provider.scheduler.nextDue? script.collectors).toList).min?

/-- Lets time pass until a point in time is over. -/
def advanceFrom (script : ProviderScript π κ) (target : Nat) :
    Nat → LiveProvider π κ → Traced (LiveProvider π κ × List (PassReport π))
  | 0, l => l.endInstant script
  | fuel + 1, l => do
    let (l, first) ← l.endInstant script
    if target ≤ l.now then return (l, first)
    let next := min ((l.nextDue? script).getD target) target
    let later := l.withScheduler (l.provider.scheduler.elapse (next - l.now))
    let (l, rest) ← advanceFrom script target fuel later
    return (l, first ++ rest)

/-- Lets a number of milliseconds pass. -/
def advance (script : ProviderScript π κ) (duration : Nat) (l : LiveProvider π κ) :
    Traced (LiveProvider π κ × List (PassReport π)) :=
  advanceFrom script (l.now + duration) (duration + 1) l

/-! ### Starting and stopping -/

/-- The loops end. -/
def stopLoops (l : LiveProvider π κ) : Traced (LiveProvider π κ) := do
  Traced.line .info "Shutting down autoscaler provider" []
  if l.provider.scheduler.isOpen then Traced.line .debug "Results consumer stopped" []
  Traced.line .debug "Store sweep stopped" []
  return { l with due := none }.withScheduler l.provider.scheduler.close

/-- Starts the loops, unless they were started before. -/
def start (l : LiveProvider π κ) : Traced (LiveProvider π κ) :=
  if 0 < l.starts then do
    Traced.line .warn "Provider is already running" []
    return { l with starts := l.starts + 1 }
  else do
    let config := l.provider.config
    Traced.line .info "Starting autoscaler provider"
      [("sync_interval_secs", .count config.syncInterval.seconds),
        ("gc_interval_secs", .count config.sweepInterval.seconds)]
    let l := { l with
      provider := l.provider.openSink (l.clock 0)
      starts := 1
      due := some ⟨l.now, l.now⟩ }.tick 1
    if l.provider.scheduler.rootCancelled then l.stopLoops else return l

/-- Cancels the pollers and the loops. -/
def cancel (l : LiveProvider π κ) : Traced (LiveProvider π κ) :=
  let l := l.withScheduler l.provider.scheduler.cancelRoot
  if l.isRunning then l.stopLoops else pure l

end LiveProvider

end ScalingMetrics
