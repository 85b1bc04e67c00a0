import ScalingMetrics.Double.Basic

/-!
# What operations report

An operation reports log lines and measurements beside its result. `Traced` keeps the three
together, and the reports of a sequence of operations are joined in order.
-/

namespace ScalingMetrics

/-- The severity of a log line. -/
inductive Level where
  | error
  | warn
  | info
  | debug
  | trace
deriving DecidableEq

namespace Level

/-- The name of a severity. -/
def name : Level → String
  | error => "ERROR"
  | warn => "WARN"
  | info => "INFO"
  | debug => "DEBUG"
  | trace => "TRACE"

/-- How much is logged at a severity: the more severe, the less. -/
def verbosity : Level → Nat
  | error => 1
  | warn => 2
  | info => 3
  | debug => 4
  | trace => 5

end Level

/-- The value of a field of a log line. -/
inductive LogValue where
  | text (s : String)
  | count (n : Nat)
deriving DecidableEq

/-- The value as text, strings without quotation marks. -/
def LogValue.render : LogValue → String
  | text s => s
  | count n => toString n

/-- One line of the log, with its fields in order. -/
structure LogLine where
  level : Level
  message : String
  fields : List (String × LogValue)
deriving DecidableEq

/-- A line as `LEVEL message field=value …`. -/
def LogLine.render (l : LogLine) : String :=
  l.fields.foldl (fun s f => s ++ " " ++ f.1 ++ "=" ++ f.2.render)
    (l.level.name ++ " " ++ l.message)

/-- One operational measurement. -/
inductive Measurement where
  /-- A poll delivered its values. -/
  | collectionSucceeded
  /-- A poll failed. -/
  | collectionFailed
  /-- A pass was completed. -/
  | passSucceeded
  /-- A pass could not list the autoscalers. -/
  | passFailed
  /-- The number of running pollers. -/
  | activeCollectors (n : Nat)
  /-- The number of stored values of each kind. -/
  | storedMetrics (custom external : Nat)
  /-- The duration of a pass, in seconds. -/
  | passDuration (seconds : Double)
deriving DecidableEq

/-- A value with the log lines and the measurements of its computation. -/
structure Traced (α : Type) where
  value : α
  log : List LogLine
  measured : List Measurement

namespace Traced

variable {α β : Type}

instance : Monad Traced where
  pure a := ⟨a, [], []⟩
  bind x f :=
    let y := f x.value
    ⟨y.value, x.log ++ y.log, x.measured ++ y.measured⟩

/-- Logs lines. -/
def lines (log : List LogLine) : Traced Unit := ⟨(), log, []⟩

/-- Logs one line. -/
def line (level : Level) (message : String) (fields : List (String × LogValue)) : Traced Unit :=
  lines [⟨level, message, fields⟩]

/-- Takes one measurement. -/
def measure (m : Measurement) : Traced Unit := ⟨(), [], [m]⟩

@[simp] theorem value_pure (a : α) : (pure a : Traced α).value = a := rfl

@[simp] theorem log_pure (a : α) : (pure a : Traced α).log = [] := rfl

@[simp] theorem measured_pure (a : α) : (pure a : Traced α).measured = [] := rfl

@[simp] theorem value_bind (x : Traced α) (f : α → Traced β) :
    (x >>= f).value = (f x.value).value := rfl

@[simp] theorem log_bind (x : Traced α) (f : α → Traced β) :
    (x >>= f).log = x.log ++ (f x.value).log := rfl

@[simp] theorem measured_bind (x : Traced α) (f : α → Traced β) :
    (x >>= f).measured = x.measured ++ (f x.value).measured := rfl

@[simp] theorem value_map (f : α → β) (x : Traced α) : (f <$> x).value = f x.value := rfl

@[simp] theorem measured_map (f : α → β) (x : Traced α) : (f <$> x).measured = x.measured :=
  List.append_nil x.measured

@[simp] theorem measured_lines (log : List LogLine) : (lines log : Traced Unit).measured = [] := rfl

@[simp] theorem measured_line (level : Level) (message : String)
    (fields : List (String × LogValue)) :
    (line level message fields : Traced Unit).measured = [] := rfl

@[simp] theorem measured_measure (m : Measurement) :
    (measure m : Traced Unit).measured = [m] := rfl

instance : LawfulMonad Traced :=
  LawfulMonad.mk' Traced (fun x => by cases x; simp [Functor.map])
    (fun _ _ => by simp [bind, pure]) (fun _ _ _ => by simp [bind, List.append_assoc])

end Traced

end ScalingMetrics
