import ScalingMetrics.Double.Decimal
import ScalingMetrics.Telemetry.Basic
import ScalingMetrics.Text.Alphanumeric
import ScalingMetrics.Text.Blank
import ScalingMetrics.Text.Pattern
import ScalingMetrics.Text.Utf8

/-!
# Which log lines are shown

A filter is a list of directives between commas. A directive gives a verbosity for all parts of the
program or for those whose name begins with its target, such as `info,metrics_adapter=debug`. It may
ask for a span with a field, and then holds only inside of it, or for a field alone. Of the
directives that apply to a line the most specific one decides: the one with the longest target, of
these one with a field, of these the one whose field comes last in the alphabet.

## Implementation notes

Blanks around a directive do not count when it is read, but its parts are then cut out of the whole
directive at the places that they have without the blanks. A directive with blanks in front seldom
means what it says.
-/

namespace ScalingMetrics

/-- One directive of a filter. -/
structure LogDirective where
  target : Option (List Char)
  /-- A field that a line must have. -/
  field : Option String
  /-- The directive holds only inside a span or for a value of its field. -/
  inSpan : Bool
  verbosity : Nat
deriving DecidableEq

namespace LogDirective

/-- The characters of a text between two places, which are counted in bytes. -/
def part? (whole : List Char) (start stop : Nat) : Option (List Char) :=
  Text.utf8Decode? (((Text.utf8Encode whole).take stop).drop start)

/-- The number of bytes of a text. -/
def size (cs : List Char) : Nat := (Text.utf8Encode cs).length

/-- Reads a verbosity: a number up to five, or the name of a severity in any case. -/
def readVerbosity? (cs : List Char) : Option Nat :=
  match Double.readDigits? (Text.dropLeading '+' cs) with
  | some n => if n ≤ 5 then some n else none
  | none =>
    let word : String := .ofList (cs.map Char.toLower)
    ["off", "error", "warn", "info", "debug", "trace"].findIdx? (· == word)

/-- Sets the verbosity that is written from a place on; none written is the greatest. -/
def withVerbosity? (d : LogDirective) (whole : List Char) (start : Nat) : Option LogDirective := do
  let word ← part? whole start (size whole)
  if word.isEmpty then return d
  return { d with verbosity := ← readVerbosity? word }

/-- Reads what follows a span: a verbosity behind an equals sign, or nothing. -/
def readEnd? (d : LogDirective) (whole : List Char) (place : Nat) :
    List Char → Option LogDirective
  | [] => some d
  | '=' :: _ => d.withVerbosity? whole (place + 1)
  | _ => none

/-- Whether a text is a value that a field can be compared with: a number or a pattern. -/
def isValue (cs : List Char) : Bool :=
  (Double.parse? (.ofList cs)).isSome || Text.Pattern.isWellFormed cs

/-- Asks for a field, alone or with a value. -/
def withField? (d : LogDirective) (field : List Char) : Option LogDirective :=
  if field.isEmpty then none
  else
    match Text.splitOn '=' field with
    | name :: value :: _ =>
      if isValue value then some { d with field := some (.ofList name), inSpan := true } else none
    | _ => some { d with field := some (.ofList field) }

/-- Reads the field of a span, from a place to the brace that closes it, and what follows. -/
def readField? (d : LogDirective) (whole : List Char) (place : Nat) (cs : List Char) :
    Option LogDirective :=
  match Text.cut? '\x7d' cs with
  | some (field, ']' :: rest) => do
    let stop := place + size field
    let d ← d.withField? (← part? whole place stop)
    d.readEnd? whole (stop + 2) rest
  | _ => none

/-- Reads a span from behind its bracket, which is followed by a place. -/
def readSpan? (d : LogDirective) (whole : List Char) (place : Nat) (cs : List Char) :
    Option LogDirective :=
  let name := cs.takeWhile fun c => c ≠ ']' ∧ c ≠ '\x7b'
  let stop := place + size name
  match cs.drop name.length with
  | ']' :: rest => { d with inSpan := true }.readEnd? whole (stop + 1) rest
  | '\x7b' :: rest => { d with inSpan := !name.isEmpty }.readField? whole (stop + 1) rest
  | _ => none

/-- Whether a target may begin with a character. -/
def isTargetStart (c : Char) : Bool := Text.isAlphanumeric c || ['-', ':', '_'].contains c

/-- Reads a directive. A word that is no verbosity is a target. -/
def parse? (whole : List Char) : Option LogDirective :=
  let everything : LogDirective := ⟨none, none, false, Level.trace.verbosity⟩
  match Text.trim whole with
  | [] => none
  | '[' :: rest => everything.readSpan? whole 1 rest
  | c :: cs =>
    if !isTargetStart c then none
    else
      let word := (c :: cs).takeWhile fun c => c ≠ '=' ∧ c ≠ '['
      let stop := size word
      match (c :: cs).drop word.length with
      | [] =>
        match readVerbosity? whole with
        | some v => some { everything with verbosity := v }
        | none => some { everything with target := some whole }
      | separator :: rest => do
        let targeted := { everything with target := some (← part? whole 0 stop) }
        if separator = '[' then targeted.readSpan? whole (stop + 1) rest
        else targeted.withVerbosity? whole (stop + 1)

/-- Whether a directive applies to a line of a part of the program. -/
def appliesTo (d : LogDirective) (target : String) (line : LogLine) : Bool :=
  !d.inSpan && (d.target.getD []).isPrefixOf target.toList &&
    d.field.all fun f => f == "message" || line.fields.any fun g => g.1 == f

/-- The number of characters that a directive fixes of a target; none for no target. -/
def targetLength (d : LogDirective) : Option Nat := d.target.map List.length

/-- Whether a directive gives way to another that applies to the same line and comes later. -/
def givesWayTo (d e : LogDirective) : Bool :=
  match compare d.targetLength e.targetLength with
  | .lt => true
  | .gt => false
  | .eq => compare d.field e.field != .gt

end LogDirective

/-- The directives that decide what is shown. -/
structure LogFilter where
  directives : List LogDirective
deriving DecidableEq

namespace LogFilter

/-- The filter that shows lines of a verbosity from all parts. -/
def ofVerbosity (verbosity : Nat) : LogFilter := ⟨[⟨none, none, false, verbosity⟩]⟩

/-- Reads a filter. One without directives shows errors. -/
def parse? (s : String) : Option LogFilter :=
  let pieces := (Text.splitOn ',' s.toList).filter (!·.isEmpty)
  (pieces.mapM LogDirective.parse?).map fun directives =>
    if directives.isEmpty then ofVerbosity Level.error.verbosity else ⟨directives⟩

/-- The filter asked for, or the one that shows information if none or a malformed one is. -/
def ofSetting (setting : Option String) : LogFilter :=
  (setting.bind parse?).getD (ofVerbosity Level.info.verbosity)

/-- The directive that decides about a line. -/
def deciding? (f : LogFilter) (target : String) (line : LogLine) : Option LogDirective :=
  (f.directives.filter fun d => d.appliesTo target line).foldl
    (fun best d =>
      match best with
      | none => some d
      | some b => if b.givesWayTo d then some d else some b) none

/-- Whether a line of a part of the program is shown. -/
def shows (f : LogFilter) (target : String) (line : LogLine) : Bool :=
  match f.deciding? target line with
  | none => false
  | some d => line.level.verbosity ≤ d.verbosity

end LogFilter

end ScalingMetrics
