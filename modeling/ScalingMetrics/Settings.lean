import ScalingMetrics.Double.Decimal
import ScalingMetrics.Provider.Config
import ScalingMetrics.Text.Quoted

/-!
# Settings from the environment

A variable counts if its name begins with `ADAPTER_` in any case; the rest of the name is a key, or
the path to a place inside the value of a key, such as `key.part[0]`. An integer may be written as a
word for true or false. Unknown keys are ignored. No setting has parts, so a path to one is a fault.

## Implementation notes

A part may be asked for by its place from the end. Every sequence is empty when the first part is
put into it, so such a place does not exist. Counted from the start it wraps around to the end of
the unsigned 64-bit numbers, and a sequence that long has no room in memory.
-/

namespace ScalingMetrics

/-- The settings of the program. -/
structure Settings where
  apiPort : UInt16
  syncSeconds : UInt64
  collectorSeconds : UInt64
  sweepSeconds : UInt64
  ttlSeconds : UInt64
  resultsBuffer : UInt64
  /-- The namespace to watch; empty for all. -/
  ns : String
  /-- The controller named in events. -/
  reporterName : String
deriving DecidableEq

/-- What variables give to a key. -/
inductive SettingValue where
  | text (s : String)
  /-- A part of the key was given by its name. -/
  | map
  /-- A part of the key was given by its number. -/
  | sequence
deriving DecidableEq

/-- What a key has to be. -/
inductive SettingType where
  | integer
  | text
deriving DecidableEq

/-- Why settings are refused. -/
inductive SettingsError where
  | mistyped (key : String) (found : SettingValue) (expected : SettingType)
  | portTooLarge (value : UInt64)
  /-- A part was asked for by its place from the end. -/
  | unplaced (place : Int)
deriving DecidableEq

/-- The key of the port. -/
def portKey : String := "api_port"

/-- The value in a refusal. -/
def SettingValue.describe : SettingValue → String
  | text s => "string " ++ Text.quoted s
  | map => "map"
  | sequence => "sequence"

/-- Where the value comes from in a refusal; only for a text is it known. -/
def SettingValue.origin : SettingValue → String
  | text _ => " in the environment"
  | _ => ""

/-- The type in a refusal. -/
def SettingType.describe : SettingType → String
  | integer => "an integer"
  | text => "a string"

/-- The refusal as text. -/
def SettingsError.message : SettingsError → String
  | mistyped key found expected =>
    "invalid type: " ++ found.describe ++ ", expected " ++ expected.describe ++
      " for key \x60" ++ key ++ "\x60" ++ found.origin
  | portTooLarge value =>
    "invalid type: 64-bit unsigned integer \x60" ++ toString value.toNat ++
      "\x60, expected an unsigned 16 bit integer for key \x60" ++ portKey ++ "\x60"
  | unplaced place =>
    if place = -1 then
      "index out of bounds: the len is 0 but the index is " ++ toString (Nat.pow 2 64 - 1)
    else "capacity overflow"

namespace Settings

/-- The settings where nothing is said. -/
def standard : Settings := ⟨8080, 30, 60, 60, 900, 1, "", "metrics-adapter"⟩

/-- The variables of an environment. -/
abbrev Environment := List (String × String)

/-- The beginning of the names that count. -/
def nameStart : List Char := "adapter_".toList

/-- Whether a character may stand in a key. -/
def isKeyChar (c : Char) : Bool :=
  'a' ≤ c && c ≤ 'z' || 'A' ≤ c && c ≤ 'Z' || c.isDigit || c == '_' || c == '-' || c == ' '

/-- The number of a part between blanks; behind a minus sign it counts from the end. -/
def partNumber? (cs : List Char) : Option Int :=
  let blank (c : Char) : Bool := c == ' ' || c == '\t'
  let number := ((cs.dropWhile blank).reverse.dropWhile blank).reverse
  let negative := number.head? == some '-'
  (Double.readDigits? (Text.dropLeading '-' number)).bind fun n =>
    if negative then if n ≤ Nat.pow 2 63 then some (-(n : Int)) else none
    else if n < Nat.pow 2 63 then some n else none

/-- Reads a step of a path to a part, which is given by its name or its number. -/
def readStep? : List Char → Option (Option Int × List Char)
  | '.' :: cs =>
    if (cs.takeWhile isKeyChar).isEmpty then none else some (none, cs.dropWhile isKeyChar)
  | '[' :: cs =>
    match Text.cut? ']' cs with
    | some (number, rest) => (partNumber? number).map fun n => (some n, rest)
    | none => none
  | _ => none

/-- The numbers of parts on a path, from the first step on. -/
def stepNumbers? : Nat → List Char → Option (List Int)
  | _, [] => some []
  | 0, _ :: _ => none
  | fuel + 1, cs =>
    match readStep? cs with
    | none => none
    | some (number, rest) => (stepNumbers? fuel rest).map (number.toList ++ ·)

/-- The numbers of parts on the path that a name is, if it is one. -/
def pathNumbers? (name : List Char) : Option (List Int) :=
  let rest := name.dropWhile isKeyChar
  if rest.length = name.length then none else stepNumbers? rest.length rest

/-- The key that a name leads to and what its variable gives to the key. A name that is no path is
a key as a whole. -/
def target (name : List Char) (value : String) : String × SettingValue :=
  if (pathNumbers? name).isNone then (.ofList name, .text value)
  else
    (.ofList (name.takeWhile isKeyChar),
      match name.dropWhile isKeyChar with
      | '.' :: _ => .map
      | '[' :: _ => .sequence
      | _ => .text value)

/-- What the name of a variable says behind the beginning, if the variable counts. -/
def counted? (name : String) : Option (List Char) :=
  let lower := name.toList.map Char.toLower
  if lower.take nameStart.length = nameStart then some (lower.drop nameStart.length) else none

/-- The key of a variable that counts, and what the variable gives to it. -/
def given? (v : String × String) : Option (String × SettingValue) :=
  (counted? v.1).map fun name => target name v.2

/-- Refuses a part that is asked for by its place from the end. -/
def checkPlaces (env : Environment) : Except SettingsError Unit :=
  let numbers := env.flatMap fun v => ((counted? v.1).bind pathNumbers?).getD []
  match numbers.find? (· < 0) with
  | some place => .error (.unplaced place)
  | none => .ok ()

/-- What a key is given; of several variables for it the last one counts. -/
def value? (env : Environment) (key : String) : Option SettingValue :=
  ((env.filterMap given?).reverse.find? fun v => v.1 == key).map (·.2)

/-- An unsigned 64-bit integer in decimal digits, behind an optional plus sign. -/
def readDecimal? (s : String) : Option UInt64 :=
  (Double.readDigits? (Text.dropLeading '+' s.toList)).bind fun n =>
    if n < Nat.pow 2 64 then some (.ofNat n) else none

/-- An integer, or a word for one or zero in any case. -/
def readInteger? (s : String) : Option UInt64 :=
  let lower : String := .ofList (s.toList.map Char.toLower)
  if ["true", "on", "yes"].contains lower then some 1
  else if ["false", "off", "no"].contains lower then some 0
  else readDecimal? s

/-- The integer of a key. -/
def integer (env : Environment) (key : String) (default : UInt64) : Except SettingsError UInt64 :=
  match value? env key with
  | none => .ok default
  | some (.text s) =>
    match readInteger? s with
    | some n => .ok n
    | none => .error (.mistyped key (.text s) .integer)
  | some found => .error (.mistyped key found .integer)

/-- The text of a key. -/
def text (env : Environment) (key : String) (default : String) : Except SettingsError String :=
  match value? env key with
  | none => .ok default
  | some (.text s) => .ok s
  | some found => .error (.mistyped key found .text)

/-- The port. -/
def port (env : Environment) : Except SettingsError UInt16 := do
  let n ← integer env portKey standard.apiPort.toUInt64
  if n.toNat < Nat.pow 2 16 then .ok n.toUInt16 else .error (.portTooLarge n)

/-- Reads the settings. -/
def load (env : Environment) : Except SettingsError Settings := do
  checkPlaces env
  let apiPort ← port env
  let syncSeconds ← integer env "hpa_sync_interval_secs" standard.syncSeconds
  let collectorSeconds ← integer env "collector_interval_secs" standard.collectorSeconds
  let sweepSeconds ← integer env "gc_interval_secs" standard.sweepSeconds
  let ttlSeconds ← integer env "metrics_ttl_secs" standard.ttlSeconds
  let resultsBuffer ← integer env "results_buffer" standard.resultsBuffer
  let ns ← text env "namespace" standard.ns
  let reporterName ← text env "reporter_name" standard.reporterName
  return ⟨apiPort, syncSeconds, collectorSeconds, sweepSeconds, ttlSeconds, resultsBuffer, ns,
    reporterName⟩

/-- The lifetime of stored values. -/
def ttl (s : Settings) : Span := .ofSeconds s.ttlSeconds.toNat

/-- The parameters of the provider. -/
def providerConfig (s : Settings) : ProviderConfig where
  syncInterval := .ofSeconds s.syncSeconds.toNat
  collectorInterval := .ofSeconds s.collectorSeconds.toNat
  sweepInterval := .ofSeconds s.sweepSeconds.toNat
  resultsBuffer := max s.resultsBuffer.toNat 1

/-- The namespace to watch, unless it is all of them. -/
def watchNamespace (s : Settings) : Option String := if s.ns.isEmpty then none else some s.ns

end Settings

end ScalingMetrics
