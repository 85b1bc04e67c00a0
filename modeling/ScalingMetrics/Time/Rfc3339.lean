import ScalingMetrics.Time.Span
import ScalingMetrics.Time.Timestamp
import ScalingMetrics.Text.Blank

/-!
# Points in time as text

A point in time is written as `2024-01-02T03:04:05.678Z`, with a fraction of three, six or nine
digits if it has one and a sign if its year does not have four digits. Reading is lenient: blanks
may stand between the parts, and any offset from universal time is taken into account.
-/

namespace ScalingMetrics

namespace Timestamp

open Text

/-- How universal time is marked at the end. -/
inductive ZoneMark where
  | letter
  | offset
deriving DecidableEq

/-- The text of a mark. -/
def ZoneMark.text : ZoneMark → String
  | letter => "Z"
  | offset => "+00:00"

/-- A number with leading zeros up to a width. -/
def padded (width n : Nat) : String :=
  let digits := Nat.toDigits 10 n
  .ofList (List.replicate (width - digits.length) '0' ++ digits)

/-- A year: four digits, and a sign if these are not enough. -/
def yearText (year : Int) : String :=
  if 0 ≤ year ∧ year ≤ 9999 then padded 4 year.toNat
  else (if year < 0 then "-" else "+") ++ padded 4 year.natAbs

/-- The fraction of a second in the fewest groups of three digits. -/
def fractionText (nanos : Nat) : String :=
  if nanos = 0 then ""
  else if nanos % 1000000 = 0 then "." ++ padded 3 (nanos / 1000000)
  else if nanos % 1000 = 0 then "." ++ padded 6 (nanos / 1000)
  else "." ++ padded 9 nanos

/-- A point in time as text. A leap second is the sixtieth of its minute. -/
def render (mark : ZoneMark) (t : Timestamp) : String :=
  let days := t.seconds / 86400
  let time := (t.seconds - days * 86400).toNat
  let date := Date.ofDays days
  let second := time % 60 + t.nanos / nanosPerSecond
  yearText date.year ++ "-" ++ padded 2 date.month ++ "-" ++ padded 2 date.day ++ "T" ++
    padded 2 (time / 3600) ++ ":" ++ padded 2 (time / 60 % 60) ++ ":" ++ padded 2 second ++
    fractionText (t.nanos % nanosPerSecond) ++ mark.text

/-! ### Reading -/

/-- The digits at the start, at most `limit` of them. -/
def leadingDigits (limit : Nat) (cs : List Char) : List Char :=
  (cs.take limit).takeWhile Char.isDigit

/-- A number of at least one and at most `limit` digits. -/
def readNumber? (limit : Nat) (cs : List Char) : Option (Nat × List Char) :=
  let digits := leadingDigits limit cs
  if digits.isEmpty then none
  else some (digits.foldl (fun n c => 10 * n + (c.toNat - 48)) 0, cs.drop digits.length)

/-- A year: four digits at most, any number of them behind a sign. -/
def readYear? (cs : List Char) : Option (Int × List Char) :=
  match trimStart cs with
  | '-' :: rest => (readNumber? rest.length rest).map fun (n, r) => (-(n : Int), r)
  | '+' :: rest => (readNumber? rest.length rest).map fun (n, r) => ((n : Int), r)
  | rest => (readNumber? 4 rest).map fun (n, r) => ((n : Int), r)

/-- A number of two digits at most, behind blanks. -/
def readField? (cs : List Char) : Option (Nat × List Char) := readNumber? 2 (trimStart cs)

/-- A given character, behind blanks. -/
def readMark? (c : Char) (cs : List Char) : Option (List Char) :=
  match trimStart cs with
  | [] => none
  | d :: rest => if d = c then some rest else none

/-- A fraction of a second, if there is one. Digits beyond the ninth are dropped. -/
def readFraction? (cs : List Char) : Option (Nat × List Char) :=
  match cs with
  | '.' :: rest =>
    (readNumber? 9 rest).map fun (n, r) =>
      (n * Nat.pow 10 (9 - (leadingDigits 9 rest).length), r.dropWhile Char.isDigit)
  | _ => some (0, cs)

/-- Two digits. -/
def readPair? : List Char → Option (Nat × List Char)
  | a :: b :: rest =>
    if a.isDigit && b.isDigit then some ((a.toNat - 48) * 10 + (b.toNat - 48), rest) else none
  | _ => none

/-- An offset from universal time in seconds: hours and minutes behind a sign. -/
def readOffset? (cs : List Char) : Option (Int × List Char) :=
  match cs with
  | [] => none
  | sign :: rest =>
    if sign = 'Z' ∨ sign = 'z' then some (0, rest)
    else if sign = '+' ∨ sign = '-' ∨ sign = '\u2212' then do
      let (hours, rest) ← readPair? rest
      let (minutes, rest) ← readPair? (rest.dropWhile fun c => c = ':' || isBlank c)
      if 60 ≤ minutes then none
      let seconds : Int := (hours * 3600 + minutes * 60 : Nat)
      some (if sign = '+' then seconds else -seconds, rest)
    else none

/-- An offset, or the letters `UTC` in any case, behind blanks. -/
def readZone? (cs : List Char) : Option (Int × List Char) :=
  let cs := trimStart cs
  if (cs.take 3).map Char.toLower = "utc".toList then some (0, cs.drop 3) else readOffset? cs

/-- The point in time of a local date and time, if these exist. -/
def ofParts? (date : Date) (hour minute second nanos : Nat) (offset : Int) : Option Timestamp :=
  let leap := if second = 60 then 1 else 0
  let seconds := date.toDays * 86400 + (hour * 3600 + minute * 60 + (second - leap) : Nat) - offset
  if date.isValid && firstYear ≤ date.year && date.year ≤ lastYear && hour < 24 && minute < 60 &&
      second ≤ 60 && offset.natAbs < 86400 && firstSecond ≤ seconds && seconds ≤ lastSecond then
    some ⟨seconds, nanos + leap * nanosPerSecond⟩
  else none

/-- Reads a point in time. -/
def parse? (s : String) : Option Timestamp := do
  let (year, cs) ← readYear? s.toList
  let cs ← readMark? '-' cs
  let (month, cs) ← readField? cs
  let cs ← readMark? '-' cs
  let (day, cs) ← readField? cs
  let cs ←
    match cs with
    | 't' :: rest => some rest
    | 'T' :: rest => some rest
    | ' ' :: rest => some rest
    | _ => none
  let (hour, cs) ← readField? cs
  let cs ← readMark? ':' cs
  let (minute, cs) ← readField? cs
  let cs ← readMark? ':' cs
  let (second, cs) ← readField? cs
  let (nanos, cs) ← readFraction? cs
  let (offset, cs) ← readZone? cs
  if (trimStart cs).isEmpty then ofParts? ⟨year, month, day⟩ hour minute second nanos offset
  else none

end Timestamp

end ScalingMetrics
