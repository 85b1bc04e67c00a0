import ScalingMetrics.Json.Basic
import ScalingMetrics.Double.Decimal
import ScalingMetrics.Text.Hex

/-!
# Reading JSON text

## Implementation notes

The readers of values, items and members call each other with one unit of fuel less. Twice the
length of the text is enough, since every second call consumes a character.
-/

namespace ScalingMetrics

namespace Json

/-- The blanks between the tokens of a document. -/
def isSpace (c : Char) : Bool := c = ' ' || c = '\n' || c = '\r' || c = '\t'

/-- Drops the blanks before the next token. -/
def skipSpace (cs : List Char) : List Char := cs.dropWhile isSpace

/-- Four hexadecimal digits. -/
def readHex? : List Char → Option (Nat × List Char)
  | a :: b :: c :: d :: rest => do
    let a ← Text.hexDigit? a
    let b ← Text.hexDigit? b
    let c ← Text.hexDigit? c
    let d ← Text.hexDigit? d
    some (((a * 16 + b) * 16 + c) * 16 + d, rest)
  | _ => none

/-- The character of an escape by number; a character beyond the first 65536 takes two of them. -/
def readUnicode? (cs : List Char) : Option (Char × List Char) := do
  let (n, rest) ← readHex? cs
  if 0xD800 ≤ n ∧ n < 0xDC00 then
    match rest with
    | '\\' :: 'u' :: rest => do
      let (m, rest) ← readHex? rest
      if 0xDC00 ≤ m ∧ m < 0xE000 then
        some (.ofNat (0x10000 + (n - 0xD800) * 0x400 + (m - 0xDC00)), rest)
      else none
    | _ => none
  else if 0xDC00 ≤ n ∧ n < 0xE000 then none
  else some (.ofNat n, rest)

/-- The character that a letter behind a backslash stands for. -/
def simpleEscape? (c : Char) : Option Char :=
  if c = '\x22' ∨ c = '\\' ∨ c = '/' then some c
  else if c = 'b' then some '\x08'
  else if c = 'f' then some '\x0c'
  else if c = 'n' then some '\n'
  else if c = 'r' then some '\r'
  else if c = 't' then some '\t'
  else none

/-- The rest of a string behind its opening quotation mark, with its start in reverse. -/
def readStringFrom? : Nat → List Char → List Char → Option (String × List Char)
  | 0, _, _ => none
  | _, _, [] => none
  | fuel + 1, start, c :: cs =>
    if c = '\x22' then some (.ofList start.reverse, cs)
    else if c = '\\' then
      match cs with
      | [] => none
      | e :: rest =>
        if e = 'u' then
          match readUnicode? rest with
          | none => none
          | some (d, rest) => readStringFrom? fuel (d :: start) rest
        else
          match simpleEscape? e with
          | none => none
          | some d => readStringFrom? fuel (d :: start) rest
    else if c.toNat < 32 then none
    else readStringFrom? fuel (c :: start) cs

/-- A string, at its opening quotation mark. -/
def readString? (fuel : Nat) : List Char → Option (String × List Char)
  | [] => none
  | c :: cs => if c = '\x22' then readStringFrom? fuel [] cs else none

/-- The characters that numbers consist of. -/
def isNumberChar (c : Char) : Bool :=
  c.isDigit || c = '-' || c = '+' || c = '.' || c = 'e' || c = 'E'

/-- The digits of an integer part: a single zero, or no zero at the start. -/
def isIntegerPart (cs : List Char) : Bool :=
  !cs.isEmpty && cs.all Char.isDigit && (cs.length == 1 || cs.head? != some '0')

/-- Whether characters are an unsigned number. -/
def isUnsignedNumber (cs : List Char) : Bool :=
  let whole := cs.takeWhile Char.isDigit
  let behind := cs.drop whole.length
  let places :=
    match behind with
    | '.' :: rest => rest.takeWhile Char.isDigit
    | _ => []
  let tail :=
    match behind with
    | '.' :: rest => rest.drop places.length
    | rest => rest
  let pointed := behind.head? != some '.' || !places.isEmpty
  let scaled :=
    match tail with
    | [] => true
    | c :: rest => (c = 'e' || c = 'E') && (Double.readSigned? rest).isSome
  isIntegerPart whole && pointed && scaled

/-- The number of characters that were found to be one. -/
def numberOf (negative : Bool) (cs : List Char) : Option Json :=
  match Double.readDigits? cs with
  | some n =>
    if negative then
      if n = 0 then some (.real (.zero true))
      else if n ≤ Nat.pow 2 63 then some (.int (-(n : Int)))
      else some (.real (.ofInt (-(n : Int))))
    else if n < Nat.pow 2 64 then some (.int n)
    else some (.real (.ofInt n))
  | none => (Double.readUnsigned? negative cs).map .real

/-- A number. -/
def readNumber? (cs : List Char) : Option (Json × List Char) :=
  let token := cs.takeWhile isNumberChar
  let rest := cs.drop token.length
  match token with
  | '-' :: digits =>
    if isUnsignedNumber digits then (numberOf true digits).map (·, rest) else none
  | digits => if isUnsignedNumber digits then (numberOf false digits).map (·, rest) else none

/-- The rest of a text behind a word. -/
def afterWord? (word : String) (cs : List Char) : Option (List Char) :=
  if cs.take word.length = word.toList then some (cs.drop word.length) else none

mutual

/-- A value behind blanks. -/
def readValue? : Nat → List Char → Option (Json × List Char)
  | 0, _ => none
  | fuel + 1, cs =>
    match skipSpace cs with
    | [] => none
    | c :: rest =>
      if c = '\x22' then (readString? fuel (c :: rest)).map fun (s, r) => (.str s, r)
      else if c = '[' then
        match skipSpace rest with
        | ']' :: r => some (.arr [], r)
        | r => (readItems? fuel r).map fun (items, r) => (.arr items, r)
      else if c = '\x7b' then
        match skipSpace rest with
        | '\x7d' :: r => some (.obj [], r)
        | r => (readMembers? fuel r).map fun (members, r) => (.obj members, r)
      else if c = 't' then (afterWord? "true" (c :: rest)).map (.bool true, ·)
      else if c = 'f' then (afterWord? "false" (c :: rest)).map (.bool false, ·)
      else if c = 'n' then (afterWord? "null" (c :: rest)).map (.null, ·)
      else readNumber? (c :: rest)

/-- The items up to the end of an array. -/
def readItems? : Nat → List Char → Option (List Json × List Char)
  | 0, _ => none
  | fuel + 1, cs =>
    match readValue? fuel cs with
    | none => none
    | some (item, rest) =>
      match skipSpace rest with
      | ']' :: r => some ([item], r)
      | ',' :: r => (readItems? fuel r).map fun (items, r) => (item :: items, r)
      | _ => none

/-- The members up to the end of an object. -/
def readMembers? : Nat → List Char → Option (List (String × Json) × List Char)
  | 0, _ => none
  | fuel + 1, cs =>
    match readString? fuel (skipSpace cs) with
    | none => none
    | some (name, rest) =>
      match skipSpace rest with
      | ':' :: r =>
        match readValue? fuel r with
        | none => none
        | some (value, rest) =>
          match skipSpace rest with
          | '\x7d' :: r => some ([(name, value)], r)
          | ',' :: r => (readMembers? fuel r).map fun (members, r) => ((name, value) :: members, r)
          | _ => none
      | _ => none

end

/-- Reads a text that holds one document and nothing else. -/
def parse? (s : String) : Option Json :=
  let cs := s.toList
  match readValue? (2 * cs.length + 2) cs with
  | some (j, rest) => if (skipSpace rest).isEmpty then some j else none
  | none => none

end Json

end ScalingMetrics
