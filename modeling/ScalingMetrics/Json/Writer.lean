import ScalingMetrics.Json.Basic
import ScalingMetrics.Double.Decimal

/-!
# JSON text

A document is written without blanks. Strings escape quotation marks, backslashes and control
characters; numbers that are not finite are written as `null`.
-/

namespace ScalingMetrics

namespace Json

/-- The four hexadecimal digits of a control character. -/
def hexEscape (n : Nat) : List Char :=
  let digits := Nat.toDigits 16 n
  '\\' :: 'u' :: List.replicate (4 - digits.length) '0' ++ digits

/-- A character inside a string. -/
def escape (c : Char) : List Char :=
  if c = '\x22' then ['\\', '\x22']
  else if c = '\\' then ['\\', '\\']
  else if c = '\n' then ['\\', 'n']
  else if c = '\r' then ['\\', 'r']
  else if c = '\t' then ['\\', 't']
  else if c.toNat = 8 then ['\\', 'b']
  else if c.toNat = 12 then ['\\', 'f']
  else if c.toNat < 32 then hexEscape c.toNat
  else [c]

/-- A string between quotation marks. -/
def quote (s : String) : String :=
  "\x22" ++ .ofList (s.toList.flatMap escape) ++ "\x22"

/-- A number that is no integer. -/
def renderDouble (x : Double) : String :=
  if x.isFinite then x.text else "null"

mutual

/-- The text of a document. -/
def render : Json → String
  | null => "null"
  | bool b => if b then "true" else "false"
  | int i => toString i
  | real x => renderDouble x
  | str s => quote s
  | arr items => "[" ++ renderItems items ++ "]"
  | obj members => "\x7b" ++ renderMembers members ++ "\x7d"

/-- The texts of the items of an array, between commas. -/
def renderItems : List Json → String
  | [] => ""
  | [item] => render item
  | item :: items => render item ++ "," ++ renderItems items

/-- The members of an object, between commas. -/
def renderMembers : List (String × Json) → String
  | [] => ""
  | [(name, value)] => quote name ++ ":" ++ render value
  | (name, value) :: members => quote name ++ ":" ++ render value ++ "," ++ renderMembers members

end

end Json

end ScalingMetrics
