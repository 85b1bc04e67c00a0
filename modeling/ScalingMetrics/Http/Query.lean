import ScalingMetrics.Text.Hex
import ScalingMetrics.Text.Pieces
import ScalingMetrics.Text.Utf8

/-!
# The parts of a request address

An address is a path with a query, or these behind a scheme and a host. Both hold escaped bytes. An
escape is a percent sign with two hexadecimal digits; any other percent sign stands for itself.
-/

namespace ScalingMetrics

namespace Http

open Text

/-- Decodes the escapes in bytes. -/
def percentDecode : List UInt8 → List UInt8
  | [] => []
  | [a] => [a]
  | [a, b] => [a, b]
  | a :: b :: c :: rest =>
    if a = 37 then
      match hexDigit? (.ofNat b.toNat), hexDigit? (.ofNat c.toNat) with
      | some high, some low => .ofNat (high * 16 + low) :: percentDecode rest
      | _, _ => a :: percentDecode (b :: c :: rest)
    else a :: percentDecode (b :: c :: rest)

/-- A part of a path without escapes; none if its bytes are not text. -/
def decodeSegment? (cs : List Char) : Option String :=
  (utf8Decode? (percentDecode (utf8Encode cs))).map .ofList

/-- A name or a value of a query: plus signs are blanks, and malformed bytes are replaced. -/
def decodeFormText (cs : List Char) : String :=
  let cs := cs.map fun c => if c = '+' then ' ' else c
  .ofList (utf8DecodeLossy (percentDecode (utf8Encode cs)))

/-- A pair of a query; without an equals sign the value is empty. -/
def decodeFormPair (cs : List Char) : String × String :=
  match cut? '=' cs with
  | some (name, value) => (decodeFormText name, decodeFormText value)
  | none => (decodeFormText cs, "")

/-- The pairs of a query. -/
def decodeForm (cs : List Char) : List (String × String) :=
  ((splitOn '&' cs).filter (!·.isEmpty)).map decodeFormPair

/-- Cuts a path from the query behind it. -/
def splitQuery (cs : List Char) : List Char × List Char := (cut? '?' cs).getD (cs, [])

/-- What follows a scheme such as `http://`. -/
def afterScheme? (cs : List Char) : Option (List Char) :=
  match cs.dropWhile fun c => c.isAlphanum || c == '+' || c == '-' || c == '.' with
  | ':' :: '/' :: '/' :: rest => some rest
  | _ => none

/-- Path and query of an address, without its fragment. Behind a scheme comes the name of a host,
and then the path is `/` if none is given. An address without scheme that does not begin with a
slash has no path. -/
def splitAddress (address : String) : List Char × List Char :=
  let cs := address.toList.takeWhile (· ≠ '#')
  if cs.head? = some '/' then splitQuery cs
  else
    match afterScheme? cs with
    | none => ([], [])
    | some rest =>
      let (path, query) := splitQuery (rest.dropWhile fun c => c ≠ '/' ∧ c ≠ '?')
      (if path.isEmpty then ['/'] else path, query)

/-- The selectors of a query. -/
structure SelectorQuery where
  labelSelector : Option String
  metricLabelSelector : Option String
deriving DecidableEq

/-- The name that is first to occur again in pairs, among the names of selectors. -/
def firstRepeated? (seen : List String) : List (String × String) → Option String
  | [] => none
  | p :: rest =>
    if p.1 = "labelSelector" ∨ p.1 = "metricLabelSelector" then
      if seen.contains p.1 then some p.1 else firstRepeated? (p.1 :: seen) rest
    else firstRepeated? seen rest

/-- The value of a name in pairs. -/
def valueOf? (pairs : List (String × String)) (name : String) : Option String :=
  (pairs.find? fun p => p.1 == name).map (·.2)

/-- Reads the selectors of a query; a repeated one is the fault. -/
def SelectorQuery.parse (query : List Char) : Except String SelectorQuery :=
  let pairs := decodeForm query
  match firstRepeated? [] pairs with
  | some name => .error name
  | none => .ok ⟨valueOf? pairs "labelSelector", valueOf? pairs "metricLabelSelector"⟩

end Http

end ScalingMetrics
