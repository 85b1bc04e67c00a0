import ScalingMetrics.Double.Basic
import ScalingMetrics.Text.Pieces

/-!
# Decimal text of double-precision numbers

Writing chooses the fewest digits that read back as the same number, of these the nearest to it, and
sets them without an exponent. Reading rounds a decimal number to the nearest one.
-/

namespace ScalingMetrics

namespace Double

/-- A decimal number `digits · 10 ^ exponent`. -/
structure DecimalForm where
  digits : Nat
  exponent : Int
deriving DecidableEq

/-- The fraction between two neighbouring reals at which rounding changes its result: around
`mantissa · 2 ^ exponent` it is half a unit up, and half or a quarter of one down. All three are
multiples of `2 ^ (exponent - 2)`. -/
structure Interval where
  low : Nat
  value : Nat
  high : Nat
  closed : Bool

/-- The reals that round to a number, in quarters of its last binary place. -/
def interval (mantissa : Nat) (exponent : Int) : Interval where
  low := 4 * mantissa - (if mantissa = Nat.pow 2 52 ∧ -1074 < exponent then 1 else 2)
  value := 4 * mantissa
  high := 4 * mantissa + 2
  closed := mantissa % 2 == 0

/-- Whether the fraction `num / den` lies in an interval. -/
def Interval.has (i : Interval) (num den : Nat) : Bool :=
  if i.closed then i.low * den ≤ num && num ≤ i.high * den
  else i.low * den < num && num < i.high * den

/-- `2 ^ quarters · 10 ^ (-place)` as a fraction: the size of a quarter unit on the decimal grid. -/
def gridUnit (quarters place : Int) : Nat × Nat :=
  let twos :=
    if 0 ≤ quarters then (Nat.pow 2 quarters.toNat, 1) else (1, Nat.pow 2 (-quarters).toNat)
  if 0 ≤ place then (twos.1, twos.2 * Nat.pow 10 place.toNat)
  else (twos.1 * Nat.pow 10 (-place).toNat, twos.2)

/-- The multiple of `10 ^ place` in the interval that is nearest to its value, the upper one of two
equally near. Only the two neighbours of the value can be it. -/
def nearestOnGrid? (i : Interval) (quarters place : Int) : Option Nat :=
  let unit := gridUnit quarters place
  let below := i.value * unit.1 / unit.2
  let has (n : Nat) : Bool := i.has (n * unit.2) unit.1
  let rest := i.value * unit.1 % unit.2
  if has below && has (below + 1) then
    some (if 2 * rest < unit.2 then below else below + 1)
  else if has below then some below
  else if has (below + 1) then some (below + 1)
  else none

/-- The first decimal grid, from coarse to fine, that has a point in the interval. -/
def shortestFrom (i : Interval) (quarters : Int) : Nat → Int → DecimalForm
  | 0, place => ⟨i.value * (gridUnit quarters place).1 / (gridUnit quarters place).2, place⟩
  | grids + 1, place =>
    match nearestOnGrid? i quarters place with
    | some 0 => shortestFrom i quarters grids (place - 1)
    | some n => ⟨n, place⟩
    | none => shortestFrom i quarters grids (place - 1)

/-- A power of ten above `mantissa · 2 ^ exponent`, at most a few places up. -/
def decimalPlaces (mantissa : Nat) (exponent : Int) : Int :=
  ((mantissa.log2 : Int) + exponent) * 30103 / 100000 + 2

/-- The shortest decimal number that rounds to `mantissa · 2 ^ exponent`. -/
def shortest (mantissa : Nat) (exponent : Int) : DecimalForm :=
  shortestFrom (interval mantissa exponent) (exponent - 2) 24 (decimalPlaces mantissa exponent)

/-- The digits of a decimal number, set without an exponent. -/
def DecimalForm.render (d : DecimalForm) : String :=
  let digits := Nat.toDigits 10 d.digits
  if 0 ≤ d.exponent then .ofList (digits ++ List.replicate d.exponent.toNat '0')
  else
    let places := (-d.exponent).toNat
    if places < digits.length then
      let whole := digits.length - places
      .ofList (digits.take whole ++ '.' :: digits.drop whole)
    else .ofList ('0' :: '.' :: List.replicate (places - digits.length) '0' ++ digits)

/-- The text of a number: the fewest digits that read back as it, without an exponent. -/
def text (x : Double) : String :=
  match x.read with
  | .nan => "NaN"
  | .infinite s => if s then "-inf" else "inf"
  | .finite s m e =>
    (if s then "-" else "") ++ (if m = 0 then "0" else (shortest m e).render)

/-- The number nearest to `± digits · 10 ^ exponent`. Numbers of magnitude above `10 ^ 400` are
infinite and those below `10 ^ (-400)` are zero. -/
def ofDecimal (negative : Bool) (digits : Nat) (exponent : Int) : Double :=
  let places : Int := (Nat.toDigits 10 digits).length
  if digits = 0 || exponent + places < -400 then zero negative
  else if 400 < exponent + places then infinity negative
  else if 0 ≤ exponent then ofFraction negative (digits * Nat.pow 10 exponent.toNat) 1
  else ofFraction negative digits (Nat.pow 10 (-exponent).toNat)

/-- The value of decimal digits, if there are any and nothing else. -/
def readDigits? (cs : List Char) : Option Nat :=
  if cs.isEmpty || !cs.all Char.isDigit then none
  else some (cs.foldl (fun n c => 10 * n + (c.toNat - 48)) 0)

/-- Decimal digits behind an optional sign. -/
def readSigned? : List Char → Option Int
  | '-' :: cs => (readDigits? cs).map fun n => -(n : Int)
  | '+' :: cs => (readDigits? cs).map fun n => (n : Int)
  | cs => (readDigits? cs).map fun n => (n : Int)

/-- Reads digits with an optional point, given the power of ten behind them. -/
def readPoint? (negative : Bool) (cs : List Char) (exponent : Int) : Option Double :=
  match Text.cut? '.' cs with
  | none => (readDigits? cs).map fun n => ofDecimal negative n exponent
  | some (whole, places) =>
    (readDigits? (whole ++ places)).map fun n => ofDecimal negative n (exponent - places.length)

/-- Reads an unsigned decimal number with an optional exponent. -/
def readUnsigned? (negative : Bool) (cs : List Char) : Option Double :=
  match Text.cut? 'e' (cs.map Char.toLower) with
  | none => readPoint? negative cs 0
  | some (number, exponent) => (readSigned? exponent).bind (readPoint? negative number)

/-- Reads a decimal number, or a word in any case for an infinity or for the number that is none. -/
def parse? (s : String) : Option Double :=
  let cs := s.toList
  let negative := cs.head? == some '-'
  let unsigned := if negative then cs.tail else Text.dropLeading '+' cs
  let word := unsigned.map Char.toLower
  if word = "nan".toList then some nan
  else if word = "inf".toList ∨ word = "infinity".toList then some (infinity negative)
  else readUnsigned? negative unsigned

end Double

end ScalingMetrics
