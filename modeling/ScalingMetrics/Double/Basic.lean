/-!
# Double-precision numbers by their bits

A number is its 64 bits: sign, eleven bits of exponent, fifty-two of fraction. A finite one stands
for `± mantissa · 2 ^ exponent`, and an exact fraction is rounded to the nearest finite number, a
tie to the even one.

## Implementation notes

All arithmetic is exact on natural numbers, so that every rule about numbers can be stated without
an opaque operation.
-/

namespace ScalingMetrics

/-- A double-precision number, told apart by its bits. -/
structure Double where
  bits : UInt64
deriving DecidableEq

namespace Double

/-- What the bits of a number stand for. -/
inductive Reading where
  | nan
  | infinite (negative : Bool)
  | finite (negative : Bool) (mantissa : Nat) (exponent : Int)
deriving DecidableEq

/-- The fraction field. -/
def fraction (x : Double) : Nat := x.bits.toNat % Nat.pow 2 52

/-- The exponent field. -/
def exponentField (x : Double) : Nat := x.bits.toNat / Nat.pow 2 52 % Nat.pow 2 11

/-- The sign field. -/
def isNegative (x : Double) : Bool := Nat.pow 2 63 ≤ x.bits.toNat

/-- Reads the fields. An exponent field of zero marks the numbers below the normal ones. -/
def read (x : Double) : Reading :=
  if x.exponentField = 2047 then
    if x.fraction = 0 then .infinite x.isNegative else .nan
  else if x.exponentField = 0 then .finite x.isNegative x.fraction (-1074)
  else .finite x.isNegative (Nat.pow 2 52 + x.fraction) (x.exponentField - 1075)

/-- The number with a sign and the magnitude bits, which lie below `2 ^ 63`. -/
def ofMagnitude (negative : Bool) (magnitude : Nat) : Double :=
  ⟨.ofNat (if negative then Nat.pow 2 63 + magnitude else magnitude)⟩

/-- The number that is none. -/
def nan : Double := ofMagnitude false (2047 * Nat.pow 2 52 + Nat.pow 2 51)

/-- The infinity of a sign. -/
def infinity (negative : Bool) : Double := ofMagnitude negative (2047 * Nat.pow 2 52)

/-- The zero of a sign. -/
def zero (negative : Bool) : Double := ofMagnitude negative 0

/-- The number is neither infinite nor none. -/
def isFinite (x : Double) : Bool := x.exponentField != 2047

/-- The number is none. -/
def isNaN (x : Double) : Bool := x.exponentField == 2047 && x.fraction != 0

/-- The integer nearest to a fraction, a tie going to the even one. -/
def roundHalfEven (num den : Nat) : Nat :=
  let q := num / den
  let r := num % den
  if 2 * r < den then q else if den < 2 * r then q + 1 else q + q % 2

/-- The integer nearest to a fraction, a tie going up. -/
def roundHalfUp (num den : Nat) : Nat := (2 * num + den) / (2 * den)

/-- `num / den · 2 ^ (-shift)` as a fraction of natural numbers. -/
def shiftRight (num den : Nat) (shift : Int) : Nat × Nat :=
  if 0 ≤ shift then (num, den * Nat.pow 2 shift.toNat) else (num * Nat.pow 2 (-shift).toNat, den)

/-- The exponent of the grid of numbers around a positive fraction: the quotient by `2 ^ exponent`
has at most fifty-three binary digits, and exactly as many unless the exponent is the least one. -/
def gridExponent (num den : Nat) : Int :=
  let low : Int := max ((num.log2 : Int) - den.log2 - 53) (-1074)
  let scaled := shiftRight num den low
  if Nat.pow 2 53 ≤ scaled.1 / scaled.2 then low + 1 else low

/-- The number nearest to a fraction with a positive denominator. Every sum of an exponent and a
rounded quotient is read as magnitude bits, so that a quotient rounded up to the next power of two
carries into the exponent field. -/
def ofFraction (negative : Bool) (num den : Nat) : Double :=
  if num = 0 then zero negative
  else
    let exponent := gridExponent num den
    let scaled := shiftRight num den exponent
    let magnitude := (exponent + 1074).toNat * Nat.pow 2 52 + roundHalfEven scaled.1 scaled.2
    if 2047 * Nat.pow 2 52 ≤ magnitude then infinity negative else ofMagnitude negative magnitude

/-- The number nearest to `± mantissa · 2 ^ exponent`. -/
def ofScaled (negative : Bool) (mantissa : Nat) (exponent : Int) : Double :=
  let scaled := shiftRight mantissa 1 (-exponent)
  ofFraction negative scaled.1 scaled.2

/-- The number nearest to an integer. -/
def ofInt (i : Int) : Double := ofFraction (i < 0) i.natAbs 1

/-- `± mantissa · 2 ^ exponent` as a multiple of `2 ^ least`. -/
def multiple (negative : Bool) (mantissa : Nat) (exponent least : Int) : Int :=
  let magnitude := mantissa * Nat.pow 2 (exponent - least).toNat
  if negative then -(magnitude : Int) else magnitude

/-- The sum, rounded once. Opposite infinities have none, and two negative zeros keep their sign. -/
def add (x y : Double) : Double :=
  match x.read, y.read with
  | .nan, _ => nan
  | _, .nan => nan
  | .infinite s, .infinite t => if s = t then infinity s else nan
  | .infinite s, .finite .. => infinity s
  | .finite .., .infinite t => infinity t
  | .finite s m e, .finite t n f =>
    let least := min e f
    let sum := multiple s m e least + multiple t n f least
    if sum = 0 then zero (s && t && m == 0 && n == 0)
    else ofScaled (sum < 0) sum.natAbs least

/-- Whether one number is at most another; no number is comparable to none. -/
def le (x y : Double) : Bool :=
  match x.read, y.read with
  | .nan, _ => false
  | _, .nan => false
  | .infinite s, .infinite t => s || !t
  | .infinite s, .finite .. => s
  | .finite .., .infinite t => !t
  | .finite s m e, .finite t n f =>
    let least := min e f
    multiple s m e least ≤ multiple t n f least

end Double

end ScalingMetrics
