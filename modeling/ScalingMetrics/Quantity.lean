import ScalingMetrics.Double.Decimal

/-!
# Quantities

A metric value is served as a quantity: an integer is written plainly, any other value in
thousandths with the unit `m`. The product with one thousand is rounded as a double-precision number
before it is rounded to an integer, a half away from zero.
-/

namespace ScalingMetrics

namespace Double

/-- The magnitude of a finite value in thousandths, as a double-precision number. -/
def thousandfold (mantissa : Nat) (exponent : Int) : Double :=
  ofScaled false (1000 * mantissa) exponent

/-- The integer nearest to a finite magnitude, a half going up. -/
def roundMagnitude (mantissa : Nat) (exponent : Int) : Nat :=
  if 0 ≤ exponent then mantissa * Nat.pow 2 exponent.toNat
  else roundHalfUp mantissa (Nat.pow 2 (-exponent).toNat)

/-- The magnitude if it is an integer. -/
def integer? (mantissa : Nat) (exponent : Int) : Option Nat :=
  if 0 ≤ exponent then some (mantissa * Nat.pow 2 exponent.toNat)
  else
    let unit := Nat.pow 2 (-exponent).toNat
    if mantissa % unit = 0 then some (mantissa / unit) else none

end Double

/-- An integer with its sign; zero has none. -/
def signedText (negative : Bool) (n : Nat) : String :=
  if negative && n != 0 then "-" ++ toString n else toString n

/-- The quantity of a value; none if the value is not finite or its thousandths leave the range of
signed 64-bit integers. -/
def quantity? (x : Double) : Option String :=
  match x.read with
  | .nan => none
  | .infinite _ => none
  | .finite negative m e =>
    match (Double.thousandfold m e).read with
    | .finite _ n f =>
      let thousandths := Double.roundMagnitude n f
      if Nat.pow 2 63 ≤ thousandths then none
      else
        match Double.integer? m e with
        | some whole => some (signedText negative whole)
        | none => some (signedText negative thousandths ++ "m")
    | _ => none

end ScalingMetrics
