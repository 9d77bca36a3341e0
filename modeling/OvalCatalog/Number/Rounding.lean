import OvalCatalog.Number.Power

namespace OvalCatalog.Number

/-- `n / d` to the nearest whole number, a half to the even one. -/
def roundDiv (n d : Nat) : Nat :=
  let q := n / d
  let r := n % d
  if 2 * r < d ∨ (2 * r = d ∧ q % 2 = 0) then q else q + 1

def roundScaled (n d : Nat) (e : Int) : Nat :=
  if 0 ≤ e then roundDiv (n * twoTo e.toNat) d else roundDiv n (d * twoTo (-e).toNat)

def log2Ratio (n d : Nat) : Int :=
  let k : Int := (n.log2 : Int) - d.log2
  let enough := if 0 ≤ k then d * twoTo k.toNat ≤ n else d ≤ n * twoTo (-k).toNat
  if enough then k else k - 1

def signBit (negative : Bool) : Nat :=
  if negative then twoTo 63 else 0

def infinity (negative : Bool) : Float :=
  Float.ofBits (UInt64.ofNat (signBit negative + 2047 * twoTo 52))

/-- The float nearest to `n / d`, a tie to the even mantissa; infinite past the greatest float. -/
def nearest (negative : Bool) (n d : Nat) : Float :=
  if n = 0 then Float.ofBits (UInt64.ofNat (signBit negative))
  else
    let unit := max (log2Ratio n d - 52) (-1074)
    let mantissa := roundScaled n d (-unit)
    let bits := (unit + 1074).toNat * twoTo 52 + mantissa
    if bits < 2047 * twoTo 52 then Float.ofBits (UInt64.ofNat (signBit negative + bits))
    else infinity negative

def nearestDecimal (negative : Bool) (mantissa : Nat) (exponent : Int) : Float :=
  if mantissa = 0 ∨ mantissa.log2 + exponent < -400 then nearest negative 0 1
  else if 400 < (mantissa.log2 / 4 : Nat) + exponent then infinity negative
  else if 0 ≤ exponent then nearest negative (mantissa * tenTo exponent.toNat) 1
  else nearest negative mantissa (tenTo (-exponent).toNat)

end OvalCatalog.Number
