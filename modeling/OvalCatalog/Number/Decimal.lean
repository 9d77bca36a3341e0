import OvalCatalog.Number.Rounding
import OvalCatalog.Text.Digit

namespace OvalCatalog.Number

inductive Parts where
  | notANumber
  | infinite (negative : Bool)
  /-- The value `± mantissa * 2 ^ exponent`. -/
  | finite (negative : Bool) (mantissa : Nat) (exponent : Int)

def parts (x : Float) : Parts :=
  let bits := x.toBits.toNat
  let negative : Bool := twoTo 63 ≤ bits
  let exponent : Nat := bits / twoTo 52 % twoTo 11
  let fraction : Nat := bits % twoTo 52
  if exponent = 2047 then if fraction = 0 then .infinite negative else .notANumber
  else if exponent = 0 then .finite negative fraction (-1074)
  else .finite negative (twoTo 52 + fraction) ((exponent : Int) - 1075)

def signText (negative : Bool) : String :=
  if negative then "-" else ""

def pointText (places n : Nat) : String :=
  if places = 0 then toString n
  else toString (n / tenTo places) ++ "." ++ Text.padded places (n % tenTo places)

def fixed (places : Nat) (x : Float) : String :=
  match parts x with
  | .notANumber => "nan"
  | .infinite negative => signText negative ++ "inf"
  | .finite negative m e => signText negative ++ pointText places (roundScaled (m * tenTo places) 1 e)

def withoutZeros (s : String) : String :=
  if s.contains '.' then
    let s := s.toList.reverse.dropWhile (· == '0')
    String.ofList (s.dropWhile (· == '.')).reverse
  else s

/-- The greatest `k` with `10 ^ k ≤ n / d`, for `n` and `d` above zero. -/
def log10Ratio (n d : Nat) : Int :=
  let k : Int := ((toString n).length : Int) - (toString d).length
  let enough := if 0 ≤ k then d * tenTo k.toNat ≤ n else d ≤ n * tenTo (-k).toNat
  if enough then k else k - 1

def roundDecimal (n d : Nat) (e : Int) : Nat :=
  if 0 ≤ e then roundDiv (n * tenTo e.toNat) d else roundDiv n (d * tenTo (-e).toNat)

def exponentText (e : Int) : String :=
  (if e < 0 then "e-" else "e+") ++ Text.padded 2 e.natAbs

def sixDigits (n d : Nat) : String :=
  if n = 0 then "0"
  else
    let low := log10Ratio n d
    let exponent := if roundDecimal n d (5 - low) = 1000000 then low + 1 else low
    if exponent < -4 ∨ 6 ≤ exponent then
      withoutZeros (pointText 5 (roundDecimal n d (5 - exponent))) ++ exponentText exponent
    else
      let places := (5 - exponent).toNat
      withoutZeros (pointText places (roundDecimal n d places))

def general (x : Float) : String :=
  match parts x with
  | .notANumber => "nan"
  | .infinite negative => signText negative ++ "inf"
  | .finite negative m e =>
    signText negative ++
      if 0 ≤ e then sixDigits (m * twoTo e.toNat) 1 else sixDigits m (twoTo (-e).toNat)

end OvalCatalog.Number
