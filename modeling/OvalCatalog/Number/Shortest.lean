import OvalCatalog.Number.Decimal
import OvalCatalog.Number.Rounding

namespace OvalCatalog.Number

def floorDecimal (n d : Nat) (e : Int) : Nat :=
  if 0 ≤ e then n * tenTo e.toNat / d else n / (d * tenTo (-e).toNat)

/-- Of the two decimals of `count` digits around `n / d` one that reads back, the nearer one first; with
the exponent of its last digit. -/
def readingBack? (n d count : Nat) : Option (Nat × Int) :=
  let e : Int := count - 1 - log10Ratio n d
  let below := floorDecimal n d e
  let candidates := if roundDecimal n d e = below then [below, below + 1] else [below + 1, below]
  let bits := (nearest false n d).toBits
  (candidates.find? fun m => (nearestDecimal false m (-e)).toBits = bits).map fun m => (m, -e)

def shortestDigits (n d : Nat) : Nat × Int :=
  ((List.range 17).findSome? fun k => readingBack? n d (k + 1)).getD (0, 0)

def shortestDecimal? (x : Float) : Option (Bool × Nat × Int) :=
  match parts x with
  | .finite negative m e =>
    if m = 0 then some (negative, 0, 0)
    else
      some (negative, if 0 ≤ e then shortestDigits (m * twoTo e.toNat) 1 else shortestDigits m (twoTo (-e).toNat))
  | _ => none

def positional (digits : Nat) (exponent : Int) : String :=
  if 0 ≤ exponent then toString (digits * tenTo exponent.toNat) ++ ".0"
  else pointText (-exponent).toNat digits

def scientific (digits : Nat) (exponent : Int) : String :=
  let count := (toString digits).length
  withoutZeros (pointText (count - 1) digits) ++ exponentText (exponent + (count - 1))

def shortestText (n d : Nat) : String :=
  if n = 0 then "0.0"
  else
    let (digits, exponent) := shortestDigits n d
    let lead : Int := exponent + (((toString digits).length : Int) - 1)
    if -4 ≤ lead ∧ lead < 16 then positional digits exponent else scientific digits exponent

def shortest (x : Float) : String :=
  match parts x with
  | .notANumber => "nan"
  | .infinite negative => signText negative ++ "inf"
  | .finite negative m e =>
    signText negative ++
      if 0 ≤ e then shortestText (m * twoTo e.toNat) 1 else shortestText m (twoTo (-e).toNat)

end OvalCatalog.Number
