import OvalCatalog.Number.Decimal

/-! Amounts: whole numbers of any size, or floats. A whole number that meets a float becomes one. -/

namespace OvalCatalog.Number

inductive Amount where
  | whole (n : Int)
  | real (x : Float)
  /-- A whole number met a float and is greater than every one. -/
  | tooLarge

namespace Amount

def wholeToFloat? (n : Int) : Option Float :=
  let x := nearest (n < 0) n.natAbs 1
  if x.isFinite then some x else none

def toFloat? : Amount → Option Float
  | whole n => wholeToFloat? n
  | real x => some x
  | tooLarge => none

def combine (onWholes : Int → Int → Int) (onFloats : Float → Float → Float) : Amount → Amount → Amount
  | whole m, whole n => whole (onWholes m n)
  | a, b =>
    match a.toFloat?, b.toFloat? with
    | some x, some y => real (onFloats x y)
    | _, _ => tooLarge

instance : Add Amount := ⟨combine (· + ·) (· + ·)⟩
instance : Sub Amount := ⟨combine (· - ·) (· - ·)⟩
instance : Mul Amount := ⟨combine (· * ·) (· * ·)⟩

def wholeLess (n : Int) (x : Float) : Bool :=
  match parts x with
  | .notANumber => false
  | .infinite negative => !negative
  | .finite negative m e =>
    let m : Int := if negative then -m else m
    if 0 ≤ e then n < m * twoTo e.toNat else n * twoTo (-e).toNat < m

def less : Amount → Amount → Bool
  | whole m, whole n => m < n
  | real x, real y => x < y
  | whole n, real x => wholeLess n x
  | real x, whole n => wholeLess (-n) (-x)
  | _, _ => false

def equal : Amount → Amount → Bool
  | whole m, whole n => m == n
  | real x, real y => x == y
  | whole n, real x => !x.isNaN && !wholeLess n x && !wholeLess (-n) (-x)
  | real x, whole n => !x.isNaN && !wholeLess n x && !wholeLess (-n) (-x)
  | _, _ => false

instance : LE Amount := ⟨fun a b => (less a b || equal a b) = true⟩

instance : DecidableRel (α := Amount) (· ≤ ·) := fun a b =>
  inferInstanceAs (Decidable ((less a b || equal a b) = true))

instance : Min Amount := ⟨fun
  | tooLarge, _ => tooLarge
  | _, tooLarge => tooLarge
  | a, b => if less b a then b else a⟩

instance : Max Amount := ⟨fun
  | tooLarge, _ => tooLarge
  | _, tooLarge => tooLarge
  | a, b => if less a b then b else a⟩

def text (a : Amount) : String :=
  match a.toFloat? with
  | some x => fixed 6 x
  | none => "inf"

end Amount

end OvalCatalog.Number
