import OvalCatalog.Number.Rounding
import OvalCatalog.Text.Blank
import OvalCatalog.Text.Digit

namespace OvalCatalog.Number

/-- White space that may surround a number; the information separators may not. -/
def isMargin (c : Char) : Bool :=
  Text.isBlank c && !(0x1c ≤ c.toNat && c.toNat ≤ 0x1f)

def withoutMargins (s : List Char) : List Char :=
  ((s.dropWhile isMargin).reverse.dropWhile isMargin).reverse

def cutSign : List Char → Bool × List Char
  | '-' :: rest => (true, rest)
  | '+' :: rest => (false, rest)
  | s => (false, s)

def joinDigits : List Char → List Char
  | c :: '_' :: d :: rest =>
    if Text.isDigit c && Text.isDigit d then c :: joinDigits (d :: rest)
    else c :: joinDigits ('_' :: d :: rest)
  | c :: rest => c :: joinDigits rest
  | [] => []
termination_by s => s.length

def digitLimit : Nat := 4300

def readWhole? (s : List Char) : Option Int :=
  let (negative, digits) := cutSign (withoutMargins s)
  let digits := joinDigits digits
  if digitLimit < digits.length then none
  else (Text.readDigits? Text.digitValue? digits).map fun n => if negative then -(n : Int) else n

def lowerAscii (s : List Char) : List Char :=
  s.map Char.toLower

def spanDigits (s : List Char) : List Nat × List Char :=
  ((s.takeWhile Text.isDigit).filterMap Text.digitValue?, s.dropWhile Text.isDigit)

def readExponent? : List Char → Option Int
  | [] => some 0
  | c :: rest =>
    if c == 'e' || c == 'E' then
      let (negative, digits) := cutSign rest
      (Text.readDigits? Text.digitValue? digits).map fun n => if negative then -(n : Int) else n
    else none

inductive Real where
  | notANumber
  | infinite (negative : Bool)
  /-- The number `± mantissa * 10 ^ exponent`. -/
  | decimal (negative : Bool) (mantissa : Nat) (exponent : Int)
  deriving DecidableEq, Repr

def Real.toFloat : Real → Float
  | notANumber => 0.0 / 0.0
  | infinite negative => infinity negative
  | decimal negative mantissa exponent => nearestDecimal negative mantissa exponent

def readDecimal? (negative : Bool) (s : List Char) : Option Real :=
  let (whole, rest) := spanDigits s
  let (fraction, rest) := match rest with
    | '.' :: rest => spanDigits rest
    | rest => ([], rest)
  if whole.isEmpty && fraction.isEmpty then none
  else (readExponent? rest).map fun e =>
    .decimal negative (Text.ofDigits (whole ++ fraction)) (e - fraction.length)

def readReal? (s : List Char) : Option Real :=
  let (negative, s) := cutSign (joinDigits (withoutMargins s))
  let word := lowerAscii s
  if word = ['i', 'n', 'f'] ∨ word = ['i', 'n', 'f', 'i', 'n', 'i', 't', 'y'] then some (.infinite negative)
  else if word = ['n', 'a', 'n'] then some .notANumber
  else readDecimal? negative s

end OvalCatalog.Number
