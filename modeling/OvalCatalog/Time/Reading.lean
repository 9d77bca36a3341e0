import OvalCatalog.Number.Power
import OvalCatalog.Text.Blank
import OvalCatalog.Text.Lines
import OvalCatalog.Time.Timestamp

/-! Reading of a date and time as feeds write it: `YYYY-MM-DDTHH:MM:SS`, with or without decimals of a
second. All but the year may have one digit. -/

namespace OvalCatalog.Time.Reading

def belowTens? (tens : Nat) : List Char → Option Nat
  | [d] => Text.digitValue? d
  | [t, d] => do
    let t ← Text.asciiDigit? t
    if t < tens then return 10 * t + (← Text.digitValue? d) else none
  | _ => none

def sexagesimal? : List Char → Option Nat :=
  belowTens? 6

def hour? : List Char → Option Nat
  | ['2', d] => (Text.asciiDigit? d).bind fun n => if n ≤ 3 then some (20 + n) else none
  | s => belowTens? 2 s

def year? (s : List Char) : Option Nat :=
  if s.length = 4 then Text.readDigits? Text.digitValue? s else none

def month? : List Char → Option Nat
  | [d] => do
    let n ← Text.asciiDigit? d
    if n = 0 then none else some n
  | [t, d] => do
    let n := 10 * (← Text.asciiDigit? t) + (← Text.asciiDigit? d)
    if 1 ≤ n ∧ n ≤ 12 then some n else none
  | _ => none

/-- A blank may stand for the zero; only the second digit of 10 to 29 may be of another script. -/
def day? : List Char → Option Nat
  | [d] => do
    let n ← Text.asciiDigit? d
    if n = 0 then none else some n
  | [t, d] => do
    if t == '1' || t == '2' then return 10 * (← Text.asciiDigit? t) + (← Text.digitValue? d)
    let tens ← if t == ' ' then some 0 else Text.asciiDigit? t
    let n := 10 * tens + (← Text.asciiDigit? d)
    if 1 ≤ n ∧ n ≤ 31 then some n else none
  | _ => none

def date? (s : List Char) : Option Date := do
  let (year, s) ← Text.cut? '-' s
  let (month, day) ← Text.cut? '-' s
  return ⟨← year? year, ← month? month, ← day? day⟩

def micros? (s : List Char) : Option Nat :=
  if 6 < s.length then none
  else (Text.readDigits? Text.asciiDigit? s).map (· * Number.tenTo (6 - s.length))

inductive Format where
  | whole
  | decimals
  deriving DecidableEq, Repr

def second? : Format → List Char → Option (Nat × Nat)
  | .whole, s => (sexagesimal? s).map fun n => (n, 0)
  | .decimals, s => do
    let (s, decimals) ← Text.cut? '.' s
    return (← sexagesimal? s, ← micros? decimals)

def largeMark (c : Char) : Char :=
  if c == 't' then 'T' else c

def timestamp? (format : Format) (s : List Char) : Option Timestamp := do
  let (date, s) ← Text.cut? 'T' (s.map largeMark)
  let (hour, s) ← Text.cut? ':' s
  let (minute, s) ← Text.cut? ':' s
  let (second, microsecond) ← second? format s
  Timestamp.ofFields? (← date? date) (← hour? hour) (← sexagesimal? minute) second microsecond

end OvalCatalog.Time.Reading

namespace OvalCatalog.Time

def Timestamp.read? (s : String) : Option Timestamp :=
  [Reading.Format.whole, .decimals].findSome? fun format => Reading.timestamp? format (Text.trim s.toList)

end OvalCatalog.Time
