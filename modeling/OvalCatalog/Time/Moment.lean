import OvalCatalog.Text.Lines
import OvalCatalog.Time.Timestamp

namespace OvalCatalog.Time

/-- A time of day somewhere; `offset` is the number of microseconds it is ahead of universal time. -/
structure Moment where
  clock : Timestamp
  offset : Option Int := none
  deriving DecidableEq

namespace Moment

def instant (m : Moment) : Int :=
  m.clock.micros - m.offset.getD 0

def normalize? (m : Moment) : Option Timestamp :=
  match m.offset with
  | none => some m.clock
  | some _ => Timestamp.ofMicros? m.instant

def offsetText (offset : Int) : String :=
  let n := offset.natAbs
  let fraction := if n % 1000000 = 0 then "" else "." ++ Text.padded 6 (n % 1000000)
  let seconds := if n % 60000000 = 0 then "" else ":" ++ Text.padded 2 (n / 1000000 % 60) ++ fraction
  (if offset < 0 then "-" else "+") ++ Text.padded 2 (n / 3600000000) ++ ":" ++
    Text.padded 2 (n / 60000000 % 60) ++ seconds

def isoText (m : Moment) : String :=
  m.clock.isoText ++ (m.offset.map offsetText).getD ""

def microsBetween (start stop : Moment) : Int :=
  stop.instant - start.instant

def readOffset? : List Char → Option (Option Int)
  | [] => some none
  | sign :: h₁ :: h₂ :: ':' :: m₁ :: m₂ :: [] => do
    let h ← Text.readDigits? Text.asciiDigit? [h₁, h₂]
    let m ← Text.readDigits? Text.asciiDigit? [m₁, m₂]
    let micros : Int := (h * 60 + m) * 60000000
    if sign == '-' then return some (-micros) else return some micros
  | _ => none

def readMicros? (s : List Char) : Option Nat :=
  Text.readDigits? Text.asciiDigit? (s.take 6 ++ List.replicate (6 - s.length) '0')

def isOffsetSign (c : Char) : Bool :=
  c == '+' || c == '-'

def read? (s : String) : Option Moment := do
  let number := Text.readDigits? Text.asciiDigit?
  let (date, time) ← Text.cut? 'T' s.toList
  let offset ← readOffset? (time.dropWhile fun c => !isOffsetSign c)
  let time := time.takeWhile fun c => !isOffsetSign c
  let micros ← match Text.cut? '.' time with
    | some (_, decimals) => readMicros? decimals
    | none => some 0
  match (Text.splitOn (· == '-') date).mapM number,
      (Text.splitOn (· == ':') (time.takeWhile (· != '.'))).mapM number with
  | some [year, month, day], some [hour, minute, second] =>
    return ⟨← Timestamp.ofFields? ⟨year, month, day⟩ hour minute second micros, offset⟩
  | _, _ => none

end Moment

end OvalCatalog.Time
