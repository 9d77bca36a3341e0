import OvalCatalog.Number.Reading
import OvalCatalog.Text.Lines
import OvalCatalog.Time.Timestamp

namespace OvalCatalog.Time

inductive DateExcess where
  | offsetTooLarge
  | offsetDays (days : Int)
  | fieldTooLarge
  | fieldAboveGreatest
  | fieldBelowLeast
  deriving DecidableEq, Repr

def DateExcess.message : DateExcess → String
  | offsetTooLarge => "Python int too large to convert to C int"
  | offsetDays days => "days=" ++ toString days ++ "; must have magnitude <= 999999999"
  | fieldTooLarge => "Python int too large to convert to C long"
  | fieldAboveGreatest => "signed integer is greater than maximum"
  | fieldBelowLeast => "signed integer is less than minimum"

namespace MailDate

def months : List String :=
  ["jan", "feb", "mar", "apr", "may", "jun", "jul", "aug", "sep", "oct", "nov", "dec",
   "january", "february", "march", "april", "may", "june", "july", "august", "september", "october",
   "november", "december"]

def days : List String :=
  ["mon", "tue", "wed", "thu", "fri", "sat", "sun"]

def zones : List (String × Int) :=
  [("UT", 0), ("UTC", 0), ("GMT", 0), ("Z", 0), ("AST", -400), ("ADT", -300), ("EST", -500),
   ("EDT", -400), ("CST", -600), ("CDT", -500), ("MST", -700), ("MDT", -600), ("PST", -800),
   ("PDT", -700)]

def lower (s : List Char) : String :=
  (String.ofList s).toLower

/-- Capital letters; a long s and its ligatures have plain capitals too. -/
def upper (s : List Char) : String :=
  String.ofList (s.flatMap fun c =>
    if c.toNat = 0x17f then ['S']
    else if c.toNat = 0xfb05 ∨ c.toNat = 0xfb06 then ['S', 'T']
    else [c.toUpper])

def withoutDay : List (List Char) → List (List Char)
  | [] => []
  | first :: rest =>
    if first.getLast? = some ',' ∨ days.contains (lower first) then rest
    else Text.afterLast ',' first :: rest

def splitHyphens (parts : List (List Char)) : List (List Char) :=
  match parts with
  | [date, time, zone] =>
    match Text.splitOn (· == '-') date with
    | [d, m, y] => [d, m, y, time, zone]
    | _ => parts
  | _ => parts

def splitZone (parts : List (List Char)) : List (List Char) :=
  match parts with
  | [d, m, y, time] =>
    let mark := if time.contains '+' then '+' else '-'
    match time.takeWhile (· != mark), time.dropWhile (· != mark) with
    | t :: ts, z :: zs => [d, m, y, t :: ts, z :: zs]
    | _, _ => [d, m, y, time, []]
  | _ => parts

structure Parts where
  day : List Char
  month : List Char
  year : List Char
  time : List Char
  zone : List Char

def Parts.of? (s : List Char) : Option Parts :=
  match splitZone (splitHyphens (withoutDay (Text.words Text.isBlank s))) with
  | d :: m :: y :: t :: z :: _ => if d.isEmpty || m.isEmpty || y.isEmpty then none else some ⟨d, m, y, t, z⟩
  | _ => none

def monthNumber? (s : List Char) : Option Nat :=
  (months.findIdx? (· == lower s)).map fun i => i % 12 + 1

def withoutComma (s : List Char) : List Char :=
  if s.getLast? = some ',' then s.dropLast else s

def Parts.arrange? (p : Parts) : Option (Nat × Parts) := do
  let (month, day) ← match monthNumber? p.month with
    | some n => some (n, p.day)
    | none => (monthNumber? p.day).map fun n => (n, p.month)
  let (year, time) :=
    if (p.year.drop 1).contains ':' && p.year.head? != some ':' then (p.time, p.year) else (p.year, p.time)
  let year := withoutComma year
  let first ← year.head?
  let (year, zone) := if Text.isDigitLike first then (year, p.zone) else (p.zone, year)
  return (month, { p with day := withoutComma day, year, time := withoutComma time, zone })

def clock? (time : List Char) : Option (List Char × List Char × List Char) :=
  match Text.splitOn (· == ':') time with
  | [h, m] => some (h, m, ['0'])
  | [h, m, s] => some (h, m, s)
  | [t] =>
    match Text.splitOn (· == '.') t with
    | [h, m] => some (h, m, ['0'])
    | [h, m, s] => some (h, m, s)
    | _ => none
  | _ => none

def fullYear (y : Int) : Int :=
  if y < 100 then if 68 < y then y + 1900 else y + 2000 else y

/-- Seconds ahead of universal time; none for an unknown zone, and for a zero with a minus. -/
def zoneSeconds? (zone : List Char) : Option Int :=
  let name := upper zone
  let hundreds := match zones.find? fun z => z.1 == name with
    | some (_, n) => some n
    | none =>
      match Number.readWhole? name.toList with
      | some n => if n = 0 ∧ zone.head? = some '-' then none else some n
      | none => none
  hundreds.map fun n => n.sign * ((n.natAbs / 100 * 3600 + n.natAbs % 100 * 60 : Nat) : Int)

structure Numbers where
  fields : List Int
  zone : Option Int

def numbers? (s : List Char) : Option Numbers := do
  let (month, p) ← (← Parts.of? s).arrange?
  let (h, m, sec) ← clock? p.time
  let year ← Number.readWhole? p.year
  let day ← Number.readWhole? p.day
  let hour ← Number.readWhole? h
  let minute ← Number.readWhole? m
  let second ← Number.readWhole? sec
  return ⟨[fullYear year, month, day, hour, minute, second], zoneSeconds? p.zone⟩

def checkField (n : Int) : Except DateExcess Unit :=
  if Number.twoTo 63 ≤ n ∨ n < -(Number.twoTo 63 : Int) then .error .fieldTooLarge
  else if Number.twoTo 31 ≤ n then .error .fieldAboveGreatest
  else if n < -(Number.twoTo 31 : Int) then .error .fieldBelowLeast
  else .ok ()

def checkZone (seconds : Int) : Except DateExcess Unit :=
  let days := seconds / 86400
  if Number.twoTo 31 ≤ days ∨ days < -(Number.twoTo 31 : Int) then .error .offsetTooLarge
  else if 999999999 < days.natAbs then .error (.offsetDays days)
  else .ok ()

def timestamp? : List Int → Option Timestamp
  | [year, month, day, hour, minute, second] =>
    if [year, month, day, hour, minute, second].all (0 ≤ ·) then
      Timestamp.ofFields? ⟨year.toNat, month.toNat, day.toNat⟩ hour.toNat minute.toNat second.toNat 0
    else none
  | _ => none

end MailDate

/-- The microseconds from the start of year 1 to the date in universal time, if the text is a date. -/
def readMailDate (s : List Char) : Except DateExcess (Option Int) :=
  match MailDate.numbers? s with
  | none => .ok none
  | some ⟨fields, zone⟩ => do
    let seconds := zone.getD 0
    MailDate.checkZone seconds
    if 86400 ≤ seconds.natAbs then return none
    else
      fields.forM MailDate.checkField
      return (MailDate.timestamp? fields).map fun t => t.micros - seconds * 1000000

end OvalCatalog.Time
