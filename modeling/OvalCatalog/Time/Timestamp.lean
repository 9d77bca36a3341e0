import OvalCatalog.Text.Digit
import OvalCatalog.Time.Date

namespace OvalCatalog.Time

structure Timestamp where
  date : Date
  hour : Nat := 0
  minute : Nat := 0
  second : Nat := 0
  microsecond : Nat := 0
  valid : date.Valid ∧ hour < 24 ∧ minute < 60 ∧ second < 60 ∧ microsecond < 1000000 := by decide

namespace Timestamp

instance : DecidableEq Timestamp := fun a b =>
  if h : a.date = b.date ∧ a.hour = b.hour ∧ a.minute = b.minute ∧ a.second = b.second ∧
      a.microsecond = b.microsecond
  then isTrue (by cases a; cases b; simp_all)
  else isFalse (by rintro rfl; simp at h)

def ofFields? (date : Date) (hour minute second microsecond : Nat) : Option Timestamp :=
  if h : date.Valid ∧ hour < 24 ∧ minute < 60 ∧ second < 60 ∧ microsecond < 1000000 then
    some ⟨date, hour, minute, second, microsecond, h⟩
  else none

def dateText (d : Date) : String :=
  Text.padded 4 d.year ++ "-" ++ Text.padded 2 d.month ++ "-" ++ Text.padded 2 d.day

def isoText (t : Timestamp) : String :=
  dateText t.date ++ "T" ++ Text.padded 2 t.hour ++ ":" ++ Text.padded 2 t.minute ++ ":" ++
    Text.padded 2 t.second ++
    if t.microsecond = 0 then "" else "." ++ Text.padded 6 t.microsecond

def digitText (mark : String) (t : Timestamp) : String :=
  toString t.date.year ++ Text.padded 2 t.date.month ++ Text.padded 2 t.date.day ++ mark ++
    Text.padded 2 t.hour ++ Text.padded 2 t.minute ++ Text.padded 2 t.second

def secondOfDay (t : Timestamp) : Nat :=
  (t.hour * 60 + t.minute) * 60 + t.second

def micros (t : Timestamp) : Nat :=
  (t.date.dayNumber * 86400 + t.secondOfDay) * 1000000 + t.microsecond

def ofMicros? (n : Int) : Option Timestamp :=
  if n < 0 then none
  else
    let n := n.toNat
    let seconds := n / 1000000
    let rest := seconds % 86400
    ofFields? (Date.ofDayNumber (seconds / 86400)) (rest / 3600) (rest / 60 % 60) (rest % 60)
      (n % 1000000)

end Timestamp

end OvalCatalog.Time
