import OvalCatalog.Number.Amount
import OvalCatalog.Time.MailDate

/-! How long to wait before the next try: twice as long each time up to a limit, some chance on top, and
never less than the server asks for. -/

namespace OvalCatalog.Http

inductive WaitError where
  | wholeTooLarge
  | notANumber
  | outOfRange
  | wholeOutOfRange
  | negative
  | interrupted (message : String)
  deriving DecidableEq

def WaitError.message : WaitError → String
  | wholeTooLarge => "int too large to convert to float"
  | notANumber => "Invalid value NaN (not a number)"
  | outOfRange => "timestamp out of range for platform time_t"
  | wholeOutOfRange => "timestamp too large to convert to C _PyTime_t"
  | negative => "sleep length must be non-negative"
  | interrupted message => message

class Duration (α : Type) extends Add α, Mul α, Min α, Max α where
  ofNat : Nat → α
  ofReal : Number.Real → α
  ofMicros : Int → α
  /-- Why one cannot sleep for that time. -/
  refusal? : α → Option WaitError

structure RetryConfig (α : Type) where
  maxRetries : Int
  baseDelay : α
  maxDelay : α
  jitterRatio : α
  timeout : α

namespace RetryConfig

variable {α : Type} [Duration α]

def baseTime (c : RetryConfig α) (attempt : Nat) : α :=
  min c.maxDelay (c.baseDelay * Duration.ofNat (Number.twoTo attempt))

/-- The time with its share of chance: `draw` lies between 0 and 1. -/
def jittered (c : RetryConfig α) (attempt : Nat) (draw : α) : α :=
  c.baseTime attempt + c.baseTime attempt * (c.jitterRatio * draw)

def delay (c : RetryConfig α) (attempt : Nat) (draw : α) (asked : Option α) : α :=
  match asked with
  | none => c.jittered attempt draw
  | some time => max (c.jittered attempt draw) time

end RetryConfig

inductive RetryAfter where
  | seconds (n : Number.Real)
  /-- Microseconds from now on. -/
  | span (micros : Int)
  deriving DecidableEq

namespace RetryAfter

def read (now : Int) (value : Option String) : Except Time.DateExcess (Option RetryAfter) :=
  match value.getD "" with
  | "" => .ok none
  | value =>
    match Number.readReal? value.toList with
    | some n => .ok (some (.seconds n))
    | none => (Time.readMailDate value.toList).map fun t => t.map fun t => .span (max 0 (t - now))

def time {α : Type} [Duration α] : RetryAfter → α
  | seconds n => Duration.ofReal n
  | span micros => Duration.ofMicros micros

end RetryAfter

open Number (Amount nearest twoTo)

/-- A time becomes a number of nanoseconds, for which there are 64 bits. -/
def sleepRefusal? : Amount → Option WaitError
  | .tooLarge => some .wholeTooLarge
  | .whole n =>
    if twoTo 63 ≤ n.natAbs * 1000000000 then some .wholeOutOfRange
    else if n < 0 then some .negative
    else none
  | .real x =>
    let nanos := x * 1e9
    let limit := nearest false (twoTo 63) 1
    if x.isNaN then some .notANumber
    else if nanos < -limit || limit ≤ nanos then some .outOfRange
    else if nanos < 0 then some .negative
    else none

instance : Duration Amount where
  ofNat n := .whole n
  ofReal n := .real n.toFloat
  ofMicros n := .real (nearest (n < 0) n.natAbs 1000000)
  refusal? := sleepRefusal?

end OvalCatalog.Http
