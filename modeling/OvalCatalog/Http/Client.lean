import OvalCatalog.Http.Backoff
import OvalCatalog.Http.Breaker

/-! Downloads: tries are repeated while the server is busy or unreachable, and each call ends as a
success or as one failure of the breaker. -/

namespace OvalCatalog.Http

structure Response where
  status : Int
  reason : Option String := none
  headers : List (String × Option String) := []
  body : List UInt8 := []

inductive ConnectionFault where
  | unreachable
  | timeout
  deriving DecidableEq, Repr

inductive Outcome where
  | response (r : Response)
  | fault (kind : ConnectionFault) (message : String)

inductive CallError where
  | circuitOpen (source : String)
  | status (code : Int) (reason : Option String) (url : String)
  | connection (kind : ConnectionFault) (message : String)
  | noAttempt
  | wait (e : WaitError)
  | badDate (e : Time.DateExcess)

def CallError.message : CallError → String
  | circuitOpen source => source ++ " circuit open"
  | status code reason url =>
    toString code ++ (if code < 500 then " Client" else " Server") ++ " Error: " ++ reason.getD "None" ++
      " for url: " ++ url
  | connection _ message => message
  | noAttempt => "HTTP request failed"
  | wait e => e.message
  | badDate e => e.message

namespace Response

def isRetryable (r : Response) : Bool :=
  [429, 500, 502, 503, 504].contains r.status

def error? (url : String) (r : Response) : Option CallError :=
  if 400 ≤ r.status ∧ r.status < 600 then some (.status r.status r.reason url) else none

def header? (name : String) (r : Response) : Option String :=
  (r.headers.reverse.find? fun h => h.1.toLower == name.toLower).bind (·.2)

end Response

structure Client (τ α : Type) where
  source : String
  config : RetryConfig α
  breaker : Breaker τ

/-- What a call asks for, and what each of its attempts meets. -/
structure Scene (τ α : Type) where
  url : String
  start : τ
  /-- The clock when that many requests are answered. -/
  clock : Nat → τ
  now : Nat → Int
  draw : Nat → α
  outcome : Nat → Outcome
  /-- How the system breaks off the sleep after an attempt. -/
  interruption : Nat → Option String

structure Exchange (τ α : Type) where
  answer : Except CallError (List UInt8)
  requests : Nat
  sleeps : List α
  breaker : Breaker τ

namespace Client

variable {τ α : Type} [Duration α]

def conclude (url : String) (clock : τ) (r : Response) (b : Breaker τ) :
    Except CallError (List UInt8) × Breaker τ :=
  if r.status < 400 then (.ok r.body, b.recordSuccess)
  else
    let b := b.recordFailure clock
    match r.error? url with
    | some e => (.error e, b)
    | none => (.ok r.body, b.recordSuccess)

def finish (url : String) (clock : τ) (o : Outcome) (b : Breaker τ) :
    Except CallError (List UInt8) × Breaker τ :=
  match o with
  | .fault kind message => (.error (.connection kind message), b.recordFailure clock)
  | .response r => conclude url clock r b

def asked (now : Int) : Outcome → Except CallError (Option α)
  | .fault _ _ => .ok none
  | .response r =>
    match RetryAfter.read now (r.header? "Retry-After") with
    | .ok asked => .ok (asked.map RetryAfter.time)
    | .error e => .error (.badDate e)

def wait (c : RetryConfig α) (s : Scene τ α) (attempt : Nat) : Except CallError α := do
  let asked ← asked (s.now attempt) (s.outcome attempt)
  let time := c.delay attempt (s.draw attempt) asked
  match (Duration.refusal? time).or ((s.interruption attempt).map .interrupted) with
  | none => return time
  | some e => throw (.wait e)

def mayRetry : Outcome → Bool
  | .fault _ _ => true
  | .response r => r.isRetryable

/-- The attempt of that number, after which `left` retries are allowed. -/
def attempts (c : RetryConfig α) (s : Scene τ α) (b : Breaker τ) (sleeps : List α) (attempt : Nat) :
    Nat → Exchange τ α
  | 0 =>
    let (answer, b) := finish s.url (s.clock (attempt + 1)) (s.outcome attempt) b
    ⟨answer, attempt + 1, sleeps.reverse, b⟩
  | left + 1 =>
    if mayRetry (s.outcome attempt) then
      match wait c s attempt with
      | .ok time => attempts c s b (time :: sleeps) (attempt + 1) left
      | .error e => ⟨.error e, attempt + 1, sleeps.reverse, b⟩
    else
      let (answer, b) := finish s.url (s.clock (attempt + 1)) (s.outcome attempt) b
      ⟨answer, attempt + 1, sleeps.reverse, b⟩

def get [Sub τ] [LE τ] [DecidableRel (α := τ) (· ≤ ·)] (c : Client τ α) (s : Scene τ α) : Exchange τ α :=
  if !c.breaker.canAttempt s.start then ⟨.error (.circuitOpen c.source), 0, [], c.breaker⟩
  else if c.config.maxRetries < 0 then ⟨.error .noAttempt, 0, [], c.breaker.recordFailure (s.clock 0)⟩
  else attempts c.config s c.breaker [] 0 c.config.maxRetries.toNat

end Client

end OvalCatalog.Http
