import OvalCatalog.Http.Client

namespace OvalCatalog.Http

structure Request (η α : Type) where
  method : String
  url : String
  headers : η
  timeout : α

inductive Act (η α : Type) where
  | send (r : Request η α)
  | sleep (time : α)

def Act.sent? {η α : Type} : Act η α → Option (Request η α)
  | send r => some r
  | sleep _ => none

namespace Client

variable {τ α η : Type} [Duration α]

def request (c : RetryConfig α) (s : Scene τ α) (headers : η) : Request η α :=
  ⟨"GET", s.url, headers, c.timeout⟩

def actsFrom (c : RetryConfig α) (s : Scene τ α) (headers : η) (attempt : Nat) : Nat → List (Act η α)
  | 0 => [.send (request c s headers)]
  | left + 1 =>
    .send (request c s headers) ::
      if mayRetry (s.outcome attempt) then
        match wait c s attempt with
        | .ok time => .sleep time :: actsFrom c s headers (attempt + 1) left
        | .error _ => []
      else []

def acts [Sub τ] [LE τ] [DecidableRel (α := τ) (· ≤ ·)] (c : Client τ α) (s : Scene τ α) (headers : η) :
    List (Act η α) :=
  if !c.breaker.canAttempt s.start || c.config.maxRetries < 0 then []
  else actsFrom c.config s headers 0 c.config.maxRetries.toNat

end Client

end OvalCatalog.Http
