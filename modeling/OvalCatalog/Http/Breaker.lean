namespace OvalCatalog.Http

structure Breaker (τ : Type) where
  threshold : Int
  openTime : τ
  failures : Nat := 0
  openedAt : Option τ := none

namespace Breaker

variable {τ : Type}

def canAttempt [Sub τ] [LE τ] [DecidableRel (α := τ) (· ≤ ·)] (now : τ) (b : Breaker τ) : Bool :=
  match b.openedAt with
  | none => true
  | some t => b.openTime ≤ now - t

def recordSuccess (b : Breaker τ) : Breaker τ :=
  { b with failures := 0, openedAt := none }

def recordFailure (now : τ) (b : Breaker τ) : Breaker τ :=
  let failures := b.failures + 1
  { b with failures, openedAt := if b.threshold ≤ failures then some now else b.openedAt }

end Breaker

end OvalCatalog.Http
