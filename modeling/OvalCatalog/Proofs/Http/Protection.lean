import Mathlib.Data.Int.Order.Basic
import Mathlib.Order.Lattice
import OvalCatalog.Http.Client
import OvalCatalog.Proofs.Http.Breaker
import OvalCatalog.Proofs.Result

/-! The breaker protects the server over whole histories of calls. Each call leaves the breaker as the events
that it records do, and calls that are refused record none. -/

namespace OvalCatalog.Http

/-- What the breaker records of a call, as its answer tells. A call that is given up between two tries records
nothing. -/
def recorded {τ : Type} : Except CallError (List UInt8) → List (Event τ)
  | .ok _ => [.success]
  | .error (.circuitOpen _) | .error (.wait _) | .error (.badDate _) => []
  | .error _ => [.failure]

/-- The clocks of a call in a history count from its start. -/
inductive Move (τ α : Type) where
  | get (s : Scene τ α)
  | advance (span : τ)

def Scene.startingAt {τ α : Type} [Add τ] (now : τ) (s : Scene τ α) : Scene τ α :=
  { s with start := now, clock := fun n => now + s.clock n }

namespace Client

variable {τ α : Type}

section Events

variable [Add τ]

theorem conclude_recorded (url : String) (clock : τ) (r : Response) (b : Breaker τ) :
    (conclude url clock r b).2 = b.after clock (recorded (conclude url clock r b).1) := by
  unfold conclude
  split
  · rfl
  · dsimp only
    split
    · next e he =>
      obtain ⟨_, he⟩ := Option.ite_none_right_eq_some.mp he
      cases he
      rfl
    -- a failure and then a success, which leaves nothing of the failure
    · rfl

theorem finish_recorded (url : String) (clock : τ) (o : Outcome) (b : Breaker τ) :
    (finish url clock o b).2 = b.after clock (recorded (finish url clock o b).1) := by
  cases o with
  | fault kind message => rfl
  | response r => exact conclude_recorded url clock r b

end Events

variable [Duration α]

theorem get_refused [Sub τ] [LE τ] [DecidableRel (α := τ) (· ≤ ·)] {c : Client τ α} {s : Scene τ α}
    (h : c.breaker.canAttempt s.start = false) :
    c.get s = ⟨.error (.circuitOpen c.source), 0, [], c.breaker⟩ := by
  rw [get, h]
  rfl

theorem wait_error {c : RetryConfig α} {s : Scene τ α} {attempt : Nat} {e : CallError}
    (h : wait c s attempt = .error e) : (∃ x, e = .badDate x) ∨ ∃ x, e = .wait x := by
  unfold wait at h
  rcases bind_eq_error_iff.mp h with hasked | ⟨time, -, h⟩
  · unfold asked at hasked
    split at hasked
    · cases hasked
    · split at hasked <;> cases hasked
      exact .inl ⟨_, rfl⟩
  · dsimp only at h
    split at h <;> cases h
    exact .inr ⟨_, rfl⟩

variable [Add τ]

theorem attempts_recorded (c : RetryConfig α) (s : Scene τ α) (b : Breaker τ) (sleeps : List α)
    (attempt left : Nat) :
    let x := attempts c s b sleeps attempt left
    x.breaker = b.after (s.clock x.requests) (recorded x.answer) := by
  induction left generalizing sleeps attempt with
  | zero => exact finish_recorded s.url (s.clock (attempt + 1)) (s.outcome attempt) b
  | succ left ih =>
    dsimp only
    rw [attempts]
    split
    · split
      · exact ih ..
      · next hwait => obtain ⟨_, rfl⟩ | ⟨_, rfl⟩ := wait_error hwait <;> rfl
    · exact finish_recorded s.url (s.clock (attempt + 1)) (s.outcome attempt) b

variable [Sub τ] [LE τ] [DecidableRel (α := τ) (· ≤ ·)]

theorem get_recorded (c : Client τ α) (s : Scene τ α) :
    (c.get s).breaker = c.breaker.after (s.clock (c.get s).requests) (recorded (c.get s).answer) := by
  unfold get
  split
  · rfl
  · split
    · rfl
    · exact attempts_recorded ..

def called (now : τ) (s : Scene τ α) (c : Client τ α) : Client τ α :=
  { c with breaker := (c.get (s.startingAt now)).breaker }

def events (now : τ) (s : Scene τ α) (c : Client τ α) : List (Event τ) :=
  let x := c.get (s.startingAt now)
  if c.breaker.canAttempt now then .advance (s.clock x.requests) :: recorded x.answer else []

theorem events_refused {c : Client τ α} {now : τ} (h : c.breaker.canAttempt now = false) (s : Scene τ α) :
    c.events now s = [] := by
  rw [events, h]
  rfl

theorem called_refused {c : Client τ α} {now : τ} (h : c.breaker.canAttempt now = false) (s : Scene τ α) :
    c.called now s = c := by
  have hget : c.get (s.startingAt now) = ⟨.error (.circuitOpen c.source), 0, [], c.breaker⟩ := get_refused h
  rw [called, hget]

theorem called_eq (c : Client τ α) (now : τ) (s : Scene τ α) :
    c.called now s = { c with breaker := c.breaker.after now (c.events now s) } := by
  cases hopen : c.breaker.canAttempt now with
  | false =>
    rw [called_refused hopen, events_refused hopen]
    rfl
  | true =>
    rw [called, get_recorded, events, hopen]
    rfl

def after (c : Client τ α) (now : τ) : List (Move τ α) → Client τ α
  | [] => c
  | .get s :: rest => (c.called now s).after (clockAfter now (c.events now s)) rest
  | .advance span :: rest => c.after (now + span) rest

def transcript (c : Client τ α) (now : τ) : List (Move τ α) → List (Event τ)
  | [] => []
  | .get s :: rest =>
    c.events now s ++ (c.called now s).transcript (clockAfter now (c.events now s)) rest
  | .advance span :: rest => .advance span :: c.transcript (now + span) rest

def served (c : Client τ α) (now : τ) : List (Move τ α) → List (Move τ α)
  | [] => []
  | .get s :: rest =>
    if c.breaker.canAttempt now then
      .get s :: (c.called now s).served (clockAfter now (c.events now s)) rest
    else c.served now rest
  | .advance span :: rest => .advance span :: c.served (now + span) rest

theorem after_eq (c : Client τ α) (now : τ) (moves : List (Move τ α)) :
    c.after now moves = { c with breaker := c.breaker.after now (c.transcript now moves) } := by
  induction moves generalizing c now with
  | nil => rfl
  | cons move rest ih =>
    cases move with
    | get s => rw [after, ih, transcript, Breaker.after_append, called_eq]
    | advance span => exact ih ..

theorem transcript_served (c : Client τ α) (now : τ) (moves : List (Move τ α)) :
    c.transcript now (c.served now moves) = c.transcript now moves := by
  induction moves generalizing c now with
  | nil => rfl
  | cons move rest ih =>
    cases move with
    | get s =>
      rw [served]
      split
      · rw [transcript, transcript, ih]
      · next hrefused =>
        rw [Bool.not_eq_true] at hrefused
        rw [ih, transcript, called_refused hrefused, events_refused hrefused]
        rfl
    | advance span => rw [served, transcript, transcript, ih]

theorem after_served (c : Client τ α) (now : τ) (moves : List (Move τ α)) :
    c.after now (c.served now moves) = c.after now moves := by
  rw [after_eq, after_eq, transcript_served]

end Client

section Protection

variable {τ α : Type} [Add τ] [Sub τ] [LinearOrder τ] [Duration α]

/-- A breaker is open just if it has failed since its last success, as often as its threshold says, and the
last time is less than its open time ago. Hence a failure more opens it for the full time again, and after a
success it opens for nothing less than a threshold of new failures. The breaker of a client is as the events
of its calls leave it, whatever these met. While it is open, calls are refused without a request or a wait,
and it is as if they had not been made. -/
theorem breaker_protects (threshold : Int) (openTime start : τ) :
    let fresh := Breaker.fresh threshold openTime
    (∀ events now, (fresh.after start events).canAttempt now = false ↔
      1 ≤ failuresSince events ∧ threshold ≤ failuresSince events ∧
        ∃ t, LastFailure start events t ∧ now - t < openTime) ∧
    (∀ events, threshold ≤ failuresSince events → ∀ now,
      ((fresh.after start (events ++ [.failure])).canAttempt now = false ↔
        now - clockAfter start events < openTime)) ∧
    (∀ past recent, (∀ e ∈ recent, e.isSuccess = false) → ∀ now,
      ((fresh.after start (past ++ .success :: recent)).canAttempt now = false ↔
        1 ≤ recent.countP Event.isFailure ∧ threshold ≤ recent.countP Event.isFailure ∧
          ∃ t, LastFailure (clockAfter start past) recent t ∧ now - t < openTime)) ∧
    ∀ (source : String) (config : RetryConfig α) (moves : List (Move τ α)),
      let client : Client τ α := ⟨source, config, fresh⟩
      let now := clockAfter start (client.transcript start moves)
      client.after start moves = { client with breaker := fresh.after start (client.transcript start moves) } ∧
      ((client.after start moves).breaker.canAttempt now = false → ∀ s : Scene τ α, s.start = now →
        (client.after start moves).get s =
          ⟨.error (.circuitOpen source), 0, [], (client.after start moves).breaker⟩) ∧
      client.after start (client.served start moves) = client.after start moves := by
  have hopen (start : τ) (events : List (Event τ)) (now : τ) :
      ((Breaker.fresh threshold openTime).after start events).canAttempt now = false ↔
        1 ≤ failuresSince events ∧ threshold ≤ failuresSince events ∧
          ∃ t, LastFailure start events t ∧ now - t < openTime := by
    simp only [Breaker.canAttempt_after, not_le]
  refine ⟨hopen start, fun events hfailed now => ?_, fun past recent hrecent now => ?_,
    fun source config moves => ⟨Client.after_eq .., fun hrefused s hstart => ?_, Client.after_served ..⟩⟩
  · have hagain : threshold ≤ (failuresSince events + 1 : Nat) := by omega
    rw [hopen, failuresSince_snoc, and_iff_right (Nat.le_add_left 1 _), and_iff_right hagain]
    simp only [lastFailure_snoc_failure, exists_eq_left']
  · rw [Breaker.after_success, hopen, failuresSince_eq_countP hrecent]
  · rw [← hstart] at hrefused
    rw [Client.get_refused hrefused, Client.after_eq]

end Protection

def unreachable : Scene Int Number.Amount where
  url := "http://h/oval.xml"
  start := 0
  clock _ := 5
  now _ := 0
  draw _ := .whole 0
  outcome _ := .fault .unreachable "cannot reach"
  interruption _ := none

def singleTry : Client Int Number.Amount where
  source := "oval"
  config := ⟨0, .whole 1, .whole 60, .whole 0, .whole 120⟩
  breaker := .fresh 2 300

theorem breaker_protects_after_two_failures :
    let fresh := Breaker.fresh 2 (300 : Int)
    let twice := singleTry.after 0 [.get unreachable, .advance 10, .get unreachable, .advance 290]
    (fresh.after 0 [.failure, .advance 10, .failure]).canAttempt 309 = false ∧
      (fresh.after 0 [.failure, .failure, .advance 400, .failure]).canAttempt 699 = false ∧
      (fresh.after 0 [.failure, .success, .failure]).canAttempt 0 ≠ false ∧
      twice.get { unreachable with start := 310 } = ⟨.error (.circuitOpen "oval"), 0, [], twice.breaker⟩ := by
  obtain ⟨hopen, hagain, hclosed, hclient⟩ := breaker_protects (α := Number.Amount) 2 (300 : Int) 0
  refine ⟨(hopen _ 309).mpr ⟨by decide, by decide, 10, ⟨[.failure, .advance 10], [], rfl, nofun, rfl⟩, by decide⟩,
    (hagain [.failure, .failure, .advance 400] (by decide) 699).mpr (by decide), fun h => ?_, ?_⟩
  · exact absurd ((hclosed [.failure] [.failure] (by simp [Event.isSuccess]) 0).mp h).2.1 (by decide)
  · exact (hclient "oval" singleTry.config
      [.get unreachable, .advance 10, .get unreachable, .advance 290]).2.1 (by rfl) _ rfl

end OvalCatalog.Http
