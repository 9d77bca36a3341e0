import Mathlib.Order.Bounds.Basic
import OvalCatalog.Http.Traffic
import OvalCatalog.Proofs.Http.Endings

/-! How often a call tries. It tries until an outcome is conclusive or no retry is left, and sleeps once between two
tries; the last outcome alone decides on its answer and on what the breaker learns. -/

namespace OvalCatalog.Http

open Number (Amount)

def Outcome.Conclusive (o : Outcome) : Prop :=
  ∃ r, o = .response r ∧ r.status ∉ [429, 500, 502, 503, 504]

theorem Outcome.conclusive_iff (o : Outcome) : o.Conclusive ↔ Client.mayRetry o = false := by
  cases o with
  | fault kind message => exact iff_of_false nofun nofun
  | response r => simp [Conclusive, Client.mayRetry, Response.isRetryable]

namespace Client

variable {τ α η : Type}

theorem finish_response {url : String} {clock : τ} {b : Breaker τ} {r : Response} (h : r.status < 600) :
    finish url clock (.response r) b =
      if r.status < 400 then (.ok r.body, b.recordSuccess)
      else (.error (.status r.status r.reason url), b.recordFailure clock) := by
  unfold finish conclude
  dsimp only
  split
  · rfl
  · have herror : r.error? url = some (.status r.status r.reason url) := if_pos ⟨by omega, h⟩
    rw [herror]

/-- No error is known for such a status, so that the failure that it is recorded as does not last. -/
theorem finish_strange {url : String} {clock : τ} {b : Breaker τ} {r : Response} (h : 600 ≤ r.status) :
    finish url clock (.response r) b = (.ok r.body, b.recordSuccess) := by
  have herror : r.error? url = none := if_neg (by omega)
  unfold finish conclude
  dsimp only
  rw [if_neg (by omega), herror]
  rfl

variable [Duration α]

theorem actsFrom_eq (c : RetryConfig α) (s : Scene τ α) (headers : η) (b : Breaker τ) (sleeps : List α)
    (attempt left : Nat) :
    let x := attempts c s b sleeps attempt left
    ∃ times, x.sleeps = sleeps.reverse ++ times ∧ x.requests = attempt + times.length + 1 ∧ times.length ≤ left ∧
      (∀ i t, times[i]? = some t → wait c s (attempt + i) = .ok t) ∧
      actsFrom c s headers attempt left =
        .send (request c s headers) :: times.flatMap fun t => [.sleep t, .send (request c s headers)] := by
  induction left generalizing sleeps attempt with
  | zero => exact ⟨[], (List.append_nil _).symm, rfl, Nat.le_refl 0, nofun, rfl⟩
  | succ left ih =>
    dsimp only
    rw [attempts, actsFrom]
    dsimp only
    split
    · cases hwait : wait c s attempt with
      | ok time =>
        obtain ⟨times, hsleeps, hrequests, hlength, htimes, hacts⟩ := ih (time :: sleeps) (attempt + 1)
        refine ⟨time :: times, ?_, ?_, Nat.succ_le_succ hlength, fun i t ht => ?_, ?_⟩
        · simpa using hsleeps
        · rw [hrequests, List.length_cons]
          omega
        · cases i with
          | zero =>
            cases ht
            exact hwait
          | succ i =>
            have hlater := htimes i t ht
            rwa [Nat.add_right_comm] at hlater
        · dsimp only
          rw [hacts]
          rfl
      | error e => exact ⟨[], (List.append_nil _).symm, rfl, Nat.zero_le _, nofun, rfl⟩
    · exact ⟨[], (List.append_nil _).symm, rfl, Nat.zero_le _, nofun, rfl⟩

theorem acts_eq [Sub τ] [LE τ] [DecidableRel (α := τ) (· ≤ ·)] {c : Client τ α} {s : Scene τ α} (headers : η)
    (hopen : c.breaker.canAttempt s.start = true) (hretries : 0 ≤ c.config.maxRetries) :
    (c.get s).requests = (c.get s).sleeps.length + 1 ∧
      c.acts s headers = .send ⟨"GET", s.url, headers, c.config.timeout⟩ ::
        (c.get s).sleeps.flatMap fun t => [.sleep t, .send ⟨"GET", s.url, headers, c.config.timeout⟩] := by
  obtain ⟨times, hsleeps, hrequests, -, -, hacts⟩ :=
    actsFrom_eq c.config s headers c.breaker [] 0 c.config.maxRetries.toNat
  rw [← get_attempted hopen hretries] at hsleeps hrequests
  obtain rfl : (c.get s).sleeps = times := hsleeps
  refine ⟨by omega, ?_⟩
  rw [acts, hopen, if_neg (by simpa using hretries), hacts]
  rfl

theorem isLeast_of_attempts {outcome : Nat → Outcome} {limit : Int} {k : Nat} (hk : k ≤ limit)
    (hbefore : ∀ i < k, mayRetry (outcome i) = true) (hlast : k = limit ∨ mayRetry (outcome k) = false) :
    IsLeast {i : Nat | i = limit ∨ i < limit ∧ (outcome i).Conclusive} k := by
  simp only [Outcome.conclusive_iff]
  constructor
  · rcases hlast with hlast | hlast
    · exact .inl hlast
    · by_cases he : k = limit
      · exact .inl he
      · exact .inr ⟨by omega, hlast⟩
  · rintro i (hi | ⟨_, hi⟩)
    · omega
    · apply Nat.le_of_not_lt
      intro hlt
      rw [hbefore i hlt] at hi
      cases hi

variable [Sub τ] [LE τ] [DecidableRel (α := τ) (· ≤ ·)]

/-- The outcome of that number decides: it is the first that is conclusive, or that of the last try. -/
structure DecidedAt (c : Client τ α) (s : Scene τ α) (headers : η) (k : Nat) : Prop where
  least : IsLeast {i : Nat | i = c.config.maxRetries ∨ i < c.config.maxRetries ∧ (s.outcome i).Conclusive} k
  requests : (c.get s).requests = k + 1
  sleeps : (c.get s).sleeps.length = k
  acts : c.acts s headers = .send ⟨"GET", s.url, headers, c.config.timeout⟩ ::
    (c.get s).sleeps.flatMap fun t => [.sleep t, .send ⟨"GET", s.url, headers, c.config.timeout⟩]
  answer : match s.outcome k with
    | .response r =>
      if r.status < 400 then (c.get s).answer = .ok r.body ∧ (c.get s).breaker.failures = 0
      else (c.get s).answer = .error (.status r.status r.reason s.url) ∧
        (c.get s).breaker.failures = c.breaker.failures + 1
    | .fault kind message => (c.get s).answer = .error (.connection kind message) ∧
        (c.get s).breaker.failures = c.breaker.failures + 1
  attempted : (c.get s).answer ≠ .error .noAttempt

variable {c : Client τ α} {s : Scene τ α} {headers : η} {k : Nat}

theorem decidedAt_of_finish (hopen : c.breaker.canAttempt s.start = true) (hretries : 0 ≤ c.config.maxRetries)
    (hstatus : ∀ i r, s.outcome i = .response r → r.status < 600) (hk : k ≤ c.config.maxRetries)
    (hrequests : (c.get s).requests = k + 1) (hbefore : ∀ i < k, mayRetry (s.outcome i) = true)
    (hlast : k = c.config.maxRetries ∨ mayRetry (s.outcome k) = false)
    (hfinish : ((c.get s).answer, (c.get s).breaker) = finish s.url (s.clock (k + 1)) (s.outcome k) c.breaker) :
    c.DecidedAt s headers k := by
  have hanswer : (c.get s).answer = (finish s.url (s.clock (k + 1)) (s.outcome k) c.breaker).1 :=
    congrArg Prod.fst hfinish
  have hbreaker : (c.get s).breaker = (finish s.url (s.clock (k + 1)) (s.outcome k) c.breaker).2 :=
    congrArg Prod.snd hfinish
  obtain ⟨hcount, hacts⟩ := acts_eq headers hopen hretries
  refine ⟨isLeast_of_attempts hk hbefore hlast, hrequests, by omega, hacts, ?_, fun hnone => ?_⟩
  · rw [hanswer, hbreaker]
    cases ho : s.outcome k with
    | fault kind message => exact ⟨rfl, rfl⟩
    | response r =>
      rw [finish_response (hstatus k r ho)]
      dsimp only
      split
      · exact ⟨rfl, rfl⟩
      · exact ⟨rfl, rfl⟩
  · rw [hanswer] at hnone
    cases finish_documented hnone

theorem DecidedAt.isDocumented (h : c.DecidedAt s headers k) {e : CallError} (he : (c.get s).answer = .error e) :
    e.isDocumented = true := by
  have hanswer := h.answer
  rw [he] at hanswer
  split at hanswer
  · split at hanswer
    · cases hanswer.1
    · cases hanswer.1
      rfl
  · cases hanswer.1
    rfl

/-- A call that the breaker allows is decided by its first outcome that is conclusive, or by that of the last try, just
if it can make each wait that it comes to. It sends one request for each outcome until then, all of them the same, and
sleeps once between two of them. The answer is that of the outcome that decides, and the breaker learns of one success
or of one failure, however often it was tried. A call that cannot make a wait ends there in an error of its own, and
the breaker learns nothing. -/
theorem first_conclusive_decides_iff (c : Client τ α) (s : Scene τ α) (headers : η)
    (hretries : 0 ≤ c.config.maxRetries) (hopen : c.breaker.canAttempt s.start = true)
    (hstatus : ∀ i r, s.outcome i = .response r → r.status < 600) :
    ((∃ k, c.DecidedAt s headers k) ↔ Waits c.config s) ∧
    (¬Waits c.config s → ∃ k : Nat, k < c.config.maxRetries ∧ (∀ j ≤ k, ¬(s.outcome j).Conclusive) ∧
      (c.get s).requests = k + 1 ∧ (c.get s).sleeps.length = k ∧ (c.get s).breaker = c.breaker ∧
      ∃ e, (c.get s).answer = .error e ∧ e.isDocumented = false) := by
  obtain ⟨hcount, -⟩ := acts_eq headers hopen hretries
  obtain ⟨k, hk, hrequests, hbefore, ⟨hwaits, hlast, hfinish⟩ |
    ⟨hlt, hretry, hwait, hbreaker, e, he, hundocumented⟩⟩ := get_ends hopen hretries
  · have hdecided : c.DecidedAt s headers k :=
      decidedAt_of_finish hopen hretries hstatus hk hrequests hbefore hlast hfinish
    exact ⟨iff_of_true ⟨k, hdecided⟩ hwaits, fun h => absurd hwaits h⟩
  · have hundecided : ¬∃ k, c.DecidedAt s headers k := by
      rintro ⟨j, hj⟩
      rw [hj.isDocumented he] at hundocumented
      cases hundocumented
    refine ⟨iff_of_false hundecided (not_waits hlt hbefore hretry hwait),
      fun _ => ⟨k, hlt, fun j hj => ?_, hrequests, by omega, hbreaker, e, he, hundocumented⟩⟩
    rw [Outcome.conclusive_iff, Bool.not_eq_false]
    rcases Nat.lt_or_eq_of_le hj with hbelow | rfl
    · exact hbefore j hbelow
    · exact hretry

end Client

theorem first_conclusive_decides_when_busy :
    let s := busy "7"
    let r : Request Unit Amount := ⟨"GET", s.url, (), oneRetry.config.timeout⟩
    0 ≤ oneRetry.config.maxRetries ∧ oneRetry.breaker.canAttempt s.start = true ∧
      (∀ i r, s.outcome i = .response r → r.status < 600) ∧
      (oneRetry.get s).requests = 2 ∧ (∃ t, oneRetry.acts s () = [.send r, .sleep t, .send r]) ∧
      (oneRetry.get s).answer = .ok [120] ∧ (oneRetry.get s).breaker.failures = 0 := by
  intro s r
  have hretries : 0 ≤ oneRetry.config.maxRetries := by decide
  have hopen : oneRetry.breaker.canAttempt s.start = true := rfl
  have hstatus (i : Nat) (r : Response) (hr : s.outcome i = .response r) : r.status < 600 := by
    cases i with
    | zero =>
      cases hr
      decide
    | succ i =>
      cases hr
      decide
  refine ⟨hretries, hopen, hstatus, ?_⟩
  obtain ⟨k, hk⟩ := (Client.first_conclusive_decides_iff oneRetry s () hretries hopen hstatus).1.mpr busy_waits
  obtain rfl : k = 1 := by
    refine hk.least.unique ⟨.inl rfl, ?_⟩
    rintro i (hi | ⟨hi, hconclusive⟩)
    · exact Nat.le_of_eq (Int.ofNat.inj hi.symm)
    · obtain rfl : i = 0 := Nat.lt_one_iff.mp (Int.ofNat_lt.mp hi)
      cases (Outcome.conclusive_iff _).mp hconclusive
  obtain ⟨t, ht⟩ := List.length_eq_one_iff.mp hk.sleeps
  have hacts := hk.acts
  rw [ht] at hacts
  exact ⟨hk.requests, ⟨t, hacts⟩, hk.answer⟩

def patientForever : Client Int Amount :=
  { oneRetry with config := ⟨1, .whole (Number.tenTo 400), .whole (Number.tenTo 400), .real 0.5, .whole 120⟩ }

/-- A time that is too long to sleep ends the call without a second request and without a failure, whether the server
asks for it or the settings do. -/
theorem undecided_after_long_wait :
    let long := busy "10000000000"
    let silent := { recovering { status := 503 } with draw := fun _ => .real 0.5 }
    Number.readReal? "10000000000".toList = some (.decimal false 10000000000 0) ∧
      oneRetry.get long = ⟨.error (.wait .outOfRange), 1, [], oneRetry.breaker⟩ ∧
      (¬∃ k, oneRetry.DecidedAt long () k) ∧
      patientForever.get silent = ⟨.error (.wait .wholeTooLarge), 1, [], patientForever.breaker⟩ ∧
      ¬∃ k, patientForever.DecidedAt silent () k := by
  intro long silent
  have hundecided {c : Client Int Amount} {s : Scene Int Amount} {x : WaitError}
      (hget : c.get s = ⟨.error (.wait x), 1, [], c.breaker⟩) : ¬∃ k, c.DecidedAt s () k := by
    rintro ⟨k, hk⟩
    cases hk.isDocumented (congrArg Exchange.answer hget)
  have hlong : oneRetry.get long = ⟨.error (.wait .outOfRange), 1, [], oneRetry.breaker⟩ := by
    have hread : RetryAfter.read 0 ((unavailable "10000000000").header? "Retry-After") =
        .ok (some (.seconds (.decimal false 10000000000 0))) := by
      decide +kernel
    have hasked : Client.asked 0 (long.outcome 0) =
        .ok (some (RetryAfter.time (.seconds (.decimal false 10000000000 0)) : Amount)) := by
      simp only [long, busy, recovering, Client.asked, hread, Option.map_some]
    exact Client.get_given_up rfl (by decide) rfl (Client.wait_refused hasked (by decide +kernel))
  have hsilent : patientForever.get silent = ⟨.error (.wait .wholeTooLarge), 1, [], patientForever.breaker⟩ := by
    have hasked : Client.asked 0 (silent.outcome 0) = .ok (none : Option Amount) := rfl
    exact Client.get_given_up rfl (by decide) rfl (Client.wait_refused hasked (by decide +kernel))
  exact ⟨by decide +kernel, hlong, hundecided hlong, hsilent, hundecided hsilent⟩

end OvalCatalog.Http
