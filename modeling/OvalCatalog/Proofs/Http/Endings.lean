import OvalCatalog.Proofs.Http.Protection

/-! How a download ends. The errors that callers are told of are those of the server, of the connection and of
an open breaker. A try that is given up for its wait ends in another error, and the breaker does not learn
of it. -/

namespace OvalCatalog

namespace Time

namespace MailDate

/-- Numbers that do not fit where a date takes its numbers; it is not asked whether there is such a day. -/
def Numbers.Excessive (n : Numbers) : Prop :=
  let seconds := n.zone.getD 0
  999999999 < (seconds / 86400).natAbs ∨
    seconds.natAbs < 86400 ∧ ∃ f ∈ n.fields, f < -(Number.twoTo 31 : Int) ∨ Number.twoTo 31 ≤ f

theorem checkField_error_iff (n : Int) :
    (∃ x, checkField n = .error x) ↔ n < -(Number.twoTo 31 : Int) ∨ Number.twoTo 31 ≤ n := by
  have h31 : (Number.twoTo 31 : Int) = 2147483648 := by decide
  have h63 : (Number.twoTo 63 : Int) = 9223372036854775808 := by decide
  unfold checkField
  rw [h31, h63]
  split
  · exact iff_of_true ⟨_, rfl⟩ (by omega)
  · split
    · exact iff_of_true ⟨_, rfl⟩ (by omega)
    · split
      · exact iff_of_true ⟨_, rfl⟩ (by omega)
      · exact iff_of_false nofun (by omega)

theorem checkZone_error_iff (seconds : Int) :
    (∃ x, checkZone seconds = .error x) ↔ 999999999 < (seconds / 86400).natAbs := by
  have h31 : (Number.twoTo 31 : Int) = 2147483648 := by decide
  unfold checkZone
  dsimp only
  rw [h31]
  generalize seconds / 86400 = days
  split
  · exact iff_of_true ⟨_, rfl⟩ (by omega)
  · split
    · exact iff_of_true ⟨_, rfl⟩ (by omega)
    · exact iff_of_false nofun (by omega)

theorem forM_error_iff {α ε : Type} (check : α → Except ε Unit) (xs : List α) :
    (∃ e, forM xs check = .error e) ↔ ∃ x ∈ xs, ∃ e, check x = .error e := by
  induction xs with
  | nil => exact iff_of_false nofun (by simp)
  | cons x xs ih =>
    simp only [List.forM_cons, bind_eq_error_iff, List.exists_mem_cons_iff, ← ih]
    cases check x <;> simp

end MailDate

theorem readMailDate_error_iff (s : List Char) :
    (∃ x, readMailDate s = .error x) ↔ ∃ n, MailDate.numbers? s = some n ∧ n.Excessive := by
  unfold readMailDate
  cases hn : MailDate.numbers? s with
  | none => exact iff_of_false nofun nofun
  | some n =>
    have hzone := MailDate.checkZone_error_iff (n.zone.getD 0)
    have hfields := MailDate.forM_error_iff MailDate.checkField n.fields
    simp only [MailDate.checkField_error_iff] at hfields
    simp only [Option.some.injEq, exists_eq_left', MailDate.Numbers.Excessive, ← hzone, ← hfields]
    cases MailDate.checkZone (n.zone.getD 0) with
    | error x => exact iff_of_true ⟨x, rfl⟩ (.inl ⟨x, rfl⟩)
    | ok _ =>
      by_cases hday : (n.zone.getD 0).natAbs < 86400
      · simp only [if_neg (Nat.not_le.mpr hday), bind_eq_error_iff]
        simp [hday, pure, Except.pure]
      · simp only [if_pos (Nat.not_lt.mp hday)]
        simp [hday, pure, Except.pure, bind, Except.bind]

end Time

namespace Http

theorem RetryAfter.read_text (now : Int) {text : String} (htext : text ≠ "") :
    read now (some text) = match Number.readReal? text.toList with
      | some n => .ok (some (.seconds n))
      | none => (Time.readMailDate text.toList).map fun t => t.map fun t => .span (max 0 (t - now)) := by
  unfold read
  rw [Option.getD_some]
  split
  · contradiction
  · rfl

theorem RetryAfter.read_error_iff (now : Int) (text : String) :
    (∃ x, read now (some text) = .error x) ↔ ∃ n, Number.readReal? text.toList = none ∧
      Time.MailDate.numbers? text.toList = some n ∧ n.Excessive := by
  by_cases htext : text = ""
  · subst htext
    have hnone : (Time.MailDate.numbers? "".toList).isNone = true := by decide +kernel
    refine iff_of_false nofun fun ⟨n, _, hn, _⟩ => ?_
    rw [hn] at hnone
    cases hnone
  · rw [read_text now htext]
    cases Number.readReal? text.toList with
    | some x => exact iff_of_false nofun nofun
    | none =>
      simp only [true_and, ← Time.readMailDate_error_iff]
      cases Time.readMailDate text.toList with
      | error x => exact iff_of_true ⟨x, rfl⟩ ⟨x, rfl⟩
      | ok t => exact iff_of_false nofun nofun

def Response.AsksTooMuch (r : Response) : Prop :=
  ∃ text n, r.header? "Retry-After" = some text ∧ Number.readReal? text.toList = none ∧
    Time.MailDate.numbers? text.toList = some n ∧ n.Excessive

def CallError.isDocumented : CallError → Bool
  | .circuitOpen _ | .status .. | .connection .. => true
  | .noAttempt | .wait _ | .badDate _ => false

namespace Client

variable {τ α : Type}

theorem finish_documented {url : String} {clock : τ} {o : Outcome} {b : Breaker τ} {e : CallError}
    (h : (finish url clock o b).1 = .error e) : e.isDocumented = true := by
  cases o with
  | fault kind message =>
    cases h
    rfl
  | response r =>
    unfold finish conclude at h
    dsimp only at h
    split at h
    · cases h
    · split at h
      · next e' he =>
        cases h
        obtain ⟨_, he⟩ := Option.ite_none_right_eq_some.mp he
        cases he
        rfl
      · cases h

variable [Duration α]

theorem asked_error_iff (now : Int) (o : Outcome) :
    (∃ e, asked (α := α) now o = .error e) ↔ ∃ r, o = .response r ∧ r.AsksTooMuch := by
  cases o with
  | fault kind message => exact iff_of_false nofun nofun
  | response r =>
    have hasked : (∃ e, asked (α := α) now (.response r) = .error e) ↔
        ∃ x, RetryAfter.read now (r.header? "Retry-After") = .error x := by
      unfold asked
      dsimp only
      cases RetryAfter.read now (r.header? "Retry-After") <;> simp
    rw [hasked]
    simp only [Outcome.response.injEq, exists_eq_left', Response.AsksTooMuch]
    cases r.header? "Retry-After" with
    | none => exact iff_of_false nofun nofun
    | some text => simp only [Option.some.injEq, exists_and_left, exists_eq_left', RetryAfter.read_error_iff]

structure CanWait (c : RetryConfig α) (s : Scene τ α) (attempt : Nat) : Prop where
  readable : ∀ r, s.outcome attempt = .response r → ¬r.AsksTooMuch
  slept : ∀ time, asked (s.now attempt) (s.outcome attempt) = .ok time →
    Duration.refusal? (c.delay attempt (s.draw attempt) time) = none
  undisturbed : s.interruption attempt = none

theorem wait_spec (c : RetryConfig α) (s : Scene τ α) (attempt : Nat) :
    match wait c s attempt with
    | .ok _ => CanWait c s attempt
    | .error e => ¬CanWait c s attempt ∧ e.isDocumented = false := by
  cases hwait : wait c s attempt with
  | ok d =>
    unfold wait at hwait
    obtain ⟨time, hasked, hd⟩ := bind_eq_ok_iff.mp hwait
    dsimp only at hd
    split at hd
    · next hnone =>
      obtain ⟨hslept, hundisturbed⟩ := Option.or_eq_none_iff.mp hnone
      refine ⟨fun r hr hmuch => ?_, fun time' ht => ?_, Option.map_eq_none_iff.mp hundisturbed⟩
      · obtain ⟨e, he⟩ := (asked_error_iff (α := α) (s.now attempt) (s.outcome attempt)).mpr ⟨r, hr, hmuch⟩
        cases hasked.symm.trans he
      · cases hasked.symm.trans ht
        exact hslept
    · cases hd
  | error e =>
    have hundocumented : e.isDocumented = false := by
      obtain ⟨_, rfl⟩ | ⟨_, rfl⟩ := wait_error hwait <;> rfl
    refine ⟨fun h => ?_, hundocumented⟩
    unfold wait at hwait
    rcases bind_eq_error_iff.mp hwait with hasked | ⟨time, hasked, hd⟩
    · obtain ⟨r, hr, hmuch⟩ := (asked_error_iff (α := α) (s.now attempt) (s.outcome attempt)).mp ⟨e, hasked⟩
      exact h.readable r hr hmuch
    · dsimp only at hd
      rw [h.slept time hasked, h.undisturbed] at hd
      cases hd

theorem wait_refused {c : RetryConfig α} {s : Scene τ α} {attempt : Nat} {time : Option α} {x : WaitError}
    (hasked : asked (s.now attempt) (s.outcome attempt) = .ok time)
    (hrefusal : Duration.refusal? (c.delay attempt (s.draw attempt) time) = some x) :
    wait c s attempt = .error (.wait x) := by
  unfold wait
  rw [hasked]
  simp only [bind, Except.bind, hrefusal, Option.some_or]
  rfl

def Waits (c : RetryConfig α) (s : Scene τ α) : Prop :=
  ∀ i : Nat, i < c.maxRetries → (∀ j ≤ i, mayRetry (s.outcome j) = true) → CanWait c s i

theorem not_waits {c : RetryConfig α} {s : Scene τ α} {k : Nat} (hk : k < c.maxRetries)
    (hbefore : ∀ i < k, mayRetry (s.outcome i) = true) (hretry : mayRetry (s.outcome k) = true)
    (hwait : ¬CanWait c s k) : ¬Waits c s := by
  intro h
  apply hwait
  apply h k hk
  intro j hj
  rcases Nat.lt_or_eq_of_le hj with hlt | rfl
  · exact hbefore j hlt
  · exact hretry

theorem attempts_end (c : RetryConfig α) (s : Scene τ α) (b : Breaker τ) (sleeps : List α) (attempt left : Nat) :
    let x := attempts c s b sleeps attempt left
    ∃ k ≤ left, x.requests = attempt + k + 1 ∧
      (∀ i < k, mayRetry (s.outcome (attempt + i)) = true ∧ CanWait c s (attempt + i)) ∧
      ((k = left ∨ mayRetry (s.outcome (attempt + k)) = false) ∧
          (x.answer, x.breaker) = finish s.url (s.clock x.requests) (s.outcome (attempt + k)) b ∨
        k < left ∧ mayRetry (s.outcome (attempt + k)) = true ∧ ¬CanWait c s (attempt + k) ∧
          x.breaker = b ∧ ∃ e, x.answer = .error e ∧ e.isDocumented = false) := by
  induction left generalizing sleeps attempt with
  | zero => exact ⟨0, Nat.le_refl 0, rfl, nofun, .inl ⟨.inl rfl, rfl⟩⟩
  | succ left ih =>
    dsimp only
    rw [attempts]
    have hwait := wait_spec c s attempt
    by_cases hretry : mayRetry (s.outcome attempt) = true
    · rw [if_pos hretry]
      revert hwait
      cases wait c s attempt with
      | ok time =>
        intro hwait
        obtain ⟨k, hk, hrequests, hbefore, hend⟩ := ih (time :: sleeps) (attempt + 1)
        have hshift (i : Nat) : attempt + 1 + i = attempt + (i + 1) := by omega
        simp only [hshift] at hrequests hbefore hend
        refine ⟨k + 1, Nat.succ_le_succ hk, hrequests, fun i hi => ?_, ?_⟩
        · cases i with
          | zero => exact ⟨hretry, hwait⟩
          | succ i => exact hbefore i (Nat.lt_of_succ_lt_succ hi)
        · rcases hend with ⟨hlast, hfinish⟩ | ⟨hlt, hgiven⟩
          · exact .inl ⟨hlast.imp_left (congrArg (· + 1)), hfinish⟩
          · exact .inr ⟨Nat.succ_lt_succ hlt, hgiven⟩
      | error e =>
        rintro ⟨hwait, hundocumented⟩
        exact ⟨0, Nat.zero_le _, rfl, nofun, .inr ⟨Nat.succ_pos left, hretry, hwait, rfl, e, rfl, hundocumented⟩⟩
    · rw [if_neg hretry]
      exact ⟨0, Nat.zero_le _, rfl, nofun, .inl ⟨.inr (Bool.not_eq_true _ ▸ hretry), rfl⟩⟩

section Calls

variable [Sub τ] [LE τ] [DecidableRel (α := τ) (· ≤ ·)]

theorem get_attempted {c : Client τ α} {s : Scene τ α} (h : c.breaker.canAttempt s.start = true)
    (hretries : 0 ≤ c.config.maxRetries) :
    c.get s = attempts c.config s c.breaker [] 0 c.config.maxRetries.toNat := by
  rw [get, h, if_neg (by decide), if_neg (by omega)]

theorem get_without_try {c : Client τ α} {s : Scene τ α} (h : c.breaker.canAttempt s.start = true)
    (hretries : c.config.maxRetries < 0) :
    c.get s = ⟨.error .noAttempt, 0, [], c.breaker.recordFailure (s.clock 0)⟩ := by
  rw [get, h, if_neg (by decide), if_pos hretries]

theorem get_given_up {c : Client τ α} {s : Scene τ α} {e : CallError} (hopen : c.breaker.canAttempt s.start = true)
    (hretries : 0 < c.config.maxRetries) (hretry : mayRetry (s.outcome 0) = true)
    (hwait : wait c.config s 0 = .error e) : c.get s = ⟨.error e, 1, [], c.breaker⟩ := by
  obtain ⟨left, hleft⟩ : ∃ left, c.config.maxRetries.toNat = left + 1 :=
    ⟨c.config.maxRetries.toNat - 1, by omega⟩
  rw [get_attempted hopen (Int.le_of_lt hretries), hleft, attempts, if_pos hretry, hwait]
  rfl

/-- The attempt at which a call ends is the last that is allowed or the first that is not tried again, and its outcome
decides; unless the call cannot make a wait before that. -/
theorem get_ends {c : Client τ α} {s : Scene τ α} (hopen : c.breaker.canAttempt s.start = true)
    (hretries : 0 ≤ c.config.maxRetries) :
    ∃ k : Nat, k ≤ c.config.maxRetries ∧ (c.get s).requests = k + 1 ∧
      (∀ i < k, mayRetry (s.outcome i) = true) ∧
      (Waits c.config s ∧ (k = c.config.maxRetries ∨ mayRetry (s.outcome k) = false) ∧
          ((c.get s).answer, (c.get s).breaker) = finish s.url (s.clock (k + 1)) (s.outcome k) c.breaker ∨
        k < c.config.maxRetries ∧ mayRetry (s.outcome k) = true ∧ ¬CanWait c.config s k ∧
          (c.get s).breaker = c.breaker ∧ ∃ e, (c.get s).answer = .error e ∧ e.isDocumented = false) := by
  obtain ⟨k, hk, hrequests, hbefore, hend⟩ := attempts_end c.config s c.breaker [] 0 c.config.maxRetries.toNat
  rw [← get_attempted hopen hretries] at hrequests hend
  simp only [Nat.zero_add] at hrequests hbefore hend
  refine ⟨k, by omega, hrequests, fun i hi => (hbefore i hi).1, ?_⟩
  rcases hend with ⟨hlast, hfinish⟩ | ⟨hlt, hgiven⟩
  · rw [hrequests] at hfinish
    refine .inl ⟨fun i hi hretry => ?_, hlast.imp_left (by omega), hfinish⟩
    apply (hbefore i _).2
    apply Nat.lt_of_not_le
    intro hki
    rcases hlast with hlast | hlast
    · omega
    · rw [hretry k hki] at hlast
      cases hlast
  · exact .inr ⟨by omega, hgiven⟩

/-- The call gives a body or an error that callers are told of, and the breaker counts one failure more if it
gives an error without being refused. -/
def EndsWell (c : Client τ α) (s : Scene τ α) : Prop :=
  ∀ e, (c.get s).answer = .error e → e.isDocumented = true ∧
    ((∀ source, e ≠ .circuitOpen source) → (c.get s).breaker.failures = c.breaker.failures + 1)

variable [Add τ]

theorem endsWell_of_documented {c : Client τ α} {s : Scene τ α}
    (h : ∀ e, (c.get s).answer = .error e → e.isDocumented = true) : c.EndsWell s := by
  intro e he
  refine ⟨h e he, fun hrefused => ?_⟩
  have hdocumented := h e he
  rw [get_recorded, he]
  cases e with
  | circuitOpen source => exact absurd rfl (hrefused source)
  | status code reason url => rfl
  | connection kind message => rfl
  | noAttempt => cases hdocumented
  | wait x => cases hdocumented
  | badDate x => cases hdocumented

/-- A call ends in a documented way, with a failure recorded for each error but that of an open breaker, just
if the breaker refuses it or it can make each wait that it comes to: no answer asks to wait until a date with
numbers that are too large, and no sleep is refused or broken off. Otherwise the breaker learns nothing of the
call. -/
theorem endsWell_iff (c : Client τ α) (s : Scene τ α) (hretries : 0 ≤ c.config.maxRetries) :
    (c.EndsWell s ↔ (c.breaker.canAttempt s.start = true → Waits c.config s)) ∧
    (¬c.EndsWell s → (c.get s).breaker = c.breaker) := by
  by_cases hopen : c.breaker.canAttempt s.start = true
  · rw [forall_prop_of_true hopen]
    obtain ⟨k, -, -, hbefore, ⟨hwaits, -, hfinish⟩ | ⟨hk, hretry, hwait, hbreaker, e, he, hundocumented⟩⟩ :=
      get_ends hopen hretries
    · have hanswer : (c.get s).answer = (finish s.url (s.clock (k + 1)) (s.outcome k) c.breaker).1 :=
        congrArg Prod.fst hfinish
      have hend : c.EndsWell s := endsWell_of_documented fun e he => finish_documented (hanswer ▸ he)
      exact ⟨iff_of_true hend hwaits, fun h => absurd hend h⟩
    · have hend : ¬c.EndsWell s := by
        intro h
        rw [(h e he).1] at hundocumented
        cases hundocumented
      exact ⟨iff_of_false hend (not_waits hk hbefore hretry hwait), fun _ => hbreaker⟩
  · have hrefused := get_refused (Bool.not_eq_true _ ▸ hopen)
    have hend : c.EndsWell s := by
      intro e he
      rw [hrefused] at he
      cases he
      exact ⟨rfl, fun h => absurd rfl (h c.source)⟩
    exact ⟨iff_of_true hend fun h => absurd h hopen, fun h => absurd hend h⟩

end Calls

end Client

def unavailable (after : String) : Response where
  status := 503
  headers := [("Retry-After", some after)]

def recovering (first : Response) : Scene Int Number.Amount where
  url := "http://h/oval.xml"
  start := 0
  clock _ := 0
  now _ := 0
  draw _ := .whole 0
  outcome
    | 0 => .response first
    | _ => .response { status := 200, body := [120] }
  interruption _ := none

def busy (after : String) : Scene Int Number.Amount :=
  recovering (unavailable after)

def oneRetry : Client Int Number.Amount where
  source := "oval"
  config := ⟨1, .whole 1, .whole 60, .whole 0, .whole 120⟩
  breaker := .fresh 5 300

theorem busy_waits : Client.Waits oneRetry.config (busy "7") := by
  intro i hi _
  obtain rfl : i = 0 := Nat.lt_one_iff.mp (Int.ofNat_lt.mp hi)
  have hwait := Client.wait_spec oneRetry.config (busy "7") 0
  have hok : (Client.wait oneRetry.config (busy "7") 0).toOption.isSome = true := by decide +kernel
  revert hwait hok
  cases Client.wait oneRetry.config (busy "7") 0 with
  | error e => intro _ hok; cases hok
  | ok time => exact fun hwait _ => hwait

theorem endsWell_after_seconds :
    0 ≤ oneRetry.config.maxRetries ∧ oneRetry.EndsWell (busy "7") := by
  have hretries : 0 ≤ oneRetry.config.maxRetries := by decide
  exact ⟨hretries, (Client.endsWell_iff oneRetry (busy "7") hretries).1.mpr fun _ => busy_waits⟩

theorem lost_failure_after_late_date :
    let s := busy "Mon, 01 Jan 99999999999 00:00:00 GMT"
    0 ≤ oneRetry.config.maxRetries ∧
      oneRetry.get s = ⟨.error (.badDate .fieldAboveGreatest), 1, [], oneRetry.breaker⟩ ∧
      ¬oneRetry.EndsWell s := by
  intro s
  have hread : RetryAfter.read 0 ((unavailable "Mon, 01 Jan 99999999999 00:00:00 GMT").header? "Retry-After") =
      .error .fieldAboveGreatest := by
    decide +kernel
  have hwait : Client.wait oneRetry.config s 0 = .error (.badDate .fieldAboveGreatest) := by
    simp only [s, busy, recovering, Client.wait, Client.asked, hread]
    rfl
  have hget : oneRetry.get s = ⟨.error (.badDate .fieldAboveGreatest), 1, [], oneRetry.breaker⟩ :=
    Client.get_given_up rfl (by decide) rfl hwait
  refine ⟨by decide, hget, fun h => ?_⟩
  have hend := (h (.badDate .fieldAboveGreatest) (by rw [hget])).1
  cases hend

end Http

end OvalCatalog
