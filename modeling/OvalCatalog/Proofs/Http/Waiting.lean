import Mathlib.Algebra.Order.BigOperators.Group.List
import Mathlib.Algebra.Order.Field.Rat
import Mathlib.Tactic.Linarith
import OvalCatalog.Proofs.Http.Retries

/-! How long a call sleeps, reckoned in exact numbers. A sleep lies between the time that doubles with each try, up to
its limit, and that time with its whole share of chance; only a server that asks for more is given more. -/

namespace OvalCatalog

def Number.Real.rat? : Number.Real → Option ℚ
  | .decimal negative mantissa exponent => some ((if negative then -(mantissa : ℚ) else mantissa) * 10 ^ exponent)
  | .notANumber | .infinite _ => none

namespace Http

instance : Duration ℚ where
  ofNat n := n
  ofReal n := n.rat?.getD 0
  ofMicros n := n / 1000000
  refusal? q :=
    let nanos := q * 1000000000
    if nanos < -9223372036854775808 ∨ 9223372036854775807 < nanos then some .outOfRange
    else if nanos < 0 then some .negative
    else none

/-- Seconds: as many nanoseconds as 63 bits can hold. -/
def longestSleep : ℚ := 9223372036854775807 / 1000000000

theorem refusal?_eq_none {q : ℚ} (h : 0 ≤ q) (hlong : q ≤ longestSleep) : Duration.refusal? q = none := by
  have hnanos : 0 ≤ q * 1000000000 := mul_nonneg h (by norm_num)
  have hfits : q * 1000000000 ≤ 9223372036854775807 := (le_div_iff₀ (by norm_num)).mp hlong
  have hrange : ¬(q * 1000000000 < -9223372036854775808 ∨ 9223372036854775807 < q * 1000000000) := by
    rw [not_or, not_lt, not_lt]
    exact ⟨by linarith, hfits⟩
  simp only [Duration.refusal?, if_neg hrange, if_neg (not_lt.mpr hnanos)]

/-- The seconds that a text asks for: a number of them, or those until a date, which are none once it has passed. -/
inductive Means (now : Int) (text : List Char) : ℚ → Prop
  | seconds {n : Number.Real} {q : ℚ} (hn : Number.readReal? text = some n) (hq : n.rat? = some q) : Means now text q
  | date {t : Int} (hn : Number.readReal? text = none) (ht : Time.readMailDate text = .ok (some t)) :
      Means now text (max 0 (((t - now : Int) : ℚ) / 1000000))

def Outcome.Asks (now : Int) (o : Outcome) (q : ℚ) : Prop :=
  ∃ r text, o = .response r ∧ r.header? "Retry-After" = some text ∧ Means now text.toList q

def Outcome.AsksFinite (o : Outcome) : Prop :=
  ∀ r text n, o = .response r → r.header? "Retry-After" = some text → Number.readReal? text.toList = some n →
    ∃ q, n.rat? = some q

theorem asks_iff {r : Response} {text : String} (htext : r.header? "Retry-After" = some text) (now : Int) (q : ℚ) :
    (Outcome.response r).Asks now q ↔ Means now text.toList q := by
  constructor
  · rintro ⟨_, _, ⟨⟩, ht, hq⟩
    cases htext.symm.trans ht
    exact hq
  · intro hq
    exact ⟨r, text, rfl, htext, hq⟩

theorem not_means_of_unreadable {now : Int} {text : List Char} (hn : Number.readReal? text = none)
    (ht : ∀ t, Time.readMailDate text ≠ .ok (some t)) (q : ℚ) : ¬Means now text q := by
  intro hq
  cases hq with
  | seconds hn' => cases hn.symm.trans hn'
  | date _ ht' => exact ht _ ht'

theorem means_seconds_iff {now : Int} {text : List Char} {n : Number.Real} {p : ℚ}
    (hn : Number.readReal? text = some n) (hp : n.rat? = some p) (q : ℚ) : Means now text q ↔ q = p := by
  constructor
  · intro hq
    cases hq with
    | seconds hn' hq =>
      cases hn.symm.trans hn'
      exact Option.some.inj (hq.symm.trans hp)
    | date hn' => cases hn.symm.trans hn'
  · rintro rfl
    exact .seconds hn hp

theorem means_date_iff {now t : Int} {text : List Char} (hn : Number.readReal? text = none)
    (ht : Time.readMailDate text = .ok (some t)) (q : ℚ) :
    Means now text q ↔ q = max 0 (((t - now : Int) : ℚ) / 1000000) := by
  constructor
  · intro hq
    cases hq with
    | seconds hn' => cases hn.symm.trans hn'
    | date _ ht' =>
      cases ht.symm.trans ht'
      rfl
  · rintro rfl
    exact .date hn ht

theorem RetryAfter.time_span (micros : Int) :
    (RetryAfter.span (max 0 micros)).time = max 0 ((micros : ℚ) / 1000000) := by
  change ((max 0 micros : Int) : ℚ) / 1000000 = _
  rcases le_total micros 0 with h | h
  · have hq : (micros : ℚ) ≤ 0 := Int.cast_nonpos.mpr h
    rw [max_eq_left h, max_eq_left (div_nonpos_of_nonpos_of_nonneg hq (by norm_num))]
    norm_num
  · have hq : 0 ≤ (micros : ℚ) := Int.cast_nonneg h
    rw [max_eq_right h, max_eq_right (div_nonneg hq (by norm_num))]

theorem RetryAfter.read_spec (now : Int) {text : String}
    (hfinite : ∀ n, Number.readReal? text.toList = some n → ∃ q, n.rat? = some q) :
    match read now (some text) with
    | .ok wish => ∀ q, Means now text.toList q ↔ wish.map time = some q
    | .error _ => ∀ q, ¬Means now text.toList q := by
  by_cases hempty : text = ""
  · subst hempty
    have hn : Number.readReal? "".toList = none := by decide +kernel
    have ht : (Time.readMailDate "".toList).toOption = some none := by decide +kernel
    intro q
    refine iff_of_false (not_means_of_unreadable hn (fun t h => ?_) q) nofun
    rw [h] at ht
    cases ht
  · rw [read_text now hempty]
    cases hn : Number.readReal? text.toList with
    | some n =>
      obtain ⟨p, hp⟩ := hfinite n hn
      have htime : (RetryAfter.seconds n).time = p := by
        change n.rat?.getD 0 = p
        rw [hp, Option.getD_some]
      intro q
      rw [means_seconds_iff hn hp, Option.map_some, htime, Option.some.injEq, eq_comm]
    | none =>
      cases ht : Time.readMailDate text.toList with
      | error e => exact not_means_of_unreadable hn fun t h => nomatch ht.symm.trans h
      | ok date =>
        cases date with
        | none =>
          intro q
          refine iff_of_false (not_means_of_unreadable hn (fun t h => ?_) q) nofun
          cases ht.symm.trans h
        | some t =>
          intro q
          simp only [means_date_iff hn ht, Option.map_some, time_span, Option.some.injEq, eq_comm]

namespace Client

variable {τ : Type}

theorem asked_spec (now : Int) {o : Outcome} (hfinite : o.AsksFinite) :
    match asked now o with
    | .ok wish => ∀ q, o.Asks now q ↔ wish = some q
    | .error _ => ∀ q, ¬o.Asks now q := by
  cases o with
  | fault kind message =>
    intro q
    refine iff_of_false ?_ nofun
    rintro ⟨r, text, ⟨⟩, -⟩
  | response r =>
    unfold asked
    dsimp only
    cases htext : r.header? "Retry-After" with
    | none =>
      intro q
      refine iff_of_false ?_ nofun
      rintro ⟨_, text, ⟨⟩, ht, -⟩
      cases htext.symm.trans ht
    | some text =>
      have hread := RetryAfter.read_spec now fun n => hfinite r text n rfl htext
      simp only [asks_iff htext]
      revert hread
      cases RetryAfter.read now (some text) with
      | ok wish => exact id
      | error e => exact id

theorem delay_of_wait {c : RetryConfig ℚ} {s : Scene τ ℚ} {i : Nat} {d : ℚ} (h : wait c s i = .ok d) :
    ∃ wish, asked (s.now i) (s.outcome i) = .ok wish ∧ c.delay i (s.draw i) wish = d := by
  unfold wait at h
  obtain ⟨wish, hwish, hd⟩ := bind_eq_ok_iff.mp h
  dsimp only at hd
  split at hd <;> cases hd
  exact ⟨wish, hwish, rfl⟩

theorem wait_cases {c : RetryConfig ℚ} {s : Scene τ ℚ} {i : Nat} {d : ℚ} (hfinite : (s.outcome i).AsksFinite)
    (h : wait c s i = .ok d) :
    (∀ q, ¬(s.outcome i).Asks (s.now i) q) ∧ d = c.jittered i (s.draw i) ∨
      ∃ p, (∀ q, (s.outcome i).Asks (s.now i) q ↔ q = p) ∧ d = max (c.jittered i (s.draw i)) p := by
  obtain ⟨wish, hwish, rfl⟩ := delay_of_wait h
  have hasks := asked_spec (s.now i) hfinite
  rw [hwish] at hasks
  cases wish with
  | none =>
    left
    refine ⟨fun q hq => ?_, rfl⟩
    cases (hasks q).mp hq
  | some p =>
    right
    refine ⟨p, fun q => ?_, rfl⟩
    rw [hasks, Option.some.injEq, eq_comm]

end Client

namespace RetryConfig

structure NonNegative (c : RetryConfig ℚ) : Prop where
  base : 0 ≤ c.baseDelay
  limit : 0 ≤ c.maxDelay
  jitter : 0 ≤ c.jitterRatio

def backoff (c : RetryConfig ℚ) (i : Nat) : ℚ :=
  min c.maxDelay (c.baseDelay * 2 ^ i)

def most (c : RetryConfig ℚ) (i : Nat) : ℚ :=
  c.backoff i * (1 + c.jitterRatio)

theorem baseTime_eq (c : RetryConfig ℚ) (i : Nat) : c.baseTime i = c.backoff i := by
  have hpower : (Duration.ofNat (Number.twoTo i) : ℚ) = 2 ^ i := Nat.cast_pow 2 i
  rw [RetryConfig.baseTime, hpower]
  rfl

theorem jittered_eq (c : RetryConfig ℚ) (i : Nat) (draw : ℚ) :
    c.jittered i draw = c.backoff i * (1 + c.jitterRatio * draw) := by
  rw [RetryConfig.jittered, baseTime_eq]
  exact (mul_one_add _ _).symm

namespace NonNegative

variable {c : RetryConfig ℚ} {i : Nat} {draw : ℚ}

theorem backoff_mono (hc : c.NonNegative) {i j : Nat} (h : i ≤ j) : c.backoff i ≤ c.backoff j := by
  have hpower : (2 : ℚ) ^ i ≤ 2 ^ j := pow_le_pow_right₀ (by norm_num) h
  apply min_le_min_left
  exact mul_le_mul_of_nonneg_left hpower hc.base

theorem backoff_nonneg (hc : c.NonNegative) (i : Nat) : 0 ≤ c.backoff i := by
  apply le_min hc.limit
  exact mul_nonneg hc.base (pow_nonneg (by norm_num) i)

theorem backoff_le_jittered (hc : c.NonNegative) (hdraw : 0 ≤ draw) : c.backoff i ≤ c.jittered i draw := by
  have hshare : 0 ≤ c.jitterRatio * draw := mul_nonneg hc.jitter hdraw
  rw [jittered_eq]
  apply le_mul_of_one_le_right (hc.backoff_nonneg i)
  linarith

theorem jittered_le (hc : c.NonNegative) (hdraw : draw ≤ 1) : c.jittered i draw ≤ c.most i := by
  have hshare : c.jitterRatio * draw ≤ c.jitterRatio := mul_le_of_le_one_right hc.jitter hdraw
  rw [jittered_eq]
  apply mul_le_mul_of_nonneg_left _ (hc.backoff_nonneg i)
  linarith

end NonNegative

end RetryConfig

namespace Client

section Sleeps

variable {τ α : Type} [Duration α] [Sub τ] [LE τ] [DecidableRel (α := τ) (· ≤ ·)]

theorem get_sleeps (c : Client τ α) (s : Scene τ α) :
    (c.get s).sleeps.length = (c.get s).requests - 1 ∧ (c.get s).sleeps.length ≤ c.config.maxRetries.toNat ∧
      ∀ i d, (c.get s).sleeps[i]? = some d → wait c.config s i = .ok d := by
  by_cases hopen : c.breaker.canAttempt s.start = true
  · rcases Int.lt_or_le c.config.maxRetries 0 with hretries | hretries
    · rw [get_without_try hopen hretries]
      exact ⟨rfl, Nat.zero_le _, by simp⟩
    · obtain ⟨times, hsleeps, hrequests, hlength, htimes, -⟩ :=
        actsFrom_eq c.config s () c.breaker [] 0 c.config.maxRetries.toNat
      rw [← get_attempted hopen hretries] at hsleeps hrequests
      obtain rfl : (c.get s).sleeps = times := hsleeps
      simp only [Nat.zero_add] at hrequests htimes
      exact ⟨by omega, hlength, htimes⟩
  · rw [get_refused (Bool.not_eq_true _ ▸ hopen)]
    exact ⟨rfl, Nat.zero_le _, by simp⟩

theorem lt_length_sleeps {c : Client τ α} {s : Scene τ α} {i : Nat} (hopen : c.breaker.canAttempt s.start = true)
    (hi : i < c.config.maxRetries) (hretry : ∀ j ≤ i, mayRetry (s.outcome j) = true ∧ CanWait c.config s j) :
    i < (c.get s).sleeps.length := by
  obtain ⟨hlength, -⟩ := c.get_sleeps s
  obtain ⟨k, -, hrequests, -, hend⟩ := get_ends (c := c) hopen (by omega)
  have hik : i < k := by
    apply Nat.lt_of_not_le
    intro hki
    rcases hend with ⟨-, hlast | hlast, -⟩ | ⟨-, -, hwait, -⟩
    · omega
    · rw [(hretry k hki).1] at hlast
      cases hlast
    · exact hwait (hretry k hki).2
  omega

end Sleeps

end Client

structure RetryConfig.MaySleep {τ : Type} (c : RetryConfig ℚ) (s : Scene τ ℚ) (i : Nat) : Prop where
  retried : Client.mayRetry (s.outcome i) = true
  readable : ∀ r, s.outcome i = .response r → ¬r.AsksTooMuch
  most_le : c.most i ≤ longestSleep
  wish_le : ∀ q, (s.outcome i).Asks (s.now i) q → q ≤ longestSleep
  undisturbed : s.interruption i = none

namespace Client

variable {τ : Type}

theorem canWait_of_maySleep {c : RetryConfig ℚ} {s : Scene τ ℚ} {i : Nat} (hc : c.NonNegative)
    (hdraw : 0 ≤ s.draw i ∧ s.draw i ≤ 1) (hfinite : (s.outcome i).AsksFinite) (h : c.MaySleep s i) :
    CanWait c s i := by
  have hlow : 0 ≤ c.jittered i (s.draw i) := (hc.backoff_nonneg i).trans (hc.backoff_le_jittered hdraw.1)
  have hhigh : c.jittered i (s.draw i) ≤ longestSleep := (hc.jittered_le hdraw.2).trans h.most_le
  refine ⟨h.readable, fun wish hwish => ?_, h.undisturbed⟩
  have hasks := asked_spec (s.now i) hfinite
  rw [hwish] at hasks
  cases wish with
  | none => exact refusal?_eq_none hlow hhigh
  | some p =>
    have hp : p ≤ longestSleep := h.wish_le p ((hasks p).mpr rfl)
    exact refusal?_eq_none (le_max_of_le_left hlow) (max_le hhigh hp)

variable [Sub τ] [LE τ] [DecidableRel (α := τ) (· ≤ ·)]

/-- A call that may be tried again sleeps before it is, if it can. It sleeps at least the time that doubles with each
try, and at least what the server asks for, where a date counts from the response that names it; and at most that time
with its whole share of chance, or just what the server asks for where that is more. -/
theorem sleeps_in_window (c : Client τ ℚ) (s : Scene τ ℚ) (hc : c.config.NonNegative)
    (hdraws : ∀ i, 0 ≤ s.draw i ∧ s.draw i ≤ 1) (hfinite : ∀ i, (s.outcome i).AsksFinite) :
    (∀ i d, (c.get s).sleeps[i]? = some d → c.config.backoff i ≤ d ∧
      (∀ q, (s.outcome i).Asks (s.now i) q → q ≤ d) ∧
      ((∀ q, (s.outcome i).Asks (s.now i) q → q ≤ c.config.most i) → d ≤ c.config.most i) ∧
      ∀ q, (s.outcome i).Asks (s.now i) q → c.config.most i < q → d = q) ∧
    (∀ kind message now q, ¬(Outcome.fault kind message).Asks now q) ∧
    (∀ r, (∀ text, r.header? "Retry-After" = some text → Number.readReal? text.toList = none ∧
      ∀ t, Time.readMailDate text.toList ≠ .ok (some t)) → ∀ now q, ¬(Outcome.response r).Asks now q) ∧
    (∀ i j, i ≤ j → c.config.backoff i ≤ c.config.backoff j) ∧
    (c.get s).sleeps.length = (c.get s).requests - 1 ∧
    ∀ i : Nat, c.breaker.canAttempt s.start = true → i < c.config.maxRetries →
      (∀ j ≤ i, c.config.MaySleep s j) → i < (c.get s).sleeps.length := by
  refine ⟨fun i d hd => ?_, ?_, ?_, fun i j => hc.backoff_mono, (c.get_sleeps s).1, fun i hopen hi hsleep => ?_⟩
  · have hlow : c.config.backoff i ≤ c.config.jittered i (s.draw i) := hc.backoff_le_jittered (hdraws i).1
    have hhigh : c.config.jittered i (s.draw i) ≤ c.config.most i := hc.jittered_le (hdraws i).2
    rcases wait_cases (hfinite i) ((c.get_sleeps s).2.2 i d hd) with ⟨hnone, rfl⟩ | ⟨p, hp, rfl⟩
    · exact ⟨hlow, fun q hq => absurd hq (hnone q), fun _ => hhigh, fun q hq => absurd hq (hnone q)⟩
    · refine ⟨le_max_of_le_left hlow, fun q hq => ?_, fun hless => ?_, fun q hq hmore => ?_⟩
      · rw [(hp q).mp hq]
        exact le_max_right _ _
      · exact max_le hhigh (hless p ((hp p).mpr rfl))
      · obtain rfl := (hp q).mp hq
        exact max_eq_right (hhigh.trans hmore.le)
  · rintro kind message now q ⟨r, text, ⟨⟩, -⟩
  · rintro _ hsilent now q ⟨r, text, ⟨⟩, htext, hq⟩
    obtain ⟨hn, ht⟩ := hsilent text htext
    exact not_means_of_unreadable hn ht q hq
  · refine lt_length_sleeps hopen hi fun j hj => ⟨(hsleep j hj).retried, ?_⟩
    exact canWait_of_maySleep hc (hdraws j) (hfinite j) (hsleep j hj)

end Client

def patient (limit : ℚ) : Client Int ℚ where
  source := "oval"
  config := ⟨2, 1, limit, 1 / 2, 120⟩
  breaker := .fresh 5 300

theorem patient_nonNegative {limit : ℚ} (h : 0 ≤ limit) : (patient limit).config.NonNegative :=
  ⟨by norm_num [patient], h, by norm_num [patient]⟩

def halfMinute : String := "Thu, 01 Jan 2099 00:00:30 GMT"

theorem halfMinute_header : (unavailable halfMinute).header? "Retry-After" = some halfMinute := by decide +kernel

theorem halfMinute_no_number : Number.readReal? halfMinute.toList = none := by decide +kernel

theorem halfMinute_date : Time.readMailDate halfMinute.toList = .ok (some 66206505630000000) :=
  eq_ok_of_toOption (by decide +kernel)

theorem halfMinute_readable : ¬(unavailable halfMinute).AsksTooMuch := by
  rintro ⟨text, n, htext, -, hnumbers, hmuch⟩
  cases halfMinute_header.symm.trans htext
  obtain ⟨x, hx⟩ := (Time.readMailDate_error_iff _).mpr ⟨n, hnumbers, hmuch⟩
  cases halfMinute_date.symm.trans hx

theorem halfMinute_asks (now : Int) (q : ℚ) :
    (Outcome.response (unavailable halfMinute)).Asks now q ↔
      q = max 0 (((66206505630000000 - now : Int) : ℚ) / 1000000) :=
  (asks_iff halfMinute_header now q).trans (means_date_iff halfMinute_no_number halfMinute_date q)

/-- Names the same date twice, thirty seconds ahead of its first answer and two ahead of its second. -/
def patientServer : Scene Int ℚ where
  url := "http://h/oval.xml"
  start := 0
  clock _ := 0
  now
    | 0 => 66206505600000000
    | _ => 66206505628000000
  draw _ := 1
  outcome
    | 0 | 1 => .response (unavailable halfMinute)
    | _ => .response { status := 200, body := [120] }
  interruption _ := none

theorem patientServer_finite (i : Nat) : (patientServer.outcome i).AsksFinite := by
  rintro r text n hr htext hnumber
  match i, hr with
  | 0, rfl | 1, rfl =>
    cases halfMinute_header.symm.trans htext
    cases halfMinute_no_number.symm.trans hnumber
  | i + 2, rfl => cases htext

theorem patientServer_asks_first (q : ℚ) : (patientServer.outcome 0).Asks (patientServer.now 0) q ↔ q = 30 := by
  have hseconds : max 0 (((66206505630000000 - 66206505600000000 : Int) : ℚ) / 1000000) = 30 := by norm_num
  rw [← hseconds]
  exact halfMinute_asks _ q

theorem patientServer_asks_second (q : ℚ) : (patientServer.outcome 1).Asks (patientServer.now 1) q ↔ q = 2 := by
  have hseconds : max 0 (((66206505630000000 - 66206505628000000 : Int) : ℚ) / 1000000) = 2 := by norm_num
  rw [← hseconds]
  exact halfMinute_asks _ q

theorem patientServer_maySleep {i : Nat} (hi : i ≤ 1) : (patient 60).config.MaySleep patientServer i := by
  match i, hi with
  | 0, _ =>
    refine ⟨rfl, ?_, by decide +kernel, fun q hq => ?_, rfl⟩
    · rintro r ⟨⟩
      exact halfMinute_readable
    · rw [(patientServer_asks_first q).mp hq]
      norm_num [longestSleep]
  | 1, _ =>
    refine ⟨rfl, ?_, by decide +kernel, fun q hq => ?_, rfl⟩
    · rintro r ⟨⟩
      exact halfMinute_readable
    · rw [(patientServer_asks_second q).mp hq]
      norm_num [longestSleep]

theorem sleeps_in_window_until_date :
    let s := patientServer
    (patient 60).config.NonNegative ∧ (∀ i, 0 ≤ s.draw i ∧ s.draw i ≤ 1) ∧ (∀ i, (s.outcome i).AsksFinite) ∧
      (s.outcome 0).Asks (s.now 0) 30 ∧ ((patient 60).get s).sleeps[0]? = some 30 ∧
      ∃ d, ((patient 60).get s).sleeps[1]? = some d ∧ 2 ≤ d ∧ d ≤ 3 := by
  intro s
  have hconfig := patient_nonNegative (show (0 : ℚ) ≤ 60 by norm_num)
  have hdraws (i : Nat) : 0 ≤ s.draw i ∧ s.draw i ≤ 1 := ⟨by norm_num [s, patientServer], by norm_num [s, patientServer]⟩
  obtain ⟨hwindow, -, -, -, -, hlength⟩ :=
    Client.sleeps_in_window (patient 60) s hconfig hdraws patientServer_finite
  have hfirst : 0 < ((patient 60).get s).sleeps.length :=
    hlength 0 rfl (by decide) fun j hj => patientServer_maySleep (Nat.le_succ_of_le hj)
  have hsecond : 1 < ((patient 60).get s).sleeps.length :=
    hlength 1 rfl (by decide) fun j => patientServer_maySleep
  have hasks := (patientServer_asks_first 30).mpr rfl
  refine ⟨hconfig, hdraws, patientServer_finite, hasks, ?_, _, List.getElem?_eq_getElem hsecond, ?_⟩
  · have hless : (patient 60).config.most 0 < 30 := by decide +kernel
    obtain ⟨-, -, -, hexact⟩ := hwindow 0 _ (List.getElem?_eq_getElem hfirst)
    rw [List.getElem?_eq_getElem hfirst, hexact 30 hasks hless]
  · have hleast : (patient 60).config.backoff 1 = 2 := by decide +kernel
    have hmost : (patient 60).config.most 1 = 3 := by decide +kernel
    obtain ⟨hlow, -, hhigh, -⟩ := hwindow 1 _ (List.getElem?_eq_getElem hsecond)
    refine ⟨hleast.ge.trans hlow, (hhigh fun q hq => ?_).trans hmost.le⟩
    rw [(patientServer_asks_second q).mp hq, hmost]
    norm_num

namespace Client

variable {τ : Type} [Sub τ] [LE τ] [DecidableRel (α := τ) (· ≤ ·)]

/-- The limit holds for the time before the share of chance: no sleep is longer than the limit and its whole share. A
sleep without such a share keeps the limit itself, and one that has come to the limit is longer by its share. -/
theorem sleeps_bounded (c : Client τ ℚ) (s : Scene τ ℚ) (hretries : 0 ≤ c.config.maxRetries)
    (hc : c.config.NonNegative) (hdraws : ∀ i, 0 ≤ s.draw i ∧ s.draw i ≤ 1)
    (hsilent : ∀ i r, s.outcome i = .response r → r.header? "Retry-After" = none) :
    (∀ d ∈ (c.get s).sleeps, d ≤ c.config.maxDelay * (1 + c.config.jitterRatio)) ∧
    (c.get s).sleeps.sum ≤ c.config.maxRetries * (c.config.maxDelay * (1 + c.config.jitterRatio)) ∧
    ∀ i d, (c.get s).sleeps[i]? = some d →
      (c.config.jitterRatio * s.draw i = 0 → d ≤ c.config.maxDelay) ∧
      (c.config.maxDelay ≤ c.config.baseDelay * 2 ^ i → d = c.config.maxDelay * (1 + c.config.jitterRatio * s.draw i)) := by
  have hsleep (i : Nat) (d : ℚ) (hd : (c.get s).sleeps[i]? = some d) : d = c.config.jittered i (s.draw i) := by
    have hnone (q : ℚ) : ¬(s.outcome i).Asks (s.now i) q := by
      rintro ⟨r, text, hr, htext, -⟩
      cases (hsilent i r hr).symm.trans htext
    have hfinite : (s.outcome i).AsksFinite := fun r text n hr htext => nomatch (hsilent i r hr).symm.trans htext
    rcases wait_cases hfinite ((c.get_sleeps s).2.2 i d hd) with ⟨-, hj⟩ | ⟨p, hp, -⟩
    · exact hj
    · exact absurd ((hp p).mpr rfl) (hnone p)
  have hlimit (i : Nat) : c.config.backoff i ≤ c.config.maxDelay := min_le_left _ _
  have hbound : ∀ d ∈ (c.get s).sleeps, d ≤ c.config.maxDelay * (1 + c.config.jitterRatio) := by
    intro d hd
    obtain ⟨i, hi⟩ := List.getElem?_of_mem hd
    rw [hsleep i d hi]
    have hone : 0 ≤ 1 + c.config.jitterRatio := by linarith [hc.jitter]
    exact (hc.jittered_le (hdraws i).2).trans (mul_le_mul_of_nonneg_right (hlimit i) hone)
  refine ⟨hbound, ?_, fun i d hd => ⟨fun hzero => ?_, fun hreached => ?_⟩⟩
  · have hlength : ((c.get s).sleeps.length : ℚ) ≤ c.config.maxRetries := by
      have hcount : ((c.get s).sleeps.length : Int) ≤ c.config.maxRetries := by
        have hle := (c.get_sleeps s).2.1
        omega
      exact_mod_cast hcount
    have hnonneg : 0 ≤ c.config.maxDelay * (1 + c.config.jitterRatio) := by
      apply mul_nonneg hc.limit
      linarith [hc.jitter]
    calc (c.get s).sleeps.sum
        ≤ (c.get s).sleeps.length • (c.config.maxDelay * (1 + c.config.jitterRatio)) :=
          List.sum_le_card_nsmul _ _ hbound
      _ = (c.get s).sleeps.length * (c.config.maxDelay * (1 + c.config.jitterRatio)) := nsmul_eq_mul _ _
      _ ≤ c.config.maxRetries * (c.config.maxDelay * (1 + c.config.jitterRatio)) :=
          mul_le_mul_of_nonneg_right hlength hnonneg
  · rw [hsleep i d hd, RetryConfig.jittered_eq, hzero, add_zero, mul_one]
    exact hlimit i
  · rw [hsleep i d hd, RetryConfig.jittered_eq, RetryConfig.backoff, min_eq_left hreached]

end Client

def unlucky (first : Response) : Scene Int ℚ where
  url := "http://h/oval.xml"
  start := 0
  clock _ := 0
  now _ := 0
  draw _ := 1
  outcome
    | 0 => .response first
    | 1 => .fault .timeout "timed out"
    | _ => .response { status := 200, body := [120] }
  interruption _ := none

theorem unlucky_draws (first : Response) (i : Nat) : 0 ≤ (unlucky first).draw i ∧ (unlucky first).draw i ≤ 1 :=
  ⟨by norm_num [unlucky], by norm_num [unlucky]⟩

theorem unlucky_silent (i : Nat) (r : Response) (hr : (unlucky { status := 503 }).outcome i = .response r) :
    r.header? "Retry-After" = none := by
  match i, hr with
  | 0, rfl => rfl
  | i + 2, rfl => rfl

theorem sleeps_bounded_without_wish :
    let s := unlucky { status := 503 }
    0 ≤ (patient 1).config.maxRetries ∧ (patient 1).config.NonNegative ∧ (∀ i, 0 ≤ s.draw i ∧ s.draw i ≤ 1) ∧
      (∀ i r, s.outcome i = .response r → r.header? "Retry-After" = none) ∧
      (∀ d ∈ ((patient 1).get s).sleeps, d ≤ 3 / 2) ∧ ((patient 1).get s).sleeps.sum ≤ 3 := by
  intro s
  have hretries : 0 ≤ (patient 1).config.maxRetries := by decide
  have hconfig := patient_nonNegative (show (0 : ℚ) ≤ 1 by norm_num)
  have hdraws := unlucky_draws { status := 503 }
  obtain ⟨heach, hsum, -⟩ := Client.sleeps_bounded (patient 1) s hretries hconfig hdraws unlucky_silent
  refine ⟨hretries, hconfig, hdraws, unlucky_silent, fun d hd => (heach d hd).trans ?_, hsum.trans ?_⟩
  · norm_num [patient]
  · norm_num [patient]

theorem jitter_exceeds_limit :
    let s := unlucky { status := 503 }
    0 ≤ (patient 1).config.maxRetries ∧ (patient 1).config.NonNegative ∧ (∀ i, 0 ≤ s.draw i ∧ s.draw i ≤ 1) ∧
      (∀ i r, s.outcome i = .response r → r.header? "Retry-After" = none) ∧
      ((patient 1).get s).sleeps = [3 / 2, 3 / 2] ∧
      ¬(∀ d ∈ ((patient 1).get s).sleeps, d ≤ (patient 1).config.maxDelay) ∧
      ¬((patient 1).get s).sleeps.sum ≤ (patient 1).config.maxRetries * (patient 1).config.maxDelay := by
  intro s
  have hsleeps : ((patient 1).get s).sleeps = [3 / 2, 3 / 2] := by decide +kernel
  refine ⟨by decide, patient_nonNegative (by norm_num), unlucky_draws _, unlucky_silent, hsleeps, ?_, ?_⟩
  · rw [hsleeps]
    norm_num [patient]
  · rw [hsleeps]
    norm_num [patient]

end Http

end OvalCatalog
