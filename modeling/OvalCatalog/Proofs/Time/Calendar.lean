import Mathlib.Algebra.Order.Ring.Nat
import OvalCatalog.Time.Moment

namespace OvalCatalog.Time

theorem length_monthLengths (year : Nat) : (monthLengths year).length = 12 :=
  rfl

theorem sum_monthLengths (year : Nat) : (monthLengths year).sum = if isLeap year then 366 else 365 := by
  unfold monthLengths
  cases isLeap year <;> rfl

theorem isLeap_iff (year : Nat) : isLeap year = true ↔ 4 ∣ year ∧ (¬100 ∣ year ∨ 400 ∣ year) := by
  simp only [isLeap, decide_eq_true_eq, Nat.dvd_iff_mod_eq_zero, ne_eq]

theorem daysBeforeYear_succ {year : Nat} (h : 1 ≤ year) :
    daysBeforeYear (year + 1) = daysBeforeYear year + (monthLengths year).sum := by
  obtain ⟨y, rfl⟩ : ∃ y, year = y + 1 := ⟨year - 1, by omega⟩
  have h4 : 100 ∣ y + 1 → 4 ∣ y + 1 := Nat.dvd_trans (by decide)
  have h100 : 400 ∣ y + 1 → 100 ∣ y + 1 := Nat.dvd_trans (by decide)
  have hle : y / 100 ≤ y := Nat.div_le_self y 100
  simp only [sum_monthLengths, isLeap_iff, daysBeforeYear, Nat.add_sub_cancel, Nat.succ_div]
  generalize y / 4 = a, y / 100 = b, y / 400 = c at *
  by_cases h1 : 4 ∣ y + 1 <;> by_cases h2 : 100 ∣ y + 1 <;> by_cases h3 : 400 ∣ y + 1 <;>
    simp_all <;> omega

theorem daysBeforeYear_le {a b : Nat} (h : a ≤ b) : daysBeforeYear a ≤ daysBeforeYear b := by
  induction h with
  | refl => exact Nat.le_refl _
  | @step b _ ih =>
    rcases Nat.eq_zero_or_pos b with rfl | hb
    · exact ih
    · rw [Nat.succ_eq_add_one, daysBeforeYear_succ hb]
      exact Nat.le_add_right_of_le ih

theorem yearOfDay_spec (n : Nat) :
    1 ≤ yearOfDay n ∧ daysBeforeYear (yearOfDay n) ≤ n ∧ n < daysBeforeYear (yearOfDay n + 1) := by
  unfold yearOfDay
  dsimp only
  -- 146097 days are 400 years, so that the guess is never too late and at most one year too early
  split
  · next h =>
    simp only [daysBeforeYear] at h
    omega
  · split
    · next h =>
      refine ⟨by omega, h, ?_⟩
      simp only [daysBeforeYear]
      omega
    · omega

theorem yearOfDay_eq {n year : Nat} (hl : daysBeforeYear year ≤ n) (hr : n < daysBeforeYear (year + 1)) :
    yearOfDay n = year := by
  obtain ⟨h1, hlow, hhigh⟩ := yearOfDay_spec n
  rcases Nat.lt_trichotomy (yearOfDay n) year with hlt | heq | hgt
  · have := daysBeforeYear_le (show yearOfDay n + 1 ≤ year from hlt)
    omega
  · exact heq
  · have := daysBeforeYear_le (show year + 1 ≤ yearOfDay n from hgt)
    omega

theorem daysBeforeMonth_eq (year month : Nat) :
    daysBeforeMonth year month = ((monthLengths year).take (month - 1)).sum :=
  List.sum_eq_foldl.symm

theorem monthOfDay_take {lengths : List Nat} {i r : Nat} (hr : r < lengths.getD i 0) (month : Nat) :
    monthOfDay lengths month ((lengths.take i).sum + r) = (month + i, r) := by
  induction lengths generalizing i month with
  | nil => simp at hr
  | cons length rest ih =>
    cases i with
    | zero =>
      have hr : r < length := hr
      simp [monthOfDay, hr]
    | succ i =>
      have hr : r < rest.getD i 0 := hr
      have hge : ¬length + (rest.take i).sum + r < length := by omega
      have hsub : length + (rest.take i).sum + r - length = (rest.take i).sum + r := by omega
      rw [List.take_succ_cons, List.sum_cons, monthOfDay, if_neg hge, hsub, ih hr]
      simp only [Prod.mk.injEq, and_true]
      omega

theorem exists_take (lengths : List Nat) {n : Nat} (h : n < lengths.sum) :
    ∃ i r, i < lengths.length ∧ r < lengths.getD i 0 ∧ n = (lengths.take i).sum + r := by
  induction lengths generalizing n with
  | nil => simp at h
  | cons length rest ih =>
    rw [List.sum_cons] at h
    by_cases hn : n < length
    · exact ⟨0, n, by simp, hn, by simp⟩
    · obtain ⟨i, r, hi, hr, he⟩ := ih (n := n - length) (by omega)
      refine ⟨i + 1, r, by simpa using hi, hr, ?_⟩
      rw [List.take_succ_cons, List.sum_cons]
      omega

theorem take_sum_add_le (lengths : List Nat) {i : Nat} (hi : i < lengths.length) :
    (lengths.take i).sum + lengths.getD i 0 ≤ lengths.sum := by
  induction lengths generalizing i with
  | nil => simp at hi
  | cons length rest ih =>
    cases i with
    | zero => simp
    | succ i =>
      have := ih (i := i) (by simpa using hi)
      rw [List.take_succ_cons, List.sum_cons, List.sum_cons, List.getD_cons_succ]
      omega

namespace Date

theorem ofDayNumber_eq {n year i r : Nat} (hy : 1 ≤ year) (hi : i < 12)
    (hr : r < (monthLengths year).getD i 0)
    (hn : n = daysBeforeYear year + (((monthLengths year).take i).sum + r)) :
    ofDayNumber n = ⟨year, i + 1, r + 1⟩ := by
  have hmonth := take_sum_add_le (monthLengths year) (i := i) (by rwa [length_monthLengths])
  have hyear : yearOfDay n = year := by
    apply yearOfDay_eq (by omega)
    rw [daysBeforeYear_succ hy]
    omega
  have hsub : n - daysBeforeYear year = ((monthLengths year).take i).sum + r := by omega
  simp only [ofDayNumber, hyear, hsub, monthOfDay_take hr, Nat.add_comm 1 i]

theorem ofDayNumber_dayNumber {d : Date} (h : d.Valid) : ofDayNumber d.dayNumber = d := by
  obtain ⟨year, month, day⟩ := d
  obtain ⟨hy, _, hm, hm', hd, hd'⟩ := h
  dsimp only at hy hm hm' hd hd'
  unfold daysInMonth at hd'
  rw [ofDayNumber_eq hy (i := month - 1) (r := day - 1) (by omega) (by omega)
    (by rw [dayNumber, daysBeforeMonth_eq, Nat.add_assoc])]
  simp only [mk.injEq, true_and]
  omega

theorem valid_ofDayNumber {n : Nat} (h : n < dayCount) :
    (ofDayNumber n).Valid ∧ (ofDayNumber n).dayNumber = n := by
  obtain ⟨hy, hlow, hhigh⟩ := yearOfDay_spec n
  generalize yearOfDay n = year at *
  rw [daysBeforeYear_succ hy] at hhigh
  obtain ⟨i, r, hi, hr, he⟩ := exists_take (monthLengths year) (n := n - daysBeforeYear year) (by omega)
  rw [length_monthLengths] at hi
  rw [ofDayNumber_eq hy hi hr (by omega)]
  have hyear : year ≤ 9999 := by
    by_cases hle : year ≤ 9999
    · exact hle
    · have := daysBeforeYear_le (show 10000 ≤ year by omega)
      rw [dayCount] at h
      omega
  refine ⟨⟨hy, hyear, ?_, ?_, ?_, ?_⟩, ?_⟩
  · exact Nat.le_add_left 1 i
  · exact hi
  · exact Nat.le_add_left 1 r
  · exact hr
  · simp only [dayNumber, daysBeforeMonth_eq, Nat.add_sub_cancel]
    omega

theorem not_valid_ofDayNumber {n : Nat} (h : dayCount ≤ n) : ¬(ofDayNumber n).Valid := by
  rintro ⟨_, hy, _⟩
  have hyear : (ofDayNumber n).year = yearOfDay n := rfl
  have hhigh := (yearOfDay_spec n).2.2
  have := daysBeforeYear_le (show yearOfDay n + 1 ≤ 10000 by omega)
  rw [dayCount] at h
  omega

end Date

def microCount : Nat :=
  dayCount * 86400 * 1000000

theorem lt_microCount_iff (n : Nat) : n < microCount ↔ n / 1000000 / 86400 < dayCount :=
  ((Nat.div_lt_iff_lt_mul (by decide)).trans (Nat.div_lt_iff_lt_mul (by decide))).symm

namespace Timestamp

theorem ofFields?_of_valid (t : Timestamp) :
    ofFields? t.date t.hour t.minute t.second t.microsecond = some t :=
  dif_pos t.valid

theorem ofFields?_eq_some {date : Date} {hour minute second microsecond : Nat} {t : Timestamp}
    (h : ofFields? date hour minute second microsecond = some t) :
    t.date = date ∧ t.hour = hour ∧ t.minute = minute ∧ t.second = second ∧ t.microsecond = microsecond := by
  unfold ofFields? at h
  split at h
  · cases h
    exact ⟨rfl, rfl, rfl, rfl, rfl⟩
  · cases h

theorem ofFields?_eq_none_iff {date : Date} {hour minute second microsecond : Nat} :
    ofFields? date hour minute second microsecond = none ↔
      ¬(date.Valid ∧ hour < 24 ∧ minute < 60 ∧ second < 60 ∧ microsecond < 1000000) := by
  simp only [ofFields?, dite_eq_right_iff, reduceCtorEq, imp_false]

theorem ofMicros?_natCast (n : Nat) :
    ofMicros? n = ofFields? (Date.ofDayNumber (n / 1000000 / 86400)) (n / 1000000 % 86400 / 3600)
      (n / 1000000 % 86400 / 60 % 60) (n / 1000000 % 86400 % 60) (n % 1000000) := by
  rw [ofMicros?, if_neg (by omega), Int.toNat_natCast]

theorem day_micros (t : Timestamp) : t.micros / 1000000 / 86400 = t.date.dayNumber := by
  obtain ⟨_, hh, hm, hs, hf⟩ := t.valid
  simp only [micros, secondOfDay]
  omega

theorem ofMicros?_micros (t : Timestamp) : ofMicros? t.micros = some t := by
  obtain ⟨hd, hh, hm, hs, hf⟩ := t.valid
  have hhour : t.micros / 1000000 % 86400 / 3600 = t.hour := by
    simp only [micros, secondOfDay]
    omega
  have hminute : t.micros / 1000000 % 86400 / 60 % 60 = t.minute := by
    simp only [micros, secondOfDay]
    omega
  have hsecond : t.micros / 1000000 % 86400 % 60 = t.second := by
    simp only [micros, secondOfDay]
    omega
  have hfraction : t.micros % 1000000 = t.microsecond := by
    simp only [micros]
    omega
  rw [ofMicros?_natCast, day_micros, hhour, hminute, hsecond, hfraction, Date.ofDayNumber_dayNumber hd,
    ofFields?_of_valid]

theorem ofMicros?_eq_none_iff (n : Int) : ofMicros? n = none ↔ ¬(0 ≤ n ∧ n < microCount) := by
  rcases Int.lt_or_le n 0 with hn | hn
  · rw [ofMicros?, if_pos hn]
    exact ⟨fun _ h => by omega, fun _ => rfl⟩
  · obtain ⟨n, rfl⟩ := Int.eq_ofNat_of_zero_le hn
    rw [ofMicros?_natCast, ofFields?_eq_none_iff]
    have hcount : (0 ≤ (n : Int) ∧ (n : Int) < microCount) ↔ n / 1000000 / 86400 < dayCount := by
      rw [← lt_microCount_iff, Int.ofNat_lt]
      exact and_iff_right hn
    rw [hcount, not_iff_not]
    constructor
    · intro h
      exact Nat.lt_of_not_le fun hle => Date.not_valid_ofDayNumber hle h.1
    · intro hday
      refine ⟨(Date.valid_ofDayNumber hday).1, ?_, ?_, ?_, ?_⟩ <;> omega

theorem ofMicros?_eq_some_iff (n : Int) (t : Timestamp) : ofMicros? n = some t ↔ (t.micros : Int) = n := by
  constructor
  · intro h
    have hrange : 0 ≤ n ∧ n < microCount := by
      have hsome : ofMicros? n ≠ none := by simp [h]
      rwa [ne_eq, ofMicros?_eq_none_iff, not_not] at hsome
    obtain ⟨n, rfl⟩ := Int.eq_ofNat_of_zero_le hrange.1
    have hday := (Date.valid_ofDayNumber ((lt_microCount_iff n).mp (Int.ofNat_lt.mp hrange.2))).2
    rw [ofMicros?_natCast] at h
    obtain ⟨hd, hh, hm, hs, hf⟩ := ofFields?_eq_some h
    rw [micros, secondOfDay, hd, hday, hh, hm, hs, hf]
    omega
  · rintro rfl
    exact ofMicros?_micros t

end Timestamp

namespace Moment

theorem normalize?_eq (m : Moment) : m.normalize? = Timestamp.ofMicros? m.instant := by
  unfold normalize? instant
  cases m.offset with
  | none => simpa using (Timestamp.ofMicros?_micros m.clock).symm
  | some _ => rfl

theorem normalize?_eq_some_iff (m : Moment) (t : Timestamp) :
    m.normalize? = some t ↔ (t.micros : Int) = m.instant := by
  rw [normalize?_eq, Timestamp.ofMicros?_eq_some_iff]

def InYears (m : Moment) : Prop :=
  0 ≤ m.instant ∧ m.instant < microCount

theorem normalize?_eq_none_iff (m : Moment) : m.normalize? = none ↔ ¬m.InYears := by
  rw [normalize?_eq, Timestamp.ofMicros?_eq_none_iff, InYears]

end Moment

end OvalCatalog.Time
