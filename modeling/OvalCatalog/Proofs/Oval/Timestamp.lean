import OvalCatalog.Oval.Document
import OvalCatalog.Proofs.Time.Reading

namespace OvalCatalog

namespace Time

open Reading (Format Parts)

theorem daysInMonth_le (year month : Nat) : daysInMonth year month ≤ 31 := by
  have hall : ∀ length ∈ monthLengths year, length ≤ 31 := by
    intro length hlength
    simp only [monthLengths, List.mem_cons, List.not_mem_nil, or_false] at hlength
    split at hlength <;> omega
  rw [daysInMonth, List.getD_eq_getElem?_getD]
  cases hmonth : (monthLengths year)[month - 1]? with
  | none => exact Nat.zero_le _
  | some length => exact hall length (List.mem_of_getElem? hmonth)

namespace Reading

theorem sexagesimal?_padded {n : Nat} (hn : n < 60) : sexagesimal? (Text.padded 2 n).toList = some n := by
  have hall : ∀ n < 60, sexagesimal? [(n / 10).digitChar, (n % 10).digitChar] = some n := by decide
  rw [Text.toList_padded_two (by omega), hall n hn]

theorem hour?_padded {n : Nat} (hn : n < 24) : hour? (Text.padded 2 n).toList = some n := by
  have hall : ∀ n < 24, hour? [(n / 10).digitChar, (n % 10).digitChar] = some n := by decide
  rw [Text.toList_padded_two (by omega), hall n hn]

theorem month?_padded {n : Nat} (hpos : 1 ≤ n) (hn : n ≤ 12) : month? (Text.padded 2 n).toList = some n := by
  have hall : ∀ n < 13, 1 ≤ n → month? [(n / 10).digitChar, (n % 10).digitChar] = some n := by decide
  rw [Text.toList_padded_two (by omega), hall n (by omega) hpos]

theorem day?_padded {n : Nat} (hpos : 1 ≤ n) (hn : n ≤ 31) : day? (Text.padded 2 n).toList = some n := by
  have hall : ∀ n < 32, 1 ≤ n → day? [(n / 10).digitChar, (n % 10).digitChar] = some n := by decide
  rw [Text.toList_padded_two (by omega), hall n (by omega) hpos]

theorem year?_padded {n : Nat} (hn : n ≤ 9999) : year? (Text.padded 4 n).toList = some n := by
  have hlimit : n < Number.tenTo 4 := Nat.lt_succ_of_le hn
  rw [year?, if_pos (Text.length_padded (by decide) hlimit)]
  exact Text.readDigits?_of_ascii (Text.readDigits?_padded 4 n)

theorem micros?_padded {n : Nat} (hn : n < 1000000) : micros? (Text.padded 6 n).toList = some n := by
  have hlength : (Text.padded 6 n).toList.length = 6 := Text.length_padded (by decide) hn
  rw [micros?, hlength, if_neg (by decide), Text.readDigits?_padded]
  exact congrArg some (Nat.mul_one n)

end Reading

namespace Timestamp

def format (t : Timestamp) : Format :=
  if t.microsecond = 0 then .whole else .decimals

def secondText (t : Timestamp) : List Char :=
  (Text.padded 2 t.second).toList ++ if t.microsecond = 0 then [] else '.' :: (Text.padded 6 t.microsecond).toList

def parts (t : Timestamp) : Parts where
  year := (Text.padded 4 t.date.year).toList
  month := (Text.padded 2 t.date.month).toList
  day := (Text.padded 2 t.date.day).toList
  hour := (Text.padded 2 t.hour).toList
  minute := (Text.padded 2 t.minute).toList
  second := t.secondText

theorem toList_isoText (t : Timestamp) : t.isoText.toList = t.parts.text 'T' := by
  unfold isoText dateText parts Parts.text Parts.date Parts.clock secondText
  split <;> simp

theorem second?_secondText (t : Timestamp) :
    Reading.second? t.format t.secondText = some (t.second, t.microsecond) := by
  obtain ⟨-, -, -, hsecond, hmicros⟩ := t.valid
  have hwhole := Reading.sexagesimal?_padded hsecond
  unfold format secondText
  by_cases hzero : t.microsecond = 0
  · rw [if_pos hzero, if_pos hzero, List.append_nil, hzero]
    simp only [Reading.second?, hwhole, Option.map_some]
  · rw [if_neg hzero, if_neg hzero]
    have hpoint : '.' ∉ (Text.padded 2 t.second).toList := (Reading.shows_of_belowTens? hwhole).notMem (by decide)
    have hcut := (Text.cut?_eq_some_iff '.' _ _ (Text.padded 6 t.microsecond).toList).mpr ⟨rfl, hpoint⟩
    simp only [Reading.second?, hcut, hwhole, Reading.micros?_padded hmicros, bind, Option.bind, pure]

theorem reads_parts (t : Timestamp) : t.parts.Reads t.format t := by
  obtain ⟨⟨-, hyear, hmonth, hmonth', hday, hday'⟩, hhour, hminute, -, -⟩ := t.valid
  have hlength := daysInMonth_le t.date.year t.date.month
  rw [parts]
  constructor <;> dsimp only
  · exact Reading.year?_padded hyear
  · exact Reading.month?_padded hmonth hmonth'
  · exact Reading.day?_padded hday (by omega)
  · exact Reading.hour?_padded hhour
  · exact Reading.sexagesimal?_padded hminute
  · exact t.second?_secondText

theorem timestamp?_isoText (t : Timestamp) : Reading.timestamp? t.format t.isoText.toList = some t :=
  (Reading.timestamp?_eq_some_iff t.format _ t).mpr ⟨t.parts, 'T', .inl rfl, t.toList_isoText, t.reads_parts⟩

theorem trim_isoText (t : Timestamp) {before after : List Char} (hbefore : ∀ c ∈ before, Text.isBlank c = true)
    (hafter : ∀ c ∈ after, Text.isBlank c = true) :
    Text.trim (before ++ t.isoText.toList ++ after) = t.isoText.toList := by
  have hdigits (width n : Nat) {c : Char} (hc : c ∈ (Text.padded width n).toList) : Text.isBlank c = false :=
    Text.not_isBlank_of_isDigit
      (Text.isDigit_of_readDigits? (Text.readDigits?_of_ascii (Text.readDigits?_padded width n)) hc)
  have hplain : ∀ c ∈ t.isoText.toList, Text.isBlank c = false := by
    intro c hc
    simp only [toList_isoText, Parts.text, Parts.date, Parts.clock, parts, List.mem_append, List.mem_cons] at hc
    rcases hc with (hc | rfl | hc | rfl | hc) | rfl | hc | rfl | hc | rfl | hc
    · exact hdigits 4 t.date.year hc
    · rfl
    · exact hdigits 2 t.date.month hc
    · rfl
    · exact hdigits 2 t.date.day hc
    · rfl
    · exact hdigits 2 t.hour hc
    · rfl
    · exact hdigits 2 t.minute hc
    · rfl
    · unfold secondText at hc
      split at hc
      · rw [List.append_nil] at hc
        exact hdigits 2 t.second hc
      · simp only [List.mem_append, List.mem_cons] at hc
        rcases hc with hc | rfl | hc
        · exact hdigits 2 t.second hc
        · rfl
        · exact hdigits 6 t.microsecond hc
  rw [Text.trim_append hbefore hafter]
  exact Text.trim_eq_self (fun c hc => hplain c (List.mem_of_mem_head? hc))
    (fun c hc => hplain c (List.mem_of_mem_getLast? hc))

theorem read?_eq_some_iff (s : String) (t : Timestamp) :
    read? s = some t ↔ ∃ format, Reading.timestamp? format (Text.trim s.toList) = some t := by
  rw [read?]
  constructor
  · intro h
    obtain ⟨format, -, hformat⟩ := List.exists_of_findSome?_eq_some h
    exact ⟨format, hformat⟩
  · rintro ⟨format, hformat⟩
    cases format with
    | whole => simp [hformat]
    | decimals =>
      have hwhole : Reading.timestamp? .whole (Text.trim s.toList) = none := by
        rw [Option.eq_none_iff_forall_ne_some]
        intro u hu
        exact Reading.not_both_formats hu hformat
      simp [hwhole, hformat]

end Timestamp

end Time

namespace Oval

open Time (Timestamp)
open Time.Reading (timestamp? Flawed)

theorem readTimestamp_eq_ok_iff (s : String) (t : Timestamp) :
    readTimestamp s = .ok t ↔ ∃ format, timestamp? format (Text.trim s.toList) = some t := by
  rw [← Timestamp.read?_eq_some_iff]
  unfold readTimestamp
  cases Timestamp.read? s <;> simp

theorem readTimestamp_of_flawed {s : String} (h : Flawed (Text.trim s.toList)) :
    readTimestamp s = .error (.badTimestamp s) := by
  have hnone : Timestamp.read? s = none := by
    rw [Option.eq_none_iff_forall_ne_some]
    intro t ht
    obtain ⟨format, hformat⟩ := (Timestamp.read?_eq_some_iff s t).mp ht
    cases hformat.symm.trans (Time.Reading.timestamp?_of_flawed h)
  rw [readTimestamp, hnone]

theorem readTimestamp_isoText (t : Timestamp) (before after : List Char)
    (hbefore : ∀ c ∈ before, Text.isBlank c = true) (hafter : ∀ c ∈ after, Text.isBlank c = true) :
    readTimestamp (String.ofList (before ++ t.isoText.toList ++ after)) = .ok t := by
  refine (readTimestamp_eq_ok_iff _ t).mpr ⟨t.format, ?_⟩
  rw [String.toList_ofList, t.trim_isoText hbefore hafter]
  exact t.timestamp?_isoText

/-- The text of a time is read as that time, with any white space around it. What is read from any other text is
read again from its own text. A text is read in one format at most, and it is refused if it ends in a zone, or if it
has a day that is not in its month or a second above 59. -/
theorem timestamps_read_back :
    (∀ (t : Timestamp) (before after : List Char), (∀ c ∈ before, Text.isBlank c = true) →
      (∀ c ∈ after, Text.isBlank c = true) →
      readTimestamp (String.ofList (before ++ t.isoText.toList ++ after)) = .ok t) ∧
    (∀ s t, readTimestamp s = .ok t → readTimestamp t.isoText = .ok t) ∧
    (∀ s t, readTimestamp s = .ok t ↔ ∃ format, timestamp? format (Text.trim s.toList) = some t) ∧
    (∀ s, timestamp? .whole s = none ∨ timestamp? .decimals s = none) ∧
    ∀ s : String, Flawed (Text.trim s.toList) → readTimestamp s = .error (.badTimestamp s) := by
  refine ⟨readTimestamp_isoText, fun s t _ => ?_, readTimestamp_eq_ok_iff, fun s => ?_,
    fun s => readTimestamp_of_flawed⟩
  · have hplain := readTimestamp_isoText t [] [] nofun nofun
    rwa [List.nil_append, List.append_nil, String.ofList_toList] at hplain
  · cases hwhole : timestamp? .whole s with
    | none => exact .inl rfl
    | some t =>
      right
      rw [Option.eq_none_iff_forall_ne_some]
      intro u hu
      exact Time.Reading.not_both_formats hwhole hu

def leapEvening : Timestamp :=
  ⟨⟨2096, 2, 29⟩, 23, 59, 58, 120000, by decide⟩

theorem timestamps_read_back_on_leap_day :
    readTimestamp "\u2003 2096-02-29T23:59:58.120000\n" = .ok leapEvening ∧
      readTimestamp leapEvening.isoText = .ok leapEvening ∧
      readTimestamp "2099-01-01T05:05:39-03:00" = .error (.badTimestamp "2099-01-01T05:05:39-03:00") ∧
      readTimestamp " 2100-2-29T05:05:39" = .error (.badTimestamp " 2100-2-29T05:05:39") ∧
      readTimestamp "2099-01-01T05:05:60.5" = .error (.badTimestamp "2099-01-01T05:05:60.5") := by
  obtain ⟨hwritten, hagain, -, -, hflawed⟩ := timestamps_read_back
  have hspaced : "\u2003 2096-02-29T23:59:58.120000\n" =
      String.ofList (['\u2003', ' '] ++ leapEvening.isoText.toList ++ ['\n']) := by decide +kernel
  have hread : readTimestamp "\u2003 2096-02-29T23:59:58.120000\n" = .ok leapEvening := by
    rw [hspaced]
    exact hwritten leapEvening _ _ (List.all_eq_true.mp (by decide)) (List.all_eq_true.mp (by decide))
  refine ⟨hread, hagain _ _ hread, hflawed _ ?_, hflawed _ ?_, hflawed _ ?_⟩
  · have htext : Text.trim "2099-01-01T05:05:39-03:00".toList =
        "2099-01-01T05:05:39".toList ++ ['-', '0', '3', ':', '0', '0'] := by decide +kernel
    rw [htext]
    exact .zoned (.offset (.inr rfl) (List.all_eq_true.mp (by decide)))
  · have htext : Text.trim " 2100-2-29T05:05:39".toList =
        ['2', '1', '0', '0'] ++ '-' :: (['2'] ++ '-' :: (['2', '9'] ++ 'T' :: "05:05:39".toList)) := by decide +kernel
    rw [htext]
    have hy : Text.Shows ['2', '1', '0', '0'] 2100 := by decide
    have hm : Text.Shows ['2'] 2 := by decide
    have hd : Text.Shows ['2', '9'] 29 := by decide
    exact .dayOff hy hm hd (Text.noDigitFirst_cons (by decide) _) (by decide)
  · have htext : Text.trim "2099-01-01T05:05:60.5".toList =
        "2099-01-01T05:05".toList ++ ':' :: (['6', '0'] ++ ['.', '5']) := by decide +kernel
    rw [htext]
    have hn : Text.Shows ['6', '0'] 60 := by decide
    exact .pastSixty hn (Text.noDigitFirst_cons (by decide) _) (by decide)

end Oval

end OvalCatalog
