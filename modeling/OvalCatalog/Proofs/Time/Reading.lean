import OvalCatalog.Proofs.Text.Numeral
import OvalCatalog.Proofs.Time.Calendar
import OvalCatalog.Time.Reading

namespace OvalCatalog.Time.Reading

open Text (Shows NoDigitFirst)

theorem shows_of_belowTens? {tens : Nat} {s : List Char} {n : Nat} (h : belowTens? tens s = some n) : Shows s n := by
  apply Text.shows_of_readDigits?
  unfold belowTens? at h
  split at h
  · exact Text.readDigits?_single h
  · obtain ⟨a, ha, h⟩ := Option.bind_eq_some_iff.mp h
    split at h
    · obtain ⟨b, hb, h⟩ := Option.bind_eq_some_iff.mp h
      cases h
      exact Text.readDigits?_pair (Text.digitValue?_of_asciiDigit? ha) hb
    · cases h
  · cases h

theorem shows_of_hour? {s : List Char} {n : Nat} (h : hour? s = some n) : Shows s n := by
  unfold hour? at h
  split at h
  · next d =>
    obtain ⟨b, hb, h⟩ := Option.bind_eq_some_iff.mp h
    split at h
    · cases h
      have htwo : Text.digitValue? '2' = some 2 := by decide
      apply Text.shows_of_readDigits?
      exact Text.readDigits?_pair htwo (Text.digitValue?_of_asciiDigit? hb)
    · cases h
  · exact shows_of_belowTens? h

theorem shows_of_year? {s : List Char} {n : Nat} (h : year? s = some n) : Shows s n :=
  Text.shows_of_readDigits? (Option.ite_none_right_eq_some.mp h).2

theorem shows_of_month? {s : List Char} {n : Nat} (h : month? s = some n) : Shows s n := by
  apply Text.shows_of_readDigits?
  unfold month? at h
  split at h
  · obtain ⟨a, ha, h⟩ := Option.bind_eq_some_iff.mp h
    split at h <;> cases h
    exact Text.readDigits?_single (Text.digitValue?_of_asciiDigit? ha)
  · obtain ⟨a, ha, h⟩ := Option.bind_eq_some_iff.mp h
    obtain ⟨b, hb, h⟩ := Option.bind_eq_some_iff.mp h
    dsimp only at h
    split at h <;> cases h
    exact Text.readDigits?_pair (Text.digitValue?_of_asciiDigit? ha) (Text.digitValue?_of_asciiDigit? hb)
  · cases h

theorem shows_of_day? {s : List Char} {n : Nat} (h : day? s = some n) : Shows s n := by
  unfold day? at h
  split at h
  · obtain ⟨a, ha, h⟩ := Option.bind_eq_some_iff.mp h
    split at h <;> cases h
    apply Text.shows_of_readDigits?
    exact Text.readDigits?_single (Text.digitValue?_of_asciiDigit? ha)
  · next t d =>
    split at h
    · obtain ⟨a, ha, h⟩ := Option.bind_eq_some_iff.mp h
      obtain ⟨b, hb, h⟩ := Option.bind_eq_some_iff.mp h
      cases h
      apply Text.shows_of_readDigits?
      exact Text.readDigits?_pair (Text.digitValue?_of_asciiDigit? ha) hb
    · dsimp only at h
      split at h
      · next hblank =>
        -- The blank stands for a zero, which shows nothing.
        obtain rfl : t = ' ' := beq_iff_eq.mp hblank
        obtain ⟨_, ⟨⟩, h⟩ := Option.bind_eq_some_iff.mp h
        obtain ⟨b, hb, h⟩ := Option.bind_eq_some_iff.mp h
        split at h <;> cases h
        have hplain : Shows [d] b :=
          Text.shows_of_readDigits? (Text.readDigits?_single (Text.digitValue?_of_asciiDigit? hb))
        rw [Nat.mul_zero, Nat.zero_add]
        exact hplain
      · obtain ⟨a, ha, h⟩ := Option.bind_eq_some_iff.mp h
        obtain ⟨b, hb, h⟩ := Option.bind_eq_some_iff.mp h
        split at h <;> cases h
        apply Text.shows_of_readDigits?
        exact Text.readDigits?_pair (Text.digitValue?_of_asciiDigit? ha) (Text.digitValue?_of_asciiDigit? hb)
  · cases h

theorem second?_whole {s : List Char} {n m : Nat} (h : second? .whole s = some (n, m)) : Shows s n := by
  obtain ⟨_, hs, ⟨⟩⟩ := Option.map_eq_some_iff.mp h
  exact shows_of_belowTens? hs

theorem second?_decimals {s : List Char} {n m : Nat} (h : second? .decimals s = some (n, m)) :
    ∃ whole decimals, s = whole ++ '.' :: decimals ∧ Shows whole n ∧ ∀ c ∈ decimals, Text.isDigit c = true := by
  obtain ⟨⟨whole, decimals⟩, hcut, h⟩ := Option.bind_eq_some_iff.mp h
  obtain ⟨a, ha, h⟩ := Option.bind_eq_some_iff.mp h
  obtain ⟨b, hb, h⟩ := Option.bind_eq_some_iff.mp h
  cases h
  refine ⟨whole, decimals, ((Text.cut?_eq_some_iff _ _ _ _).mp hcut).1, shows_of_belowTens? ha, fun c => ?_⟩
  obtain ⟨-, hb⟩ := Option.ite_none_left_eq_some.mp hb
  obtain ⟨k, hk, -⟩ := Option.map_eq_some_iff.mp hb
  exact Text.isDigit_of_readDigits? (Text.readDigits?_of_ascii hk)

structure Parts where
  year : List Char
  month : List Char
  day : List Char
  hour : List Char
  minute : List Char
  second : List Char

namespace Parts

def date (p : Parts) : List Char :=
  p.year ++ '-' :: (p.month ++ '-' :: p.day)

def clock (p : Parts) : List Char :=
  p.hour ++ ':' :: (p.minute ++ ':' :: p.second)

def text (p : Parts) (mark : Char) : List Char :=
  p.date ++ mark :: p.clock

structure Reads (format : Format) (p : Parts) (t : Timestamp) : Prop where
  year : year? p.year = some t.date.year
  month : month? p.month = some t.date.month
  day : day? p.day = some t.date.day
  hour : hour? p.hour = some t.hour
  minute : sexagesimal? p.minute = some t.minute
  second : second? format p.second = some (t.second, t.microsecond)

namespace Reads

variable {format : Format} {p : Parts} {t : Timestamp}

theorem mem_second (h : p.Reads format t) {c : Char} (hc : c ∈ p.second) :
    Text.isDigit c = true ∨ Text.isBlank c = true ∨ c = '.' := by
  cases format with
  | whole => exact ((second?_whole h.second).isDigit_or_isBlank hc).imp_right .inl
  | decimals =>
    obtain ⟨whole, decimals, hs, hwhole, hdecimals⟩ := second?_decimals h.second
    rw [hs] at hc
    rcases List.mem_append.mp hc with hc | hc
    · exact (hwhole.isDigit_or_isBlank hc).imp_right .inl
    · rcases List.mem_cons.mp hc with rfl | hc
      · exact .inr (.inr rfl)
      · exact .inl (hdecimals c hc)

theorem mem_date (h : p.Reads format t) {c : Char} (hc : c ∈ p.date) :
    Text.isDigit c = true ∨ Text.isBlank c = true ∨ c = '-' := by
  simp only [date, List.mem_append, List.mem_cons] at hc
  rcases hc with hc | rfl | hc | rfl | hc
  · exact ((shows_of_year? h.year).isDigit_or_isBlank hc).imp_right .inl
  · exact .inr (.inr rfl)
  · exact ((shows_of_month? h.month).isDigit_or_isBlank hc).imp_right .inl
  · exact .inr (.inr rfl)
  · exact ((shows_of_day? h.day).isDigit_or_isBlank hc).imp_right .inl

theorem mem_clock (h : p.Reads format t) {c : Char} (hc : c ∈ p.clock) :
    Text.isDigit c = true ∨ Text.isBlank c = true ∨ c = '.' ∨ c = ':' := by
  simp only [clock, List.mem_append, List.mem_cons] at hc
  rcases hc with hc | rfl | hc | rfl | hc
  · exact ((shows_of_hour? h.hour).isDigit_or_isBlank hc).imp_right .inl
  · exact .inr (.inr (.inr rfl))
  · exact ((shows_of_belowTens? h.minute).isDigit_or_isBlank hc).imp_right .inl
  · exact .inr (.inr (.inr rfl))
  · exact (h.mem_second hc).imp_right fun hc => hc.imp_right .inl

end Reads

end Parts

theorem date?_eq_some_iff (s : List Char) (d : Date) : date? s = some d ↔
    ∃ year month day, s = year ++ '-' :: (month ++ '-' :: day) ∧
      year? year = some d.year ∧ month? month = some d.month ∧ day? day = some d.day := by
  constructor
  · intro h
    obtain ⟨⟨year, rest⟩, hyear, h⟩ := Option.bind_eq_some_iff.mp h
    obtain ⟨⟨month, day⟩, hmonth, h⟩ := Option.bind_eq_some_iff.mp h
    obtain ⟨y, hy, h⟩ := Option.bind_eq_some_iff.mp h
    obtain ⟨m, hm, h⟩ := Option.bind_eq_some_iff.mp h
    obtain ⟨n, hn, h⟩ := Option.bind_eq_some_iff.mp h
    cases h
    obtain ⟨rfl, -⟩ := (Text.cut?_eq_some_iff _ _ _ _).mp hyear
    obtain ⟨rfl, -⟩ := (Text.cut?_eq_some_iff _ _ _ _).mp hmonth
    exact ⟨year, month, day, rfl, hy, hm, hn⟩
  · rintro ⟨year, month, day, rfl, hy, hm, hn⟩
    have hyear := (Text.cut?_eq_some_iff '-' (year ++ '-' :: (month ++ '-' :: day)) year (month ++ '-' :: day)).mpr
      ⟨rfl, (shows_of_year? hy).notMem (by decide)⟩
    have hmonth := (Text.cut?_eq_some_iff '-' (month ++ '-' :: day) month day).mpr
      ⟨rfl, (shows_of_month? hm).notMem (by decide)⟩
    simp only [date?, hyear, hmonth, hy, hm, hn, bind, Option.bind, pure]

theorem largeMark_eq_iff (c : Char) : largeMark c = 'T' ↔ c = 'T' ∨ c = 't' := by
  unfold largeMark
  split
  · next h => simp [beq_iff_eq.mp h]
  · next h => simp [beq_iff_eq] at h; simp [h]

theorem map_largeMark {s : List Char} (hs : 't' ∉ s) : s.map largeMark = s := by
  conv_rhs => rw [← List.map_id s]
  apply List.map_congr_left
  intro c hc
  have hne : c ≠ 't' := fun he => hs (he ▸ hc)
  simp [largeMark, hne]

theorem eq_of_map_largeMark {s r : List Char} (h : s.map largeMark = r) (hr : 'T' ∉ r) : s = r := by
  rw [← h, map_largeMark]
  intro hs
  apply hr
  rw [← h]
  exact List.mem_map.mpr ⟨'t', hs, rfl⟩

theorem timestamp?_eq_some_iff (format : Format) (s : List Char) (t : Timestamp) :
    timestamp? format s = some t ↔
      ∃ (p : Parts) (mark : Char), (mark = 'T' ∨ mark = 't') ∧ s = p.text mark ∧ p.Reads format t := by
  constructor
  · intro h
    obtain ⟨⟨date, clock⟩, hdate, h⟩ := Option.bind_eq_some_iff.mp h
    obtain ⟨⟨hour, rest⟩, hhour, h⟩ := Option.bind_eq_some_iff.mp h
    obtain ⟨⟨minute, second⟩, hminute, h⟩ := Option.bind_eq_some_iff.mp h
    obtain ⟨⟨n, m⟩, hsecond, h⟩ := Option.bind_eq_some_iff.mp h
    obtain ⟨d, hd, h⟩ := Option.bind_eq_some_iff.mp h
    obtain ⟨a, ha, h⟩ := Option.bind_eq_some_iff.mp h
    obtain ⟨b, hb, h⟩ := Option.bind_eq_some_iff.mp h
    obtain ⟨rfl, rfl, rfl, rfl, rfl⟩ := Timestamp.ofFields?_eq_some h
    obtain ⟨hs, hbefore⟩ := (Text.cut?_eq_some_iff _ _ _ _).mp hdate
    obtain ⟨rfl, -⟩ := (Text.cut?_eq_some_iff _ _ _ _).mp hhour
    obtain ⟨rfl, -⟩ := (Text.cut?_eq_some_iff _ _ _ _).mp hminute
    obtain ⟨year, month, day, rfl, hy, hm, hn⟩ := (date?_eq_some_iff _ _).mp hd
    let p : Parts := ⟨year, month, day, hour, minute, second⟩
    have hp : p.Reads format t := ⟨hy, hm, hn, ha, hb, hsecond⟩
    obtain ⟨before, tail, rfl, hleft, htail⟩ := List.map_eq_append_iff.mp hs
    obtain ⟨mark, after, rfl, hmark, hright⟩ := List.map_eq_cons_iff.mp htail
    refine ⟨p, mark, (largeMark_eq_iff mark).mp hmark, ?_, hp⟩
    have hafter : 'T' ∉ p.clock := fun hc => absurd (hp.mem_clock hc) (by decide)
    rw [eq_of_map_largeMark hleft hbefore, eq_of_map_largeMark hright hafter]
    rfl
  · rintro ⟨p, mark, hmark, rfl, hp⟩
    have hbefore : 't' ∉ p.date ∧ 'T' ∉ p.date :=
      ⟨fun hc => absurd (hp.mem_date hc) (by decide), fun hc => absurd (hp.mem_date hc) (by decide)⟩
    have hafter : 't' ∉ p.clock := fun hc => absurd (hp.mem_clock hc) (by decide)
    have hlarge : (p.text mark).map largeMark = p.date ++ 'T' :: p.clock := by
      rw [Parts.text, List.map_append, List.map_cons, map_largeMark hbefore.1, map_largeMark hafter,
        (largeMark_eq_iff mark).mpr hmark]
    have hdate := (Text.cut?_eq_some_iff 'T' _ p.date p.clock).mpr ⟨hlarge, hbefore.2⟩
    have hhour := (Text.cut?_eq_some_iff ':' p.clock p.hour (p.minute ++ ':' :: p.second)).mpr
      ⟨rfl, (shows_of_hour? hp.hour).notMem (by decide)⟩
    have hminute := (Text.cut?_eq_some_iff ':' (p.minute ++ ':' :: p.second) p.minute p.second).mpr
      ⟨rfl, (shows_of_belowTens? hp.minute).notMem (by decide)⟩
    have hread : date? p.date = some t.date := (date?_eq_some_iff _ _).mpr
      ⟨p.year, p.month, p.day, rfl, hp.year, hp.month, hp.day⟩
    simp only [timestamp?, hdate, hhour, hminute, hp.second, hread, hp.hour, hp.minute, bind, Option.bind]
    exact Timestamp.ofFields?_of_valid t

section Formats

variable {s : List Char} {t u : Timestamp}

theorem point_notMem_of_whole (h : timestamp? .whole s = some t) : '.' ∉ s := by
  obtain ⟨p, mark, hmark, rfl, hp⟩ := (timestamp?_eq_some_iff _ _ _).mp h
  have hdate : '.' ∉ p.date := fun hc => absurd (hp.mem_date hc) (by decide)
  have hhour : '.' ∉ p.hour := (shows_of_hour? hp.hour).notMem (by decide)
  have hminute : '.' ∉ p.minute := (shows_of_belowTens? hp.minute).notMem (by decide)
  have hsecond : '.' ∉ p.second := (second?_whole hp.second).notMem (by decide)
  have hclock : '.' ∉ p.clock := by simp [Parts.clock, hhour, hminute, hsecond]
  have hne : '.' ≠ mark := by rcases hmark with rfl | rfl <;> decide
  simp [Parts.text, hdate, hclock, hne]

theorem point_mem_of_decimals (h : timestamp? .decimals s = some t) : '.' ∈ s := by
  obtain ⟨p, mark, -, rfl, hp⟩ := (timestamp?_eq_some_iff _ _ _).mp h
  obtain ⟨whole, decimals, hs, -⟩ := second?_decimals hp.second
  simp [Parts.text, Parts.clock, hs]

theorem not_both_formats (hwhole : timestamp? .whole s = some t) (hdecimals : timestamp? .decimals s = some u) : False :=
  point_notMem_of_whole hwhole (point_mem_of_decimals hdecimals)

end Formats

section Fields

variable {format : Format} {t : Timestamp}

theorem shows_of_second? {s : List Char} {n m : Nat} (h : second? format s = some (n, m)) :
    ∃ whole rest, s = whole ++ rest ∧ Shows whole n ∧ NoDigitFirst rest := by
  cases format with
  | whole => exact ⟨s, [], (List.append_nil s).symm, second?_whole h, Text.noDigitFirst_nil⟩
  | decimals =>
    obtain ⟨whole, decimals, hs, hwhole, -⟩ := second?_decimals h
    exact ⟨whole, '.' :: decimals, hs, hwhole, Text.noDigitFirst_cons (by decide) decimals⟩

theorem day_of_timestamp? {year month day rest : List Char} {y m d : Nat}
    (h : timestamp? format (year ++ '-' :: (month ++ '-' :: (day ++ rest))) = some t) (hy : Shows year y)
    (hm : Shows month m) (hd : Shows day d) (hrest : NoDigitFirst rest) : 1 ≤ d ∧ d ≤ daysInMonth y m := by
  obtain ⟨p, mark, hmark, hs, hp⟩ := (timestamp?_eq_some_iff _ _ _).mp h
  have hminus (s : List Char) : NoDigitFirst ('-' :: s) := Text.noDigitFirst_cons (by decide) s
  have hafter : NoDigitFirst (mark :: p.clock) := by
    apply Text.noDigitFirst_cons
    rcases hmark with rfl | rfl <;> decide
  simp only [Parts.text, Parts.date, List.append_assoc, List.cons_append] at hs
  obtain ⟨rfl, -, hs⟩ := hy.append_inj (shows_of_year? hp.year) (hminus _) (hminus _) hs
  obtain ⟨rfl, -, hs⟩ := hm.append_inj (shows_of_month? hp.month) (hminus _) (hminus _) (List.cons.inj hs).2
  obtain ⟨rfl, -⟩ := hd.append_inj (shows_of_day? hp.day) hrest hafter (List.cons.inj hs).2
  obtain ⟨-, -, -, -, hvalid⟩ := t.valid.1
  exact hvalid

theorem lt_sixty_of_timestamp? {front number rest : List Char} {n : Nat}
    (h : timestamp? format (front ++ ':' :: (number ++ rest)) = some t) (hn : Shows number n)
    (hrest : NoDigitFirst rest) : n < 60 := by
  obtain ⟨p, mark, hmark, hs, hp⟩ := (timestamp?_eq_some_iff _ _ _).mp h
  obtain ⟨whole, tail, hsecond, hwhole, htail⟩ := shows_of_second? hp.second
  obtain ⟨-, -, hminute, hlimit, -⟩ := t.valid
  have hfirst : ':' ∉ p.date ++ mark :: p.hour := by
    have hdate : ':' ∉ p.date := fun hc => absurd (hp.mem_date hc) (by decide)
    have hne : ':' ≠ mark := by rcases hmark with rfl | rfl <;> decide
    have hhour : ':' ∉ p.hour := (shows_of_hour? hp.hour).notMem (by decide)
    simp [hdate, hne, hhour]
  have htext : front ++ ':' :: (number ++ rest) =
      (p.date ++ mark :: p.hour) ++ ':' :: (p.minute ++ ':' :: p.second) := by
    simp [hs, Parts.text, Parts.clock]
  -- The number stands after the first colon or after the second.
  rcases Text.first_or_later hfirst htext with ⟨-, hfield⟩ | ⟨between, -, hlater⟩
  · have hcolon : NoDigitFirst (':' :: p.second) := Text.noDigitFirst_cons (by decide) p.second
    obtain ⟨rfl, -⟩ := hn.append_inj (shows_of_belowTens? hp.minute) hrest hcolon hfield
    exact hminute
  · have hwithin : ':' ∉ p.minute := (shows_of_belowTens? hp.minute).notMem (by decide)
    rcases Text.first_or_later hwithin hlater.symm with ⟨-, hfield⟩ | ⟨more, -, hmore⟩
    · rw [hsecond] at hfield
      obtain ⟨rfl, -⟩ := hn.append_inj hwhole hrest htail hfield
      exact hlimit
    · have hcolon : ':' ∈ p.second := by simp [hmore]
      exact absurd (hp.mem_second hcolon) (by decide)

inductive IsZone : List Char → Prop
  | universal : IsZone ['Z']
  | offset {sign h₁ h₂ m₁ m₂ : Char} (hsign : sign = '+' ∨ sign = '-')
      (hdigits : ∀ c ∈ [h₁, h₂, m₁, m₂], Text.isDigit c = true) : IsZone [sign, h₁, h₂, ':', m₁, m₂]

theorem not_isZone_of_timestamp? {time zone : List Char} (h : timestamp? format (time ++ zone) = some t) :
    ¬IsZone zone := by
  obtain ⟨p, mark, hmark, hs, hp⟩ := (timestamp?_eq_some_iff _ _ _).mp h
  have hmem {c : Char} (hc : c ∈ time ++ zone) : c ∈ p.date ∨ c = mark ∨ c ∈ p.clock := by
    rw [hs] at hc
    simpa [Parts.text] using hc
  have hmarks {c : Char} (hT : c ≠ 'T') (ht : c ≠ 't') : c ≠ mark := by
    rcases hmark with rfl | rfl
    · exact hT
    · exact ht
  intro hzone
  cases hzone with
  | universal =>
    rcases hmem (c := 'Z') (by simp) with hc | hc | hc
    · exact absurd (hp.mem_date hc) (by decide)
    · exact hmarks (by decide) (by decide) hc
    · exact absurd (hp.mem_clock hc) (by decide)
  | @offset sign h₁ h₂ m₁ m₂ hsign hdigits =>
    rcases hsign with rfl | rfl
    · rcases hmem (c := '+') (by simp) with hc | hc | hc
      · exact absurd (hp.mem_date hc) (by decide)
      · exact hmarks (by decide) (by decide) hc
      · exact absurd (hp.mem_clock hc) (by decide)
    · -- After the last hyphen of a text that is read stands the mark, which is no part of a zone.
      rcases List.append_eq_append_iff.mp hs with ⟨tail, -, hzone⟩ | ⟨tail, -, hzone⟩
      · have hin : mark ∈ ['-', h₁, h₂, ':', m₁, m₂] := by simp [hzone]
        have hdigit : Text.isDigit mark = true := by
          simp only [List.forall_mem_cons] at hdigits
          simp only [List.mem_cons, List.not_mem_nil, or_false] at hin
          rcases hin with hc | rfl | rfl | hc | rfl | rfl
          · exact absurd hc.symm (hmarks (by decide) (by decide))
          · exact hdigits.1
          · exact hdigits.2.1
          · exact absurd hc.symm (hmarks (by decide) (by decide))
          · exact hdigits.2.2.1
          · exact hdigits.2.2.2.1
        rcases hmark with rfl | rfl <;> exact absurd hdigit (by decide)
      · have hin : '-' ∈ mark :: p.clock := by simp [hzone]
        rcases List.mem_cons.mp hin with hc | hc
        · exact hmarks (by decide) (by decide) hc
        · exact absurd (hp.mem_clock hc) (by decide)

/-- What no time is read from: a zone at the end, a day that its month does not have, or a number past the minute
or the hour after a colon. -/
inductive Flawed : List Char → Prop
  | zoned {time zone : List Char} (hzone : IsZone zone) : Flawed (time ++ zone)
  | dayOff {year month day rest : List Char} {y m d : Nat} (hy : Shows year y) (hm : Shows month m) (hd : Shows day d)
      (hrest : NoDigitFirst rest) (hoff : ¬(1 ≤ d ∧ d ≤ daysInMonth y m)) :
      Flawed (year ++ '-' :: (month ++ '-' :: (day ++ rest)))
  | pastSixty {front number rest : List Char} {n : Nat} (hn : Shows number n) (hrest : NoDigitFirst rest)
      (hpast : 60 ≤ n) : Flawed (front ++ ':' :: (number ++ rest))

theorem timestamp?_of_flawed {s : List Char} (h : Flawed s) : timestamp? format s = none := by
  rw [Option.eq_none_iff_forall_ne_some]
  intro t ht
  cases h with
  | zoned hzone => exact not_isZone_of_timestamp? ht hzone
  | dayOff hy hm hd hrest hoff => exact hoff (day_of_timestamp? ht hy hm hd hrest)
  | pastSixty hn hrest hpast => exact absurd (lt_sixty_of_timestamp? ht hn hrest) (Nat.not_lt.mpr hpast)

end Fields

end OvalCatalog.Time.Reading
