import OvalCatalog.Number.Power
import OvalCatalog.Proofs.Text.Cutting

namespace OvalCatalog.Text

theorem asciiDigit?_eq_some_iff (c : Char) (n : Nat) : asciiDigit? c = some n ↔ n < 10 ∧ c = n.digitChar := by
  unfold asciiDigit?
  constructor
  · intro h
    split at h
    · next hc =>
      cases h
      have hlow : 48 ≤ c.toNat := hc.1
      have hhigh : c.toNat ≤ 57 := hc.2
      have hlt : c.toNat - 48 < 10 := by omega
      refine ⟨hlt, ?_⟩
      apply Char.toNat_inj.mp
      have hdigit : (c.toNat - '0'.toNat).digitChar.toNat = 48 + (c.toNat - 48) :=
        Nat.toNat_digitChar_of_lt_ten hlt
      omega
    · cases h
  · rintro ⟨hn, rfl⟩
    have hdigit := Nat.toNat_digitChar_of_lt_ten hn
    have hlow : '0' ≤ n.digitChar := show 48 ≤ n.digitChar.toNat by omega
    have hhigh : n.digitChar ≤ '9' := show n.digitChar.toNat ≤ 57 by omega
    rw [if_pos ⟨hlow, hhigh⟩]
    simp [hdigit]

theorem digitValue?_digitChar {n : Nat} (hn : n < 10) : digitValue? n.digitChar = some n := by
  have hall : ∀ n < 10, digitValue? n.digitChar = some n := by decide
  exact hall n hn

theorem digitValue?_of_asciiDigit? {c : Char} {n : Nat} (h : asciiDigit? c = some n) : digitValue? c = some n := by
  obtain ⟨hn, rfl⟩ := (asciiDigit?_eq_some_iff c n).mp h
  exact digitValue?_digitChar hn

theorem asciiDigit?_digitChar {n : Nat} (hn : n < 10) : asciiDigit? n.digitChar = some n :=
  (asciiDigit?_eq_some_iff _ n).mpr ⟨hn, rfl⟩

section Digits

variable {value : Char → Option Nat}

theorem mapM_digits_append {s t : List Char} {ds es : List Nat} (hs : s.mapM value = some ds)
    (ht : t.mapM value = some es) : (s ++ t).mapM value = some (ds ++ es) := by
  simp [List.mapM_append, hs, ht]

theorem ofDigits_snoc (ds : List Nat) (d : Nat) : ofDigits (ds ++ [d]) = 10 * ofDigits ds + d := by
  simp [ofDigits]

theorem readDigits?_eq_some_iff (s : List Char) (n : Nat) :
    readDigits? value s = some n ↔ s ≠ [] ∧ ∃ ds, s.mapM value = some ds ∧ ofDigits ds = n := by
  unfold readDigits?
  cases s with
  | nil => simp
  | cons c s => simp only [List.isEmpty_cons, Bool.false_eq_true, if_false, Option.map_eq_some_iff, ne_eq,
      reduceCtorEq, not_false_eq_true, true_and]

theorem readDigits?_single {c : Char} {n : Nat} (hc : value c = some n) : readDigits? value [c] = some n := by
  simp [readDigits?, ofDigits, hc]

theorem readDigits?_pair {c d : Char} {m n : Nat} (hc : value c = some m) (hd : value d = some n) :
    readDigits? value [c, d] = some (10 * m + n) := by
  simp [readDigits?, ofDigits, hc, hd]

theorem isSome_of_mapM {s : List Char} {ds : List Nat} (h : s.mapM value = some ds) {c : Char} (hc : c ∈ s) :
    (value c).isSome = true := by
  induction s generalizing ds with
  | nil => cases hc
  | cons d s ih =>
    obtain ⟨a, ha, es, hes, -⟩ : ∃ a, value d = some a ∧ ∃ es, s.mapM value = some es ∧ a :: es = ds := by
      simpa [List.mapM_cons, Option.bind_eq_some_iff] using h
    rcases List.mem_cons.mp hc with rfl | hc
    · rw [ha]
      rfl
    · exact ih hes hc

theorem isDigit_of_readDigits? {s : List Char} {n : Nat} (h : readDigits? digitValue? s = some n) {c : Char}
    (hc : c ∈ s) : isDigit c = true := by
  obtain ⟨-, ds, hds, -⟩ := (readDigits?_eq_some_iff s n).mp h
  exact isSome_of_mapM hds hc

end Digits

section Padded

theorem toList_padded (width n : Nat) : (padded width n).toList =
    List.replicate (width - (Nat.toDigits 10 n).length) '0' ++ Nat.toDigits 10 n := by
  have hlength : n.repr.length = (Nat.toDigits 10 n).length := by rw [← Nat.toList_repr, String.length_toList]
  simp [padded, hlength]

theorem length_padded {width n : Nat} (hwidth : 0 < width) (hn : n < Number.tenTo width) :
    (padded width n).toList.length = width := by
  have hle : (Nat.toDigits 10 n).length ≤ width := (Nat.length_toDigits_le_iff (by decide) hwidth).mpr hn
  rw [toList_padded, List.length_append, List.length_replicate]
  omega

theorem mapM_toDigits (n : Nat) : ∃ ds, (Nat.toDigits 10 n).mapM asciiDigit? = some ds ∧ ofDigits ds = n := by
  induction n using Nat.strongRecOn with
  | ind n ih =>
    by_cases hn : n < 10
    · refine ⟨[n], ?_, by simp [ofDigits]⟩
      rw [Nat.toDigits_of_lt_base hn]
      simp [asciiDigit?_digitChar hn]
    · obtain ⟨ds, hds, hvalue⟩ := ih (n / 10) (by omega)
      have hlast : [(n % 10).digitChar].mapM asciiDigit? = some [n % 10] := by
        simp [asciiDigit?_digitChar (show n % 10 < 10 by omega)]
      refine ⟨ds ++ [n % 10], ?_, ?_⟩
      · rw [Nat.toDigits_of_base_le (by decide) (by omega)]
        exact mapM_digits_append hds hlast
      · rw [ofDigits_snoc, hvalue]
        omega

theorem readDigits?_padded (width n : Nat) : readDigits? asciiDigit? (padded width n).toList = some n := by
  obtain ⟨ds, hds, hvalue⟩ := mapM_toDigits n
  rw [toList_padded, readDigits?_eq_some_iff]
  refine ⟨by simp [Nat.toDigits_ne_nil], ?_⟩
  generalize width - (Nat.toDigits 10 n).length = zeros
  -- Zeros in front add nothing to the number.
  induction zeros with
  | zero => exact ⟨ds, hds, hvalue⟩
  | succ zeros ih =>
    obtain ⟨es, hes, hes'⟩ := ih
    refine ⟨0 :: es, ?_, by simpa [ofDigits] using hes'⟩
    have hzero : asciiDigit? '0' = some 0 := rfl
    simp [List.replicate_succ, List.mapM_cons, hzero, hes]

theorem toList_padded_two {n : Nat} (hn : n < 100) :
    (padded 2 n).toList = [(n / 10).digitChar, (n % 10).digitChar] := by
  rw [toList_padded]
  by_cases h : n < 10
  · have hhigh : n / 10 = 0 := by omega
    have hlow : n % 10 = n := by omega
    rw [Nat.toDigits_of_lt_base h, hhigh, hlow]
    rfl
  · rw [Nat.toDigits_of_base_le (by decide) (by omega), Nat.toDigits_of_lt_base (show n / 10 < 10 by omega)]
    rfl

theorem readDigits?_of_ascii {s : List Char} {n : Nat} (h : readDigits? asciiDigit? s = some n) :
    readDigits? digitValue? s = some n := by
  obtain ⟨hs, ds, hds, hvalue⟩ := (readDigits?_eq_some_iff s n).mp h
  refine (readDigits?_eq_some_iff s n).mpr ⟨hs, ds, ?_, hvalue⟩
  clear h hs hvalue
  induction s generalizing ds with
  | nil => exact hds
  | cons c s ih =>
    obtain ⟨a, ha, es, hes, rfl⟩ : ∃ a, asciiDigit? c = some a ∧ ∃ es, s.mapM asciiDigit? = some es ∧ a :: es = ds := by
      simpa [List.mapM_cons, Option.bind_eq_some_iff] using hds
    simp [List.mapM_cons, digitValue?_of_asciiDigit? ha, ih es hes]

end Padded

/-- Digits of any script that show a number; blanks may stand in front. -/
def Shows (s : List Char) (n : Nat) : Prop :=
  readDigits? digitValue? (trimLeft s) = some n

instance (s : List Char) (n : Nat) : Decidable (Shows s n) :=
  inferInstanceAs (Decidable (readDigits? digitValue? (trimLeft s) = some n))

def numeralFirst (s : List Char) : List Char :=
  s.takeWhile isBlank ++ (trimLeft s).takeWhile isDigit

def NoDigitFirst (s : List Char) : Prop :=
  ∀ c ∈ s.head?, isDigit c = false

theorem noDigitFirst_nil : NoDigitFirst [] :=
  nofun

theorem noDigitFirst_cons {c : Char} (hc : isDigit c = false) (s : List Char) : NoDigitFirst (c :: s) := by
  rintro d ⟨⟩
  exact hc

theorem shows_of_readDigits? {s : List Char} {n : Nat} (h : readDigits? digitValue? s = some n) : Shows s n := by
  have hleft : trimLeft s = s := by
    cases s with
    | nil => rfl
    | cons c s =>
      have hc : isBlank c = false := not_isBlank_of_isDigit (isDigit_of_readDigits? h (List.mem_cons_self ..))
      exact List.dropWhile_cons_of_neg (by simp [hc])
  rw [Shows, hleft]
  exact h

namespace Shows

variable {s t x y : List Char} {m n : Nat}

theorem functional (hm : Shows s m) (hn : Shows s n) : m = n :=
  Option.some.inj (hm.symm.trans hn)

theorem isDigit_or_isBlank (h : Shows s n) {c : Char} (hc : c ∈ s) : isDigit c = true ∨ isBlank c = true := by
  rw [← List.takeWhile_append_dropWhile (p := isBlank) (l := s)] at hc
  rcases List.mem_append.mp hc with hc | hc
  · exact .inr (List.mem_takeWhile_imp hc)
  · exact .inl (isDigit_of_readDigits? h hc)

theorem notMem (h : Shows s n) {c : Char} (hc : ¬(isDigit c = true ∨ isBlank c = true)) : c ∉ s :=
  fun hmem => hc (h.isDigit_or_isBlank hmem)

theorem trimLeft_ne_nil (h : Shows s n) : trimLeft s ≠ [] :=
  ((readDigits?_eq_some_iff _ n).mp h).1

theorem numeralFirst_append (h : Shows s n) (hx : NoDigitFirst x) : numeralFirst (s ++ x) = s := by
  have hblank : (s ++ x).takeWhile isBlank = s.takeWhile isBlank := by
    rw [List.takeWhile_append, if_neg]
    intro hall
    refine h.trimLeft_ne_nil (List.dropWhile_eq_nil_iff.mpr fun c hc => ?_)
    rw [← (List.takeWhile_prefix _).eq_of_length hall] at hc
    exact List.mem_takeWhile_imp hc
  have hleft : trimLeft (s ++ x) = trimLeft s ++ x := by
    have hnot := h.trimLeft_ne_nil
    unfold trimLeft at hnot ⊢
    rw [List.dropWhile_append, if_neg (by simpa using hnot)]
  have hdigits : (trimLeft s ++ x).takeWhile isDigit = trimLeft s := by
    have hend : x.takeWhile isDigit = [] := by
      cases x with
      | nil => rfl
      | cons c x => exact List.takeWhile_cons_of_neg (by simp [hx c rfl])
    rw [List.takeWhile_append_of_pos fun c => isDigit_of_readDigits? h, hend, List.append_nil]
  rw [numeralFirst, hblank, hleft, hdigits]
  exact List.takeWhile_append_dropWhile

theorem append_inj (hs : Shows s m) (ht : Shows t n) (hx : NoDigitFirst x) (hy : NoDigitFirst y)
    (h : s ++ x = t ++ y) : m = n ∧ s = t ∧ x = y := by
  have hst : s = t := by
    rw [← hs.numeralFirst_append hx, h]
    exact ht.numeralFirst_append hy
  subst hst
  exact ⟨hs.functional ht, rfl, List.append_cancel_left h⟩

end Shows

end OvalCatalog.Text
