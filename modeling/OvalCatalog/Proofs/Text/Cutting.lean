import Mathlib.Data.List.DropRight
import OvalCatalog.Text.Blank
import OvalCatalog.Text.Digit
import OvalCatalog.Text.Lines

namespace OvalCatalog.Text

theorem trimLeft_blank {s : List Char} (hs : ∀ c ∈ s, isBlank c = true) : trimLeft s = [] :=
  List.dropWhile_eq_nil_iff.mpr hs

theorem trimLeft_append {before : List Char} (hb : ∀ c ∈ before, isBlank c = true) (s : List Char) :
    trimLeft (before ++ s) = trimLeft s :=
  List.dropWhile_append_of_pos hb

theorem trimRight_append {after : List Char} (ha : ∀ c ∈ after, isBlank c = true) (s : List Char) :
    trimRight (s ++ after) = trimRight s := by
  have ha' : ∀ c ∈ after.reverse, isBlank c = true := fun c hc => ha c (List.mem_reverse.mp hc)
  rw [trimRight, List.reverse_append, trimLeft_append ha', trimRight]

theorem trim_append {before after : List Char} (hb : ∀ c ∈ before, isBlank c = true)
    (ha : ∀ c ∈ after, isBlank c = true) (s : List Char) : trim (before ++ s ++ after) = trim s := by
  rw [trim, List.append_assoc, trimLeft_append hb, trimLeft, List.dropWhile_append]
  split
  · next hs =>
    have hs' : trimLeft s = [] := List.isEmpty_iff.mp hs
    have hafter := trimLeft_blank ha
    rw [trimLeft] at hafter
    rw [trim, hs', hafter]
  · rw [trimRight_append ha]
    rfl

theorem trim_append_left {before : List Char} (hb : ∀ c ∈ before, isBlank c = true) (s : List Char) :
    trim (before ++ s) = trim s := by
  rw [trim, trimLeft_append hb, trim]

theorem trim_append_right {after : List Char} (ha : ∀ c ∈ after, isBlank c = true) (s : List Char) :
    trim (s ++ after) = trim s :=
  trim_append (List.forall_mem_nil _) ha s

theorem trim_eq_self {s : List Char} (hfirst : ∀ c ∈ s.head?, isBlank c = false)
    (hlast : ∀ c ∈ s.getLast?, isBlank c = false) : trim s = s := by
  have hleft : trimLeft s = s := by
    cases s with
    | nil => rfl
    | cons c rest => exact List.dropWhile_cons_of_neg (by simp [hfirst c rfl])
  rw [trim, hleft]
  apply List.rdropWhile_eq_self_iff.mpr
  intro hs
  simp [hlast _ (List.getLast?_eq_some_getLast hs)]

structure Trimmed (s middle : List Char) : Prop where
  around : ∃ before after, s = before ++ middle ++ after ∧ (∀ c ∈ before, isBlank c = true) ∧
    ∀ c ∈ after, isBlank c = true
  first : ∀ c ∈ middle.head?, isBlank c = false
  last : ∀ c ∈ middle.getLast?, isBlank c = false

theorem Trimmed.eq_trim {s middle : List Char} (h : Trimmed s middle) : middle = trim s := by
  obtain ⟨⟨before, after, rfl, hb, ha⟩, hfirst, hlast⟩ := h
  rw [trim_append hb ha, trim_eq_self hfirst hlast]

theorem trimmed_trim (s : List Char) : Trimmed s (trim s) where
  around := by
    refine ⟨s.takeWhile isBlank, (trimLeft s).rtakeWhile isBlank, ?_, fun c hc => List.mem_takeWhile_imp hc,
      fun c hc => List.mem_rtakeWhile_imp hc⟩
    have hright : trim s ++ (trimLeft s).rtakeWhile isBlank = trimLeft s := List.rdropWhile_append_rtakeWhile ..
    rw [List.append_assoc, hright, trimLeft, List.takeWhile_append_dropWhile]
  first c hc := by
    obtain ⟨after, hafter⟩ : trim s <+: trimLeft s := List.rdropWhile_prefix isBlank (trimLeft s)
    have hhead : (s.dropWhile isBlank).head? = some c := by
      rw [← trimLeft, ← hafter, List.head?_append, Option.mem_def.mp hc, Option.some_or]
    have hnot := List.head?_dropWhile_not isBlank s
    rwa [hhead] at hnot
  last c hc := by
    obtain ⟨hne, rfl⟩ := List.mem_getLast?_eq_getLast hc
    exact Bool.eq_false_iff.mpr (List.rdropWhile_last_not isBlank (trimLeft s) hne)

theorem trim_trim (s : List Char) : trim (trim s) = trim s :=
  trim_eq_self (trimmed_trim s).first (trimmed_trim s).last

theorem mem_of_mem_trim {s : List Char} {c : Char} (hc : c ∈ trim s) : c ∈ s := by
  obtain ⟨before, after, hs, -⟩ := (trimmed_trim s).around
  rw [hs]
  exact List.mem_append_left after (List.mem_append_right before hc)

theorem not_isBlank_of_isDigit {c : Char} (hc : isDigit c = true) : isBlank c = false := by
  -- Every run of ten digits lies between two neighbouring blocks of white space.
  have hzeros : ∀ z ∈ digitZeros, z = 0x30 ∨ (0xa0 < z ∧ z + 9 < 0x1680) ∨ (0x1680 < z ∧ z + 9 < 0x2000) ∨
      0x3000 < z := by decide
  rw [isDigit, digitValue?, Option.isSome_map, List.find?_isSome] at hc
  obtain ⟨z, hz, hrange⟩ := hc
  simp only [Bool.and_eq_true, decide_eq_true_eq] at hrange
  have hz := hzeros z hz
  simp only [isBlank, Bool.or_eq_false_iff, Bool.and_eq_false_iff, decide_eq_false_iff_not, beq_eq_false_iff_ne]
  omega

theorem after?_eq_some_iff (start s rest : List Char) : after? start s = some rest ↔ s = start ++ rest := by
  fun_induction after? start s with
  | case1 s => simp
  | case2 => simp
  | case3 c start d s hc ih =>
    obtain rfl : c = d := beq_iff_eq.mp hc
    simp [ih]
  | case4 c start d s hc =>
    have hne : d ≠ c := fun h => hc (beq_iff_eq.mpr h.symm)
    simp [hne]

theorem after?_append (start rest : List Char) : after? start (start ++ rest) = some rest :=
  (after?_eq_some_iff start _ rest).mpr rfl

theorem cut?_eq_some_iff (mark : Char) (s before after : List Char) :
    cut? mark s = some (before, after) ↔ s = before ++ mark :: after ∧ mark ∉ before := by
  fun_induction cut? mark s generalizing before with
  | case1 => simp
  | case2 c rest hc =>
    obtain rfl : c = mark := beq_iff_eq.mp hc
    cases before <;> grind
  | case3 c rest hc ih =>
    have hne : mark ≠ c := fun h => hc (beq_iff_eq.mpr h.symm)
    constructor
    · intro h
      obtain ⟨⟨a, b⟩, hcut, ⟨⟩⟩ := Option.map_eq_some_iff.mp h
      obtain ⟨rfl, ha⟩ := (ih a).mp hcut
      exact ⟨rfl, List.not_mem_cons_of_ne_of_not_mem hne ha⟩
    · rintro ⟨hs, hmark⟩
      cases before with
      | nil => exact absurd (List.cons.inj hs).1.symm hne
      | cons d before =>
        obtain ⟨rfl, hrest⟩ := List.cons.inj hs
        have hcut := (ih before).mpr ⟨hrest, List.not_mem_of_not_mem_cons hmark⟩
        rw [hcut, Option.map_some]

theorem cutLast?_eq_some_iff (mark : Char) (s before after : List Char) :
    cutLast? mark s = some (before, after) ↔ s = before ++ mark :: after ∧ mark ∉ after := by
  rw [cutLast?, Option.map_eq_some_iff]
  constructor
  · rintro ⟨⟨a, b⟩, hcut, ⟨⟩⟩
    obtain ⟨hs, ha⟩ := (cut?_eq_some_iff mark s.reverse a b).mp hcut
    refine ⟨?_, by simpa using ha⟩
    rw [← List.reverse_reverse s, hs]
    simp
  · rintro ⟨rfl, ha⟩
    refine ⟨(after.reverse, before.reverse), ?_, by simp⟩
    rw [cut?_eq_some_iff]
    simpa using ha

theorem first_or_later {mark : Char} {before after first rest : List Char} (hfirst : mark ∉ first)
    (h : before ++ mark :: after = first ++ mark :: rest) :
    (before = first ∧ after = rest) ∨ ∃ between, before = first ++ mark :: between ∧ rest = between ++ mark :: after := by
  rcases List.append_eq_append_iff.mp h with ⟨between, rfl, hafter⟩ | ⟨between, rfl, hrest⟩
  · cases between with
    | nil => exact .inl ⟨by simp, (List.cons.inj hafter).2⟩
    | cons c between =>
      obtain ⟨rfl, -⟩ := List.cons.inj hafter
      simp at hfirst
  · cases between with
    | nil => exact .inl ⟨by simp, (List.cons.inj hrest).2.symm⟩
    | cons c between =>
      obtain ⟨rfl, hlater⟩ := List.cons.inj hrest
      exact .inr ⟨between, rfl, hlater⟩

theorem afterLast_append_mark (mark : Char) (s t : List Char) :
    afterLast mark (s ++ mark :: t) = afterLast mark t := by
  rw [afterLast, afterLast, List.reverse_append, List.reverse_cons, List.append_assoc, List.takeWhile_append]
  split
  · next hall =>
    have hrest : List.takeWhile (· != mark) ([mark] ++ s.reverse) = [] := by simp
    rw [hrest, List.append_nil, (List.takeWhile_prefix _).eq_of_length hall]
  · rfl

theorem splitOn_eq_splitOnP (p : Char → Bool) (s : List Char) : splitOn p s = s.splitOnP p := by
  induction s with
  | nil => rfl
  | cons c s ih =>
    obtain ⟨part, parts, hparts⟩ := List.exists_cons_of_ne_nil (List.splitOnP_ne_nil p s)
    rw [List.splitOnP_cons_eq_if_modifyHead, splitOn, ih, hparts]
    rfl

theorem splitOn_intercalate {mark : Char} {parts : List (List Char)} (hne : parts ≠ [])
    (hparts : ∀ s ∈ parts, mark ∉ s) : splitOn (· == mark) ([mark].intercalate parts) = parts := by
  rw [splitOn_eq_splitOnP]
  exact List.splitOn_intercalate mark hparts hne

theorem mem_intercalate {mark : List Char} {parts : List (List Char)} {c : Char} (hc : c ∈ mark.intercalate parts) :
    c ∈ mark ∨ ∃ s ∈ parts, c ∈ s := by
  induction parts with
  | nil => cases hc
  | cons s parts ih =>
    by_cases hparts : parts = []
    · subst hparts
      rw [List.intercalate_singleton] at hc
      exact .inr ⟨s, List.mem_singleton_self s, hc⟩
    · rw [List.intercalate_cons_of_ne_nil hparts, List.mem_append, List.mem_append] at hc
      rcases hc with (hc | hc) | hc
      · exact .inr ⟨s, List.mem_cons_self .., hc⟩
      · exact .inl hc
      · refine (ih hc).imp_right ?_
        rintro ⟨t, ht, hc⟩
        exact ⟨t, List.mem_cons_of_mem s ht, hc⟩

theorem mem_toList_intercalate {mark : String} {parts : List String} {c : Char}
    (hc : c ∈ (String.intercalate mark parts).toList) : c ∈ mark.toList ∨ ∃ s ∈ parts, c ∈ s.toList := by
  rw [String.toList_intercalate] at hc
  refine (mem_intercalate hc).imp_right ?_
  rintro ⟨t, ht, hc⟩
  obtain ⟨s, hs, rfl⟩ := List.mem_map.mp ht
  exact ⟨s, hs, hc⟩

end OvalCatalog.Text
