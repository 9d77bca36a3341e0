import OvalCatalog.Proofs.Text.Cutting
import OvalCatalog.Release

namespace OvalCatalog.Release

open Text (isBlank trim Trimmed)

def Separates (c : Char) : Prop :=
  c = '.' ∨ c = '-' ∨ c = '(' ∨ isBlank c = true

def Plain (s : List Char) : Prop :=
  ∀ c ∈ s, ¬Separates c

structure LongestPlain (s m : List Char) : Prop where
  start : m <+: s
  plain : Plain m
  longest : ∀ p, p <+: s → Plain p → p <+: m

theorem isSeparator_iff (c : Char) : isSeparator c = true ↔ Separates c := by
  simp [isSeparator, Separates, or_assoc]

theorem not_isSeparator_iff (c : Char) : (!isSeparator c) = true ↔ ¬Separates c := by
  rw [Bool.not_eq_true', ← isSeparator_iff, Bool.not_eq_true]

theorem Plain.not_isBlank {s : List Char} (h : Plain s) : ∀ c ∈ s, isBlank c = false :=
  fun c hc => Bool.eq_false_iff.mpr fun hb => h c hc (.inr (.inr (.inr hb)))

theorem LongestPlain.unique {s m m' : List Char} (h : LongestPlain s m) (h' : LongestPlain s m') : m = m' :=
  (h'.longest m h.start h.plain).eq_of_length_le (h.longest m' h'.start h'.plain).length_le

theorem separates_head_nil : ∀ c ∈ ([] : List Char).head?, Separates c :=
  nofun

theorem longestPlain_append {m rest : List Char} (hm : Plain m) (hrest : ∀ c ∈ rest.head?, Separates c) :
    LongestPlain (m ++ rest) m where
  start := List.prefix_append m rest
  plain := hm
  longest p hp hplain := by
    rcases List.prefix_or_prefix_of_prefix hp (List.prefix_append m rest) with h | ⟨q, rfl⟩
    · exact h
    · cases q with
      | nil => exact by simp
      | cons c q =>
        -- a longer start has the first character of the rest, which is a separator
        obtain ⟨t, rfl⟩ := (List.prefix_append_right_inj m).mp hp
        exact absurd (hrest c rfl) (hplain c (by simp))

theorem longestPlain_major (v : List Char) : LongestPlain (trim v) (major v) := by
  have hm : Plain (major v) := by
    intro c hc
    rw [major] at hc
    exact (not_isSeparator_iff c).mp (List.mem_takeWhile_imp (p := fun c => !isSeparator c) hc)
  have hrest : ∀ c ∈ ((trim v).dropWhile fun c => !isSeparator c).head?, Separates c := by
    intro c hc
    have hnot := List.head?_dropWhile_not (fun c => !isSeparator c) (trim v)
    rw [Option.mem_def.mp hc] at hnot
    change (!isSeparator c) = false at hnot
    rwa [Bool.not_eq_false', isSeparator_iff] at hnot
  have hlongest := longestPlain_append hm hrest
  rwa [major, List.takeWhile_append_dropWhile] at hlongest

theorem major_eq_iff (v m : List Char) : major v = m ↔ ∃ middle, Trimmed v middle ∧ LongestPlain middle m := by
  constructor
  · rintro rfl
    exact ⟨trim v, Text.trimmed_trim v, longestPlain_major v⟩
  · rintro ⟨middle, hmiddle, hm⟩
    obtain rfl := hmiddle.eq_trim
    exact (longestPlain_major v).unique hm

theorem longestPlain_trim {m rest : List Char} (hne : m ≠ []) (hm : Plain m)
    (hrest : ∀ c ∈ rest.head?, Separates c) : LongestPlain (trim (m ++ rest)) m := by
  obtain ⟨⟨before, after, heq, hb, ha⟩, -, -⟩ := Text.trimmed_trim (m ++ rest)
  generalize trim (m ++ rest) = middle at *
  have hbefore : before = [] := by
    obtain ⟨c, m, rfl⟩ := List.exists_cons_of_ne_nil hne
    cases before with
    | nil => rfl
    | cons d before =>
      obtain ⟨rfl, -⟩ := List.cons.inj heq
      have hplain := hm.not_isBlank c (by simp)
      rw [hb c (by simp)] at hplain
      cases hplain
  rw [hbefore, List.nil_append] at heq
  rcases List.append_eq_append_iff.mp heq with ⟨t, rfl, rfl⟩ | ⟨t, rfl, rfl⟩
  · refine longestPlain_append hm fun c hc => hrest c ?_
    rw [List.head?_append, Option.mem_def.mp hc]
    rfl
  · -- what was cut off is white space, so that it is nothing of the word
    cases t with
    | nil => simpa using longestPlain_append hm separates_head_nil
    | cons c t =>
      have hplain := hm.not_isBlank c (by simp)
      rw [ha c (by simp)] at hplain
      cases hplain

theorem major_append {m rest : List Char} (hne : m ≠ []) (hm : Plain m)
    (hrest : ∀ c ∈ rest.head?, Separates c) : major (m ++ rest) = m :=
  (longestPlain_major (m ++ rest)).unique (longestPlain_trim hne hm hrest)

theorem major_major (v : List Char) : major (major v) = major v := by
  by_cases hne : major v = []
  · rw [hne]
    rfl
  · simpa using major_append hne (longestPlain_major v).plain separates_head_nil

theorem major_surrounded {before after : List Char} (hb : ∀ c ∈ before, isBlank c = true)
    (ha : ∀ c ∈ after, isBlank c = true) (v : List Char) : major (before ++ v ++ after) = major v := by
  rw [major, Text.trim_append hb ha, major]

/-- The major version of a text is the longest start without a separator of what is left of the text without
the white space around it. It is its own major version, white space around a text does not change it, and a
word without separators is the major version of each text in which nothing or a separator follows it. -/
theorem majorVersion_exact (v : String) :
    (∀ m, majorVersion v = m ↔ ∃ middle, Trimmed v.toList middle ∧ LongestPlain middle m.toList) ∧
    majorVersion (majorVersion v) = majorVersion v ∧
    (∀ before after : String, (∀ c ∈ before.toList, isBlank c = true) → (∀ c ∈ after.toList, isBlank c = true) →
      majorVersion (before ++ v ++ after) = majorVersion v) ∧
    ∀ m rest : String, m ≠ "" → Plain m.toList → (rest = "" ∨ ∃ c ∈ rest.toList.head?, Separates c) →
      majorVersion (m ++ rest) = m := by
  refine ⟨fun m => ?_, ?_, fun before after hb ha => ?_, fun m rest hne hm hrest => ?_⟩
  · rw [← major_eq_iff, majorVersion, ← String.toList_inj, String.toList_ofList]
  · rw [majorVersion, majorVersion, String.toList_ofList, major_major]
  · rw [majorVersion, String.toList_append, String.toList_append, major_surrounded hb ha, majorVersion]
  · rw [majorVersion, String.toList_append, major_append, String.ofList_toList]
    · simpa using hne
    · exact hm
    · rcases hrest with rfl | ⟨c, hc, hsep⟩
      · simp
      · intro d hd
        rwa [Option.mem_unique hd hc]

example : majorVersion " 9 (stretch)" = "9" := by decide

end OvalCatalog.Release
