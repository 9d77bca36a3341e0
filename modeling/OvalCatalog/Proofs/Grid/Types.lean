import OvalCatalog.Proofs.Grid.Column

/-! Which texts a column changes. Where no text has an escape sequence it is only a column of numbers, one of them with
decimals or an exponent, that prints other texts than it was given. -/

namespace OvalCatalog.Grid

theorem rank_foldl_le_iff (types : List ColumnType) (t : ColumnType) (n : Nat) :
    (types.foldl ColumnType.join t).rank ≤ n ↔ t.rank ≤ n ∧ ∀ u ∈ types, u.rank ≤ n := by
  induction types generalizing t with
  | nil => simp
  | cons u types ih =>
    rw [List.foldl_cons, ih, List.forall_mem_cons, ← and_assoc]
    refine and_congr_left fun _ => ?_
    unfold ColumnType.join
    split <;> omega

theorem rank_columnType_le_iff (cells : List Cell) (n : Nat) :
    (columnType cells).rank ≤ n ↔ ∀ c ∈ cells, (cellType c).rank ≤ n := by
  rw [columnType, rank_foldl_le_iff, List.forall_mem_map]
  exact and_iff_right (Nat.zero_le n)

theorem columnType_eq_real_iff (cells : List Cell) : columnType cells = .real ↔
    (∀ c ∈ cells, cellType c ≠ .text) ∧ ∃ c ∈ cells, cellType c = .real := by
  have hreal (t : ColumnType) : t = .real ↔ t.rank ≤ 2 ∧ ¬t.rank ≤ 1 := by cases t <;> decide
  have htext (t : ColumnType) : t.rank ≤ 2 ↔ t ≠ .text := by cases t <;> decide
  rw [hreal, rank_columnType_le_iff, rank_columnType_le_iff]
  simp only [htext, not_forall, exists_prop]
  refine and_congr_right fun hall => exists_congr fun c => and_congr_right fun hc => ?_
  rw [hreal, htext, and_iff_right (hall c hc)]

theorem after?_eq_none_of_notMem {mark : Char} {start s : List Char} (h : mark ∉ s) :
    Text.after? (mark :: start) s = none := by
  cases s with
  | nil => rfl
  | cons c s =>
    have hne : mark ≠ c := fun he => h (he ▸ List.mem_cons_self ..)
    rw [Text.after?, if_neg (by simpa using hne)]

theorem start?_eq_none {s : List Char} (h : Text.Escape.mark ∉ s) : Text.Escape.start? s = none := by
  rw [Text.Escape.start?, Text.Escape.control?, Text.Escape.link?, after?_eq_none_of_notMem h,
    after?_eq_none_of_notMem h]
  rfl

theorem occursIn_eq_false {s : List Char} (h : Text.Escape.mark ∉ s) : Text.Escape.occursIn s = false := by
  induction s with
  | nil => rfl
  | cons c s ih =>
    rw [Text.Escape.occursIn, start?_eq_none h, ih (List.not_mem_of_not_mem_cons h)]
    rfl

theorem visible_eq_self {s : List Char} (h : Text.Escape.mark ∉ s) : Text.visible s = s := by
  unfold Text.visible
  induction s with
  | nil => rfl
  | cons c s ih =>
    rw [Text.Escape.visibleAfter, start?_eq_none h]
    exact congrArg (c :: ·) (ih (List.not_mem_of_not_mem_cons h))

theorem mem_withoutMargins {s : List Char} {c : Char} (hc : c ∈ s) (hm : Number.isMargin c = false) :
    c ∈ Number.withoutMargins s := by
  have hdrop (t : List Char) (ht : c ∈ t) : c ∈ t.dropWhile Number.isMargin := by
    rw [← List.takeWhile_append_dropWhile (p := Number.isMargin) (l := t)] at ht
    rcases List.mem_append.mp ht with ht | ht
    · rw [List.mem_takeWhile_imp ht] at hm
      cases hm
    · exact ht
  rw [Number.withoutMargins, List.mem_reverse]
  apply hdrop
  rw [List.mem_reverse]
  exact hdrop s hc

theorem mem_cutSign {s : List Char} {c : Char} (hc : c ∈ s) (hplus : c ≠ '+') (hminus : c ≠ '-') :
    c ∈ (Number.cutSign s).2 := by
  unfold Number.cutSign
  split
  · exact (List.mem_cons.mp hc).resolve_left hminus
  · exact (List.mem_cons.mp hc).resolve_left hplus
  · exact hc

theorem mem_joinDigits {s : List Char} {c : Char} (hc : c ∈ s) (hne : c ≠ '_') : c ∈ Number.joinDigits s := by
  fun_induction Number.joinDigits s <;> grind

theorem bracket_notMem_of_isWhole {s : List Char} (h : isWhole s = true) : '[' ∉ s := by
  intro hmem
  -- neither margins, signs nor underscores are brackets, so that one would be left among the digits
  have hdigits : '[' ∈ Number.joinDigits (Number.cutSign (Number.withoutMargins s)).2 :=
    mem_joinDigits (mem_cutSign (mem_withoutMargins hmem (by decide)) (by decide) (by decide)) (by decide)
  rw [isWhole, Number.readWhole?] at h
  dsimp only at h
  split at h
  · cases h
  · obtain ⟨n, hn⟩ := Option.isSome_iff_exists.mp h
    obtain ⟨m, hm, -⟩ := Option.map_eq_some_iff.mp hn
    obtain ⟨k, hk, -⟩ := Option.bind_eq_some_iff.mp hm
    exact absurd (Text.isDigit_of_readDigits? hk hdigits) (by decide)

section Grouped

variable {s : List Char}

theorem bracket_mem_skipGroups (h : '[' ∈ s) : '[' ∈ skipGroups s := by
  have hdigit (c : Char) (hc : c.isDigit = true) : c ≠ '[' := by
    rintro rfl
    exact absurd hc (by decide)
  fun_induction skipGroups s <;> grind

theorem bracket_mem_dropDigits (h : '[' ∈ s) : '[' ∈ s.dropWhile Char.isDigit := by
  rw [← List.takeWhile_append_dropWhile (p := Char.isDigit) (l := s)] at h
  rcases List.mem_append.mp h with h | h
  · exact absurd (List.mem_takeWhile_imp h) (by decide)
  · exact h

theorem bracket_notMem_of_isOver (h : isOver s = true) : '[' ∉ s := by
  rw [isOver, Bool.or_eq_true, beq_iff_eq, beq_iff_eq] at h
  rcases h with rfl | rfl <;> decide

theorem bracket_notMem_of_isGrouped (h : isGrouped s = true) : '[' ∉ s := by
  intro hmem
  unfold isGrouped at h
  dsimp only at h
  split at h
  · split at h
    · next d rest _ =>
      rw [Bool.and_eq_true] at h
      have hrest : '[' ∈ rest := by
        have hd : '[' ≠ d := by
          rintro rfl
          exact absurd h.1 (by decide)
        simpa [hd] using hmem
      exact bracket_notMem_of_isOver h.2 (bracket_mem_dropDigits hrest)
    · exact bracket_notMem_of_isOver h hmem
  · rw [Bool.and_eq_true] at h
    have hgroups := bracket_mem_skipGroups (bracket_mem_dropDigits (mem_cutSign hmem (by decide) (by decide)))
    obtain ⟨-, h⟩ := h
    split at h
    · next rest hrest =>
      rw [hrest] at hgroups
      exact bracket_notMem_of_isOver h (bracket_mem_dropDigits (List.mem_of_ne_of_mem (by decide) hgroups))
    · exact bracket_notMem_of_isOver h hgroups

end Grouped

theorem bracket_notMem_of_typeOf {s : List Char} (h : (typeOf s).rank ≤ 1) : '[' ∉ s := by
  unfold typeOf at h
  split at h
  · next htruth =>
    rcases htruth with rfl | rfl <;> decide
  split at h
  · next hwhole =>
    rw [Bool.or_eq_true, Bool.and_eq_true] at hwhole
    rcases hwhole with hwhole | ⟨hgrouped, -⟩
    · exact bracket_notMem_of_isWhole hwhole
    · exact bracket_notMem_of_isGrouped hgrouped
  split at h
  · exact absurd h (by decide)
  · exact absurd h (by decide)

theorem bracket_notMem_of_cellType {s : String} (hmark : Text.Escape.mark ∉ s.toList)
    (h : (cellType (some s)).rank ≤ 1) : '[' ∉ s.toList := by
  unfold cellType at h
  split at h
  · next hnone => cases hnone
  · next hempty =>
    cases hempty
    exact List.not_mem_nil
  · next hsome =>
    cases hsome
    rw [visible_eq_self hmark] at h
    exact bracket_notMem_of_typeOf h

/-- If all of these texts are numbers and one is a real, each is written just as its number is with six significant
digits. -/
def Faithful (texts : List String) : Prop :=
  (∀ s ∈ texts, cellType (some s) ≠ .text) → (∃ s ∈ texts, cellType (some s) = .real) →
    ∀ s ∈ texts, ∀ x, Number.readReal? (s.toList.filter (· != ',')) = some x →
      (Number.general x.toFloat).toList = Text.trim s.toList

theorem faithful_iff (texts : List String) : Faithful texts ↔ (columnType (texts.map some) = .real →
    ∀ s ∈ texts, ∀ x, Number.readReal? (s.toList.filter (· != ',')) = some x →
      (Number.general x.toFloat).toList = Text.trim s.toList) := by
  rw [columnType_eq_real_iff, List.forall_mem_map, and_imp]
  simp only [List.mem_map, exists_exists_and_eq_and]
  rfl

theorem trim_of_figures {s : String} (h : Number.Figures s) : Text.trim s.toList = s.toList := by
  have hblank : ∀ c ∈ s.toList, Text.isBlank c = false := by
    intro c hc
    have hrange := Number.toNat_of_isFigure (h c hc)
    simp only [Text.isBlank, Bool.or_eq_false_iff, Bool.and_eq_false_iff, decide_eq_false_iff_not,
      beq_eq_false_iff_ne]
    omega
  exact Text.trim_eq_self (fun c hc => hblank c (List.mem_of_mem_head? hc))
    fun c hc => hblank c (List.mem_of_mem_getLast? hc)

theorem trim_rounded_iff (s : List Char) : Text.trim (rounded false s) = Text.trim s ↔
    ∀ x, Number.readReal? (s.filter (· != ',')) = some x → (Number.general x.toFloat).toList = Text.trim s := by
  unfold rounded
  dsimp only
  cases hx : Number.readReal? (s.filter (· != ',')) with
  | none => simp [hx]
  | some x => simp [hx, trim_of_figures (Number.figures_general x.toFloat)]

theorem trim_printed_iff {texts : List String} (hmark : ∀ s ∈ texts, Text.Escape.mark ∉ s.toList) :
    (∀ s ∈ texts, Text.trim (printed false (columnType (texts.map some)) (some s)) = Text.trim s.toList) ↔
      Faithful texts := by
  rw [faithful_iff]
  cases ht : columnType (texts.map some) with
  | truth => simp [printed]
  | text => simp [printed]
  | real =>
    simp only [forall_const]
    exact forall₂_congr fun s _ => trim_rounded_iff s.toList
  | whole =>
    refine iff_of_true (fun s hs => ?_) nofun
    have hrank : (cellType (some s)).rank ≤ 1 :=
      (rank_columnType_le_iff (texts.map some) 1).mp (by rw [ht]; decide) _ (List.mem_map_of_mem hs)
    exact congrArg Text.trim (plainWhole_eq_self (bracket_notMem_of_cellType (hmark s hs) hrank))

end OvalCatalog.Grid
