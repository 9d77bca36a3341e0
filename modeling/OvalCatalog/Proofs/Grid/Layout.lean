import OvalCatalog.Grid.Layout
import OvalCatalog.Proofs.Grid.Types

/-! Grids read back. A grid of texts without bars and line breaks has one line for each row, and between the bars of
a line stand the printed cells of its row. -/

namespace OvalCatalog.Grid

def cells (line : List Char) : List (List Char) :=
  ((Text.splitOn (· == '|') line).tail.dropLast).map Text.trim

theorem toList_line {parts : List (List Char)} (hne : parts ≠ []) :
    (line parts).toList = ['|'].intercalate ([] :: ((parts.map fun s => ' ' :: s ++ [' ']) ++ [[]])) := by
  have hbody : ' ' :: ([' ', '|', ' '].intercalate parts ++ [' ', '|']) =
      ['|'].intercalate ((parts.map fun s => ' ' :: s ++ [' ']) ++ [[]]) := by
    induction parts with
    | nil => exact absurd rfl hne
    | cons s parts ih =>
      by_cases hparts : parts = []
      · subst hparts
        simp [List.intercalate]
      · rw [List.map_cons, List.cons_append, List.intercalate_cons_of_ne_nil hparts,
          List.intercalate_cons_of_ne_nil (by simp), ← ih hparts]
        simp
  rw [List.intercalate_cons_of_ne_nil (by simp), ← hbody]
  simp [line, String.toList_intercalate, Function.comp_def]

theorem cells_line {parts : List (List Char)} (hne : parts ≠ []) (hparts : ∀ s ∈ parts, '|' ∉ s) :
    cells (line parts).toList = parts.map Text.trim := by
  have hmarks : ∀ s ∈ [] :: ((parts.map fun s => ' ' :: s ++ [' ']) ++ [[]]), '|' ∉ s := by
    rintro s hs
    rcases List.mem_cons.mp hs with rfl | hs
    · exact List.not_mem_nil
    rcases List.mem_append.mp hs with hs | hs
    · obtain ⟨t, ht, rfl⟩ := List.mem_map.mp hs
      simpa using hparts t ht
    · rw [List.mem_singleton.mp hs]
      exact List.not_mem_nil
  rw [cells, toList_line hne, Text.splitOn_intercalate (List.cons_ne_nil _ _) hmarks, List.tail_cons,
    List.dropLast_concat, List.map_map]
  apply List.map_congr_left
  have hblank : ∀ c ∈ [' '], Text.isBlank c = true := List.forall_mem_singleton.mpr rfl
  intro s _
  exact Text.trim_append hblank hblank s

theorem break_notMem_line {parts : List (List Char)} (hparts : ∀ s ∈ parts, '\n' ∉ s) :
    '\n' ∉ (line parts).toList := by
  intro hmem
  rw [line, String.toList_append, String.toList_append, List.mem_append, List.mem_append] at hmem
  rcases hmem with (hmem | hmem) | hmem
  · exact absurd hmem (by decide)
  · rcases Text.mem_toList_intercalate hmem with hmem | ⟨s, hs, hmem⟩
    · exact absurd hmem (by decide)
    · obtain ⟨t, ht, rfl⟩ := List.mem_map.mp hs
      rw [String.toList_ofList] at hmem
      exact hparts t ht hmem
  · exact absurd hmem (by decide)

theorem mem_rule {columns : List Column} {c : Char} (hc : c ∈ (rule columns).toList) : c = '|' ∨ c = '-' := by
  rw [rule, String.toList_append, String.toList_append, List.mem_append, List.mem_append] at hc
  rcases hc with (hc | hc) | hc
  · exact .inl (List.mem_singleton.mp hc)
  · rcases Text.mem_toList_intercalate hc with hc | ⟨s, hs, hc⟩
    · exact .inl (List.mem_singleton.mp hc)
    · obtain ⟨t, -, rfl⟩ := List.mem_map.mp hs
      rw [String.toList_ofList] at hc
      exact .inr (List.eq_of_mem_replicate hc)
  · exact .inl (List.mem_singleton.mp hc)

section Fields

variable {α : Type} {fields : List (String × (α → Cell))} {items : List α}

def rowOf (fields : List (String × (α → Cell))) (a : α) : List Cell :=
  fields.map fun f => f.2 a

def columnOf (st : Style) (items : List α) (f : String × (α → Cell)) : Column :=
  Column.of st f.1 (items.map f.2)

def itemLine (st : Style) (fields : List (String × (α → Cell))) (items : List α) (a : α) : String :=
  line (fields.map fun f => (columnOf st items f).only (f.2 a))

theorem columnsOf_rows (st : Style) (fields : List (String × (α → Cell))) (items : List α) :
    columnsOf st (fields.map (·.1)) (items.map (rowOf fields)) = fields.map (columnOf st items) := by
  induction fields with
  | nil => rfl
  | cons f fields ih =>
    rw [List.map_cons, List.map_cons, columnsOf, List.map_map, List.map_map, ← ih]
    rfl

theorem greatest_replicate_one {n : Nat} (hn : n ≠ 0) : greatest (List.replicate n 1) = 1 := by
  obtain ⟨n, rfl⟩ := Nat.exists_eq_succ_of_ne_zero hn
  unfold greatest
  rw [List.replicate_succ, List.foldl_cons]
  induction n with
  | zero => rfl
  | succ n ih => exact ih (Nat.succ_ne_zero n)

theorem rowLines_rowOf {st : Style} (hspread : st.spread = false) (hfields : fields ≠ []) (items : List α) (a : α) :
    rowLines (fields.map (columnOf st items)) (rowOf fields a) = [itemLine st fields items a] := by
  have hcells : List.zipWith Column.lines (fields.map (columnOf st items)) (rowOf fields a) =
      fields.map fun f => [(columnOf st items f).only (f.2 a)] := by
    rw [rowOf, List.zipWith_map, List.zipWith_self]
    exact List.map_congr_left fun f _ => Column.lines_eq_only _ _ hspread
  have hlength : greatest ((fields.map fun f => [(columnOf st items f).only (f.2 a)]).map List.length) = 1 := by
    rw [List.map_map]
    exact (congrArg greatest (List.map_const' ..)).trans (greatest_replicate_one (by simpa using hfields))
  rw [rowLines, hcells, hlength, List.range_one, List.map_singleton, List.zipWith_map, List.zipWith_self]
  rfl

theorem spread_eq_false (headers : List String)
    (hcells : ∀ a ∈ items, ∀ f ∈ fields, Flat ((f.2 a).getD "").toList) :
    (styleOf headers (items.map (rowOf fields))).spread = false := by
  simp only [styleOf, List.any_eq_false, List.forall_mem_map, rowOf, List.any_eq_true, hasBreak]
  rintro a ha ⟨c, hc, d, hd, hbreak⟩
  obtain ⟨f, hf, rfl⟩ := List.mem_map.mp hc
  rw [(hcells a ha f hf d hd).2] at hbreak
  cases hbreak

theorem escapes_eq_false (hheaders : ∀ h ∈ fields.map (·.1), Text.Escape.mark ∉ h.toList)
    (hcells : ∀ a ∈ items, ∀ f ∈ fields, Text.Escape.mark ∉ ((f.2 a).getD "None").toList) :
    (styleOf (fields.map (·.1)) (items.map (rowOf fields))).escapes = false := by
  refine occursIn_eq_false fun hmem => ?_
  rcases Text.mem_toList_intercalate hmem with hmem | ⟨t, ht, hmem⟩
  · exact absurd hmem (by decide)
  rcases List.mem_append.mp ht with ht | ht
  · exact hheaders t ht hmem
  · obtain ⟨r, hr, ht⟩ := List.mem_flatMap.mp ht
    obtain ⟨a, ha, rfl⟩ := List.mem_map.mp hr
    obtain ⟨c, hc, rfl⟩ := List.mem_map.mp ht
    obtain ⟨f, hf, rfl⟩ := List.mem_map.mp hc
    exact hcells a ha f hf hmem

theorem render_rows {st : Style} (hst : styleOf (fields.map (·.1)) (items.map (rowOf fields)) = st)
    (hspread : st.spread = false) (hfields : fields ≠ []) (hrules : ∀ a ∈ items, isRule (rowOf fields a) = false) :
    render (fields.map (·.1)) (items.map (rowOf fields)) =
      String.intercalate "\n" (line ((fields.map (columnOf st items)).map Column.headerText) ::
        rule (fields.map (columnOf st items)) :: items.map (itemLine st fields items)) := by
  have hdata : (items.map (rowOf fields)).filter (fun r => !isRule r) = items.map (rowOf fields) := by
    rw [List.filter_eq_self, List.forall_mem_map]
    intro a ha
    rw [hrules a ha, Bool.not_false]
  have hbody : (items.map (rowOf fields)).flatMap (fun r => if isRule r then [rule (fields.map (columnOf st items))]
      else rowLines (fields.map (columnOf st items)) r) = items.map (itemLine st fields items) := by
    rw [List.flatMap_map, List.map_eq_flatMap (l := items)]
    apply List.flatMap_congr
    intro a ha
    rw [hrules a ha]
    exact rowLines_rowOf hspread hfields items a
  rw [render, hdata, hst, columnsOf_rows, hbody]

theorem lines_render (hfields : fields ≠ []) (hheaders : ∀ h ∈ fields.map (·.1), Flat h.toList)
    (hcells : ∀ a ∈ items, ∀ f ∈ fields, Flat ((f.2 a).getD "").toList)
    (hrules : ∀ a ∈ items, isRule (rowOf fields a) = false) :
    ∃ header rule rows, Text.splitOn (· == '\n') (render (fields.map (·.1)) (items.map (rowOf fields))).toList =
        header :: rule :: rows ∧
      cells header = fields.map (fun f => Text.trim f.1.toList) ∧ (∀ c ∈ rule, c = '|' ∨ c = '-') ∧
        rows.map cells = items.map fun a => fields.map fun f => Text.trim (printed
          (styleOf (fields.map (·.1)) (items.map (rowOf fields))).escapes (columnType (items.map f.2)) (f.2 a)) := by
  have hspread := spread_eq_false (fields.map (·.1)) hcells
  generalize hst : styleOf (fields.map (·.1)) (items.map (rowOf fields)) = st at hspread ⊢
  have hheader : ∀ s ∈ (fields.map (columnOf st items)).map Column.headerText, Flat s := by
    rw [List.forall_mem_map, List.forall_mem_map]
    exact fun f hf => Column.flat_fill _ _ (hheaders f.1 (List.mem_map_of_mem hf))
  have hitem : ∀ a ∈ items, ∀ s ∈ fields.map fun f => (columnOf st items f).only (f.2 a), Flat s := by
    intro a ha
    rw [List.forall_mem_map]
    exact fun f hf => Column.flat_only _ _ (hcells a ha f hf)
  refine ⟨(line ((fields.map (columnOf st items)).map Column.headerText)).toList,
    (rule (fields.map (columnOf st items))).toList, (items.map (itemLine st fields items)).map String.toList, ?_, ?_,
    fun c => mem_rule, ?_⟩
  · rw [render_rows hst hspread hfields hrules, String.toList_intercalate]
    refine Text.splitOn_intercalate (List.cons_ne_nil _ _) ?_
    rw [List.map_cons, List.map_cons, List.forall_mem_cons, List.forall_mem_cons, List.forall_mem_map,
      List.forall_mem_map]
    refine ⟨break_notMem_line fun s hs => (hheader s hs).break_notMem, fun hmem => ?_, ?_⟩
    · exact absurd (mem_rule hmem) (by decide)
    · exact fun a ha => break_notMem_line fun s hs => (hitem a ha s hs).break_notMem
  · rw [cells_line (by simpa using hfields) fun s hs => (hheader s hs).bar_notMem, List.map_map, List.map_map]
    exact List.map_congr_left fun f _ => Column.trim_fill _ _ _
  · rw [List.map_map, List.map_map]
    refine List.map_congr_left fun a ha => ?_
    rw [Function.comp_apply, Function.comp_apply, itemLine,
      cells_line (by simpa using hfields) fun s hs => (hitem a ha s hs).bar_notMem, List.map_map]
    exact List.map_congr_left fun f _ => Column.trim_only _ _

end Fields

end OvalCatalog.Grid
