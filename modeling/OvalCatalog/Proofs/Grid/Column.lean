import OvalCatalog.Grid.Column
import OvalCatalog.Proofs.Number.Printing

namespace OvalCatalog.Grid

def Flat (s : List Char) : Prop :=
  ∀ c ∈ s, c ≠ '|' ∧ isBreak c = false

instance (s : List Char) : Decidable (Flat s) :=
  List.decidableBAll _ s

section Flat

variable {s t : List Char}

theorem Flat.mono (h : Flat s) (hts : t ⊆ s) : Flat t :=
  fun c hc => h c (hts hc)

theorem Flat.append (hs : Flat s) (ht : Flat t) : Flat (s ++ t) :=
  fun c hc => (List.mem_append.mp hc).elim (hs c) (ht c)

theorem Flat.trim (h : Flat s) : Flat (Text.trim s) :=
  h.mono fun _ => Text.mem_of_mem_trim

theorem flat_blanks (n : Nat) : Flat (List.replicate n ' ') := by
  intro c hc
  rw [List.eq_of_mem_replicate hc]
  decide

theorem flat_of_figures {s : String} (h : Number.Figures s) : Flat s.toList := by
  intro c hc
  have hrange := Number.toNat_of_isFigure (h c hc)
  refine ⟨?_, ?_⟩
  · rintro rfl
    exact absurd hrange.2 (by decide)
  · rw [isBreak, Bool.or_eq_false_iff, beq_eq_false_iff_ne, beq_eq_false_iff_ne]
    constructor <;> rintro rfl <;> exact absurd hrange.1 (by decide)

theorem Flat.bar_notMem (h : Flat s) : '|' ∉ s :=
  fun hmem => (h _ hmem).1 rfl

theorem Flat.break_notMem (h : Flat s) : '\n' ∉ s := by
  intro hmem
  exact absurd (h _ hmem).2 (by decide)

end Flat

theorem mem_replaceAfter {old new s : List Char} {n : Nat} {c : Char} (hc : c ∈ replaceAfter old new n s) :
    c ∈ s ∨ c ∈ new := by
  fun_induction replaceAfter old new n s <;> grind

theorem Flat.rounded {s : List Char} (h : Flat s) (escapes : Bool) : Flat (rounded escapes s) := by
  unfold Grid.rounded
  dsimp only
  split
  · next x _ =>
    have hdigits := flat_of_figures (Number.figures_general x.toFloat)
    split
    · exact fun c hc => (mem_replaceAfter hc).elim (h c) (hdigits c)
    · exact hdigits
  · exact h

theorem some?_suffix {p : Char → Bool} {s : List Char} {x : List Char × List Char} (h : some? p s = some x) :
    x.2 <:+ s := by
  unfold some? at h
  split at h
  · cases h
  · cases h
    exact List.dropWhile_suffix p

theorem coloured?_subset {s colour number after : List Char} (h : coloured? s = some (colour, number, after)) :
    colour ⊆ s ∧ after ⊆ s ∧ '[' ∈ s := by
  unfold coloured? at h
  simp only [bind, Option.bind_eq_some_iff] at h
  obtain ⟨c, -, h⟩ := h
  split at h
  · cases h
  · simp only [Option.bind_eq_some_iff] at h
    obtain ⟨rest, hrest, x, hx, y, hy, z, hz, h⟩ := h
    split at h
    · cases h
      have hmark : '[' :: rest <:+ s := by
        rw [Text.after?_eq_some_iff, List.singleton_append] at hrest
        rw [← hrest]
        exact (List.dropWhile_suffix _).trans (List.tail_suffix s)
      have hafter : z.2 <:+ '[' :: rest :=
        (some?_suffix hz).trans ((some?_suffix hy).trans ((some?_suffix hx).trans (List.suffix_cons '[' rest)))
      exact ⟨List.take_subset _ s, (hafter.trans hmark).subset, hmark.subset (List.mem_cons_self ..)⟩
    · cases h

theorem firstColoured?_subset {s colour number after : List Char}
    (h : firstColoured? s = some (colour, number, after)) : colour ⊆ s ∧ after ⊆ s ∧ '[' ∈ s := by
  induction s with
  | nil => cases h
  | cons c s ih =>
    rw [firstColoured?, Option.orElse_eq_orElse, Option.orElse_eq_or, Option.or_eq_some_iff] at h
    rcases h with h | ⟨-, h⟩
    · exact coloured?_subset h
    · obtain ⟨hcolour, hafter, hmark⟩ := ih h
      exact ⟨List.subset_cons_of_subset c hcolour, List.subset_cons_of_subset c hafter, List.mem_cons_of_mem c hmark⟩

theorem Flat.plainWhole {s : List Char} (h : Flat s) : Flat (plainWhole s) := by
  unfold Grid.plainWhole
  split
  · next colour number after hfound =>
    obtain ⟨hcolour, hafter, -⟩ := firstColoured?_subset hfound
    split
    · next n _ =>
      exact ((h.mono hcolour).append (flat_of_figures (Number.figures_toString n))).append (h.mono hafter)
    · exact h
  · exact h

theorem plainWhole_eq_self {s : List Char} (h : '[' ∉ s) : plainWhole s = s := by
  unfold plainWhole
  split
  · next hfound => exact absurd (firstColoured?_subset hfound).2.2 h
  · rfl

theorem Flat.printed {c : Cell} (h : Flat (c.getD "").toList) (escapes : Bool) (t : ColumnType) :
    Flat (printed escapes t c) := by
  unfold Grid.printed
  cases t
  · exact h
  · exact h.plainWhole
  · exact h.rounded escapes
  · exact h

namespace Column

variable (c : Column) (cell : Cell)

theorem trim_fill (width : Nat) (s : List Char) : Text.trim (c.fill width s) = Text.trim s := by
  have hblanks : ∀ d ∈ List.replicate (width - s.length) ' ', Text.isBlank d = true := by
    intro d hd
    rw [List.eq_of_mem_replicate hd]
    rfl
  unfold fill
  dsimp only
  split
  · exact Text.trim_append_left hblanks s
  · exact Text.trim_append_right hblanks s

theorem trim_text : Text.trim (c.text cell) = Text.trim (printed c.style.escapes c.type cell) := by
  unfold text
  dsimp only
  split
  · refine Text.trim_append_right (fun d hd => ?_) _
    rw [List.eq_of_mem_replicate hd]
    rfl
  · exact Text.trim_trim _

theorem flat_fill (width : Nat) {s : List Char} (h : Flat s) : Flat (c.fill width s) := by
  unfold fill
  dsimp only
  split
  · exact (flat_blanks _).append h
  · exact h.append (flat_blanks _)

theorem flat_text (h : Flat (cell.getD "").toList) : Flat (c.text cell) := by
  have hprinted := h.printed c.style.escapes c.type
  unfold text
  dsimp only
  split
  · exact hprinted.append (flat_blanks _)
  · exact hprinted.trim

def only : List Char :=
  c.fill (c.width + hidden (c.text cell)) (c.text cell)

theorem lines_eq_only (h : c.style.spread = false) : c.lines cell = [c.only cell] := by
  rw [lines, h]
  rfl

theorem trim_only : Text.trim (c.only cell) = Text.trim (printed c.style.escapes c.type cell) := by
  rw [only, trim_fill, trim_text]

theorem flat_only (h : Flat (cell.getD "").toList) : Flat (c.only cell) :=
  c.flat_fill _ (c.flat_text cell h)

end Column

end OvalCatalog.Grid
