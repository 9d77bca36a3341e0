import OvalCatalog.Number.Decimal
import OvalCatalog.Proofs.Text.Numeral

namespace OvalCatalog.Number

def isFigure (c : Char) : Bool :=
  c.isDigit || ['+', '-', '.', 'a', 'e', 'f', 'i', 'n'].contains c

theorem toNat_of_isFigure {c : Char} (hc : isFigure c = true) : 43 ≤ c.toNat ∧ c.toNat ≤ 110 := by
  rw [isFigure, Bool.or_eq_true, List.contains_iff_mem] at hc
  rcases hc with hc | hc
  · have hrange : 48 ≤ c.toNat ∧ c.toNat ≤ 57 := by
      simpa [Char.isDigit, UInt32.le_iff_toNat_le] using hc
    omega
  · have hall : (['+', '-', '.', 'a', 'e', 'f', 'i', 'n'].all fun d => 43 ≤ d.toNat && d.toNat ≤ 110) = true := by
      decide
    simpa using List.all_eq_true.mp hall c hc

def Figures (s : String) : Prop :=
  ∀ c ∈ s.toList, isFigure c = true

instance (s : String) : Decidable (Figures s) :=
  List.decidableBAll _ s.toList

theorem Figures.append {s t : String} (hs : Figures s) (ht : Figures t) : Figures (s ++ t) := by
  intro c hc
  rw [String.toList_append] at hc
  exact (List.mem_append.mp hc).elim (hs c) (ht c)

theorem isFigure_of_mem_toDigits {n : Nat} {c : Char} (hc : c ∈ Nat.toDigits 10 n) : isFigure c = true := by
  rw [isFigure, Nat.isDigit_of_mem_toDigits (by decide) (by decide) hc, Bool.true_or]

theorem figures_toString (n : Nat) : Figures (toString n) := by
  intro c hc
  rw [Nat.toString_eq_repr, Nat.toList_repr] at hc
  exact isFigure_of_mem_toDigits hc

theorem figures_padded (width n : Nat) : Figures (Text.padded width n) := by
  intro c hc
  rw [Text.toList_padded] at hc
  rcases List.mem_append.mp hc with hc | hc
  · rw [List.eq_of_mem_replicate hc]
    rfl
  · exact isFigure_of_mem_toDigits hc

theorem figures_signText (negative : Bool) : Figures (signText negative) := by
  cases negative <;> decide

theorem figures_pointText (places n : Nat) : Figures (pointText places n) := by
  have hpoint : Figures "." := by decide
  unfold pointText
  split
  · exact figures_toString n
  · exact ((figures_toString _).append hpoint).append (figures_padded _ _)

theorem figures_exponentText (e : Int) : Figures (exponentText e) := by
  have hmark : Figures (if e < 0 then "e-" else "e+") := by split <;> decide
  exact hmark.append (figures_padded _ _)

theorem Figures.withoutZeros {s : String} (hs : Figures s) : Figures (withoutZeros s) := by
  unfold Number.withoutZeros
  split
  · intro c hc
    rw [String.toList_ofList, List.mem_reverse] at hc
    have hmem := (List.dropWhile_sublist _).subset ((List.dropWhile_sublist _).subset hc)
    exact hs c (List.mem_reverse.mp hmem)
  · exact hs

theorem figures_sixDigits (n d : Nat) : Figures (sixDigits n d) := by
  unfold sixDigits
  split
  · decide
  · dsimp only
    generalize (if roundDecimal n d _ = _ then _ else _ : Int) = exponent
    split
    · exact (figures_pointText _ _).withoutZeros.append (figures_exponentText _)
    · exact (figures_pointText _ _).withoutZeros

theorem figures_general (x : Float) : Figures (general x) := by
  unfold general
  split
  · decide
  · exact (figures_signText _).append (by decide)
  · refine (figures_signText _).append ?_
    split <;> exact figures_sixDigits _ _

end OvalCatalog.Number
