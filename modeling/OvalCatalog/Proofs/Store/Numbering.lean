import Mathlib.Data.List.Nodup
import OvalCatalog.Store.Insert

/-! Numbers of rows. The rows of a table ascend in number and the next number is greater than all of
them, so that no number is ever refused and the order of the rows is the order of their numbers. -/

namespace OvalCatalog

namespace Table

variable {ρ α : Type} [Row ρ]

structure Numbered (t : Table ρ) : Prop where
  ascending : t.rows.Pairwise fun r r' => Row.id r < Row.id r'
  below : ∀ r ∈ t.rows, Row.id r < t.next

theorem Numbered.ordered {t : Table ρ} (h : t.Numbered) : t.ordered = t.rows := by
  apply List.mergeSort_of_pairwise
  exact h.ascending.imp fun hr => by simpa using Int.le_of_lt hr

theorem Numbered.nodup_ids {t : Table ρ} (h : t.Numbered) : t.ids.Nodup :=
  List.pairwise_map.mpr (h.ascending.imp fun hr => Int.ne_of_lt hr)

theorem Numbered.nodup {t : Table ρ} (h : t.Numbered) : t.rows.Nodup :=
  h.nodup_ids.of_map

theorem Numbered.eq_of_id {t : Table ρ} (h : t.Numbered) {r r' : ρ} (hr : r ∈ t.rows) (hr' : r' ∈ t.rows)
    (he : Row.id r = Row.id r') : r = r' :=
  List.inj_on_of_nodup_map h.nodup_ids hr hr' he

theorem Numbered.sublist {t u : Table ρ} (h : t.Numbered) (hr : u.rows.Sublist t.rows)
    (hn : t.next ≤ u.next) : u.Numbered where
  ascending := h.ascending.sublist hr
  below r hu := Int.lt_of_lt_of_le (h.below r (hr.subset hu)) hn

theorem Numbered.delete {t : Table ρ} (h : t.Numbered) (p : ρ → Bool) : (t.delete p).Numbered :=
  h.sublist List.filter_sublist (Int.le_refl _)

theorem Numbered.rollback {t u : Table ρ} (h : t.Numbered) (hn : t.next ≤ u.next) :
    (t.rollback u).Numbered :=
  h.sublist (List.Sublist.refl _) hn

theorem Numbered.map {t : Table ρ} (h : t.Numbered) (f : ρ → ρ) (hf : ∀ r, Row.id (f r) = Row.id r) :
    ({ t with rows := t.rows.map f } : Table ρ).Numbered where
  ascending := List.pairwise_map.mpr (h.ascending.imp fun hr => by simpa only [hf] using hr)
  below r hr := by
    obtain ⟨q, hq, rfl⟩ := List.mem_map.mp hr
    simpa only [hf] using h.below q hq

structure Maker (row : Int → α → Except Column ρ) (lacks : α → Option Column) : Prop where
  id : ∀ {n a r}, row n a = .ok r → Row.id r = n
  accepted : ∀ {n a r}, row n a = .ok r → lacks a = none
  refused : ∀ {n a c}, row n a = .error c → lacks a = some c

inductive Made (row : Int → α → Except Column ρ) : Int → List α → List ρ → Prop
  | nil (n : Int) : Made row n [] []
  | cons {n : Int} {a : α} {r : ρ} {items : List α} {rows : List ρ} :
      row n a = .ok r → Made row (n + 1) items rows → Made row n (a :: items) (r :: rows)

section Made

variable {row : Int → α → Except Column ρ} {lacks : α → Option Column} {n : Int} {items : List α}
  {rows : List ρ}

omit [Row ρ] in
theorem Made.all {P : ρ → Prop} (h : Made row n items rows) (hP : ∀ {m a r}, row m a = .ok r → P r) :
    ∀ r ∈ rows, P r := by
  induction h with
  | nil n => simp
  | cons hr _ ih => exact List.forall_mem_cons.mpr ⟨hP hr, ih⟩

omit [Row ρ] in
theorem Made.map_eq {β : Type} {f : ρ → β} {g : α → β} (h : Made row n items rows)
    (hfg : ∀ {m a r}, row m a = .ok r → f r = g a) : rows.map f = items.map g := by
  induction h with
  | nil n => rfl
  | cons hr _ ih => rw [List.map_cons, List.map_cons, hfg hr, ih]

theorem Made.bounds (h : Made row n items rows) (hm : Maker row lacks) :
    ∀ r ∈ rows, n ≤ Row.id r ∧ Row.id r < n + items.length := by
  induction h with
  | nil n => simp
  | @cons n a r items rows hr _ ih =>
    intro q hq
    rw [List.length_cons]
    rcases List.mem_cons.mp hq with rfl | hq
    · have := hm.id hr
      omega
    · have := ih q hq
      omega

theorem Made.ascending (h : Made row n items rows) (hm : Maker row lacks) :
    rows.Pairwise fun r r' => Row.id r < Row.id r' := by
  induction h with
  | nil n => exact .nil
  | @cons n a r items rows hr hrest ih =>
    refine .cons (fun q hq => ?_) ih
    have := hm.id hr
    have := hrest.bounds hm q hq
    omega

theorem Numbered.append {t : Table ρ} (h : t.Numbered) (hm : Maker row lacks)
    (hr : Made row t.next items rows) :
    (⟨t.rows ++ rows, t.next + items.length⟩ : Table ρ).Numbered where
  ascending := by
    refine List.pairwise_append.mpr ⟨h.ascending, hr.ascending hm, fun r hrt q hq => ?_⟩
    have := h.below r hrt
    have := hr.bounds hm q hq
    omega
  below r hrt := by
    rcases List.mem_append.mp hrt with hrt | hrt
    · have := h.below r hrt
      change Row.id r < t.next + items.length
      omega
    · exact (hr.bounds hm r hrt).2

theorem number_spec (hm : Maker row lacks) (taken : List Int) (n : Int) (items : List α)
    (hfree : ∀ i ∈ taken, i < n) :
    match number taken row n items with
    | .ok rows => items.findSome? lacks = none ∧ Made row n items rows
    | .error (e, next) => ∃ c, items.findSome? lacks = some c ∧ e = .missing c ∧ n ≤ next := by
  induction items generalizing n with
  | nil => exact ⟨rfl, .nil n⟩
  | cons a items ih =>
    simp only [number, List.findSome?_cons]
    cases hr : row n a with
    | error c =>
      exact ⟨c, by simp [hm.refused hr], rfl, by omega⟩
    | ok r =>
      -- all numbers that are taken are lower, so that only the item itself can be refused
      have hn : taken.contains n = false := by
        rw [Bool.eq_false_iff, ne_eq, List.contains_iff_mem]
        exact fun hn => Int.lt_irrefl n (hfree n hn)
      have hrest := ih (n + 1) fun i hi => by have := hfree i hi; omega
      simp only [hn, Bool.false_eq_true, ↓reduceIte, hm.accepted hr]
      cases hx : number taken row (n + 1) items with
      | ok rows =>
        rw [hx] at hrest
        exact ⟨hrest.1, .cons hr hrest.2⟩
      | error e =>
        obtain ⟨e, next⟩ := e
        rw [hx] at hrest
        obtain ⟨c, hc, he, hnext⟩ := hrest
        exact ⟨c, hc, he, by omega⟩

theorem fill_spec (hm : Maker row lacks) {t : Table ρ} (h : t.Numbered) (items : List α) :
    match t.fill row items with
    | .ok u => items.findSome? lacks = none ∧
        ∃ rows, Made row t.next items rows ∧ u = ⟨t.rows ++ rows, t.next + items.length⟩
    | .error (e, u) => ∃ c, items.findSome? lacks = some c ∧ e = .missing c ∧ u.rows = t.rows ∧
        t.next ≤ u.next := by
  have hfree : ∀ i ∈ t.ids, i < t.next := by
    intro i hi
    obtain ⟨r, hr, rfl⟩ := List.mem_map.mp hi
    exact h.below r hr
  have hn := number_spec hm t.ids t.next items hfree
  unfold fill
  cases hx : number t.ids row t.next items with
  | ok rows =>
    rw [hx] at hn
    exact ⟨hn.1, rows, hn.2, rfl⟩
  | error e =>
    rw [hx] at hn
    obtain ⟨c, hc, he, hnext⟩ := hn
    exact ⟨c, hc, he, rfl, hnext⟩

end Made

end Table

namespace Store

structure Numbered (s : Store) : Prop where
  fetches : s.fetches.Numbered
  roots : s.roots.Numbered
  definitions : s.definitions.Numbered
  packages : s.packages.Numbered
  references : s.references.Numbered
  advisories : s.advisories.Numbered
  cves : s.cves.Numbered
  bugzillas : s.bugzillas.Numbered
  cpes : s.cpes.Numbered
  debians : s.debians.Numbered

/-- `u` comes after `s`: no table has taken back a number. -/
structure Later (s u : Store) : Prop where
  fetches : s.fetches.next ≤ u.fetches.next
  roots : s.roots.next ≤ u.roots.next
  definitions : s.definitions.next ≤ u.definitions.next
  packages : s.packages.next ≤ u.packages.next
  references : s.references.next ≤ u.references.next
  advisories : s.advisories.next ≤ u.advisories.next
  cves : s.cves.next ≤ u.cves.next
  bugzillas : s.bugzillas.next ≤ u.bugzillas.next
  cpes : s.cpes.next ≤ u.cpes.next
  debians : s.debians.next ≤ u.debians.next

theorem Numbered.empty : Numbered Store.empty := by
  constructor <;> exact ⟨.nil, fun _ hr => absurd hr List.not_mem_nil⟩

theorem Later.refl (s : Store) : s.Later s := by
  constructor <;> exact Int.le_refl _

theorem Later.trans {s t u : Store} (h : s.Later t) (h' : t.Later u) : s.Later u where
  fetches := Int.le_trans h.fetches h'.fetches
  roots := Int.le_trans h.roots h'.roots
  definitions := Int.le_trans h.definitions h'.definitions
  packages := Int.le_trans h.packages h'.packages
  references := Int.le_trans h.references h'.references
  advisories := Int.le_trans h.advisories h'.advisories
  cves := Int.le_trans h.cves h'.cves
  bugzillas := Int.le_trans h.bugzillas h'.bugzillas
  cpes := Int.le_trans h.cpes h'.cpes
  debians := Int.le_trans h.debians h'.debians

theorem Numbered.rollback {s u : Store} (h : s.Numbered) (hn : s.Later u) : (s.rollback u).Numbered where
  fetches := h.fetches.rollback hn.fetches
  roots := h.roots.rollback hn.roots
  definitions := h.definitions.rollback hn.definitions
  packages := h.packages.rollback hn.packages
  references := h.references.rollback hn.references
  advisories := h.advisories.rollback hn.advisories
  cves := h.cves.rollback hn.cves
  bugzillas := h.bugzillas.rollback hn.bugzillas
  cpes := h.cpes.rollback hn.cpes
  debians := h.debians.rollback hn.debians

theorem SameRows.refl (s : Store) : s.SameRows s :=
  ⟨rfl, rfl, rfl, rfl, rfl, rfl, rfl, rfl, rfl, rfl⟩

theorem sameRows_rollback (s u : Store) : s.SameRows (s.rollback u) :=
  ⟨rfl, rfl, rfl, rfl, rfl, rfl, rfl, rfl, rfl, rfl⟩

theorem later_rollback {s u : Store} (h : s.Later u) : s.Later (s.rollback u) := by
  obtain ⟨h1, h2, h3, h4, h5, h6, h7, h8, h9, h10⟩ := h
  exact ⟨h1, h2, h3, h4, h5, h6, h7, h8, h9, h10⟩

end Store

end OvalCatalog
