import Mathlib.Data.List.Forall2
import OvalCatalog.Proofs.Lookup
import OvalCatalog.Proofs.Store.Integrity

/-! Definitions put together from their rows. All the children of many definitions are fetched at once, and still
each definition gets what it would get alone: its own children by ascending number, and of its advisories and
its records of Debian those with the lowest number. -/

namespace OvalCatalog

namespace Table

variable {ρ : Type} [Row ρ]

structure Lists (t : Table ρ) (parent : ρ → Int) (id : Int) (rows : List ρ) : Prop where
  perm : rows.Perm (Store.groupOf parent id t.rows)
  ascending : rows.Pairwise fun r r' => Row.id r ≤ Row.id r'

def Leads (t : Table ρ) (parent : ρ → Int) (id : Int) : Option ρ → Prop
  | none => Store.groupOf parent id t.rows = []
  | some r => r ∈ Store.groupOf parent id t.rows ∧ ∀ q ∈ Store.groupOf parent id t.rows, Row.id r ≤ Row.id q

variable {t u : Table ρ} {parent : ρ → Int} {id : Int}

theorem lists_ordered (t : Table ρ) (parent : ρ → Int) (id : Int) :
    t.Lists parent id (Store.groupOf parent id t.ordered) where
  perm := (List.mergeSort_perm ..).filter _
  ascending := by
    have hsorted : t.ordered.Pairwise fun r r' => decide (Row.id r ≤ Row.id r') = true := by
      apply List.pairwise_mergeSort
      · intro a b c hab hbc
        exact decide_eq_true (Int.le_trans (of_decide_eq_true hab) (of_decide_eq_true hbc))
      · intro a b
        simpa using Int.le_total (Row.id a) (Row.id b)
    exact (hsorted.imp of_decide_eq_true).filter _

theorem Lists.leads {rows : List ρ} (h : t.Lists parent id rows) : t.Leads parent id rows.head? := by
  obtain ⟨hperm, hasc⟩ := h
  cases rows with
  | nil => exact hperm.nil_eq.symm
  | cons r rows =>
    refine ⟨hperm.subset (by simp), fun q hq => ?_⟩
    rcases List.mem_cons.mp (hperm.symm.subset hq) with rfl | hq
    · exact Int.le_refl _
    · exact (List.pairwise_cons.mp hasc).1 q hq

theorem eq_of_id (hn : t.ids.Nodup) {r q : ρ} (hr : r ∈ Store.groupOf parent id t.rows)
    (hq : q ∈ Store.groupOf parent id t.rows) (he : Row.id r = Row.id q) : r = q :=
  List.inj_on_of_nodup_map hn (List.mem_of_mem_filter hr) (List.mem_of_mem_filter hq) he

theorem Lists.unique (hn : t.ids.Nodup) {rows rows' : List ρ} (h : t.Lists parent id rows)
    (h' : t.Lists parent id rows') : rows = rows' := by
  refine (h.perm.trans h'.perm.symm).eq_of_pairwise (fun r q hr hq hle hge => ?_) h.ascending h'.ascending
  exact eq_of_id hn (h.perm.subset hr) (h'.perm.subset hq) (Int.le_antisymm hle hge)

theorem Leads.unique (hn : t.ids.Nodup) {r r' : Option ρ} (h : t.Leads parent id r)
    (h' : t.Leads parent id r') : r = r' := by
  cases r with
  | none =>
    cases r' with
    | none => rfl
    | some r' => exact absurd (h ▸ h'.1) List.not_mem_nil
  | some r =>
    cases r' with
    | none => exact absurd (h' ▸ h.1) List.not_mem_nil
    | some r' => exact congrArg some (eq_of_id hn h.1 h'.1 (Int.le_antisymm (h.2 r' h'.1) (h'.2 r h.1)))

def SameUnder (parent : ρ → Int) (id : Int) (t u : Table ρ) : Prop :=
  (Store.groupOf parent id t.rows).Perm (Store.groupOf parent id u.rows)

theorem Lists.congr {rows : List ρ} (h : u.Lists parent id rows) (hs : SameUnder parent id t u) :
    t.Lists parent id rows :=
  ⟨h.perm.trans hs.symm, h.ascending⟩

theorem Leads.congr {r : Option ρ} (h : u.Leads parent id r) (hs : SameUnder parent id t u) :
    t.Leads parent id r := by
  cases r with
  | none => exact List.perm_nil.mp (h ▸ hs)
  | some r => exact ⟨hs.symm.subset h.1, fun q hq => h.2 q (hs.subset hq)⟩

def Shows {α : Type} (t : Table ρ) (parent : ρ → Int) (id : Int) (f : ρ → α) (items : List α) : Prop :=
  ∃ rows, t.Lists parent id rows ∧ items = rows.map f

theorem shows_ordered {α : Type} (t : Table ρ) (parent : ρ → Int) (id : Int) (f : ρ → α) :
    t.Shows parent id f ((Store.groupOf parent id t.ordered).map f) :=
  ⟨_, t.lists_ordered parent id, rfl⟩

theorem Shows.unique {α : Type} {f : ρ → α} {items items' : List α} (hn : t.ids.Nodup)
    (h : t.Shows parent id f items) (h' : t.Shows parent id f items') : items = items' := by
  obtain ⟨rows, hrows, rfl⟩ := h
  obtain ⟨rows', hrows', rfl⟩ := h'
  rw [hrows.unique hn hrows']

theorem Shows.congr {α : Type} {f : ρ → α} {items : List α} (h : u.Shows parent id f items)
    (hs : SameUnder parent id t u) : t.Shows parent id f items := by
  obtain ⟨rows, hrows, rfl⟩ := h
  exact ⟨rows, hrows.congr hs, rfl⟩

def ShowsIf {α : Type} (shown : Prop) (t : Table ρ) (parent : ρ → Int) (id : Int) (f : ρ → α)
    (items : List α) : Prop :=
  (shown → t.Shows parent id f items) ∧ (¬shown → items = [])

theorem ShowsIf.unique {α : Type} {shown : Prop} {f : ρ → α} {items items' : List α} (hn : t.ids.Nodup)
    (h : t.ShowsIf shown parent id f items) (h' : t.ShowsIf shown parent id f items') : items = items' := by
  by_cases hs : shown
  · exact (h.1 hs).unique hn (h'.1 hs)
  · rw [h.2 hs, h'.2 hs]

theorem ShowsIf.congr {α : Type} {shown : Prop} {f : ρ → α} {items : List α}
    (h : u.ShowsIf shown parent id f items) (hs : SameUnder parent id t u) :
    t.ShowsIf shown parent id f items :=
  ⟨fun hshown => (h.1 hshown).congr hs, h.2⟩

end Table

namespace Store

structure AssemblesAdvisory (family : Family) (s : Store) (row : AdvisoryRow) (a : Advisory) : Prop where
  id : a.id = some row.id
  advisoryId : a.advisoryId = row.advisoryId
  severity : a.severity = row.severity
  issued : a.issued = row.issued
  updated : a.updated = row.updated
  cves : s.cves.Shows (·.advisoryId) row.id CveRow.cve a.cves
  bugzillas : s.bugzillas.ShowsIf (family.vendor = .redhat) (·.advisoryId) row.id BugzillaRow.bugzilla a.bugzillas
  cpes : s.cpes.ShowsIf (family.vendor = .redhat) (·.advisoryId) row.id CpeRow.toCpe a.cpes

structure Assembles (family : Family) (s : Store) (row : DefinitionRow) (d : Definition) : Prop where
  id : d.id = some row.id
  rootId : d.rootId = some row.rootId
  definitionId : d.definitionId = row.definitionId
  title : d.title = row.title
  description : d.description = row.description
  severity : d.severity = row.severity
  packages : s.packages.Shows (·.definitionId) row.id PackageRow.package d.packages
  references : s.references.Shows (·.definitionId) row.id ReferenceRow.reference d.references
  advisory : ∃ first, s.advisories.Leads (·.definitionId) row.id first ∧
    Option.Rel (s.AssemblesAdvisory family) first d.advisory
  debian : (family.vendor = .debian → ∃ first, s.debians.Leads (·.definitionId) row.id first ∧
    d.debian = first.map DebianRow.debian) ∧ (family.vendor ≠ .debian → d.debian = none)

structure SameBranch (id : Int) (s u : Store) : Prop where
  packages : Table.SameUnder (·.definitionId) id s.packages u.packages
  references : Table.SameUnder (·.definitionId) id s.references u.references
  advisories : Table.SameUnder (·.definitionId) id s.advisories u.advisories
  debians : Table.SameUnder (·.definitionId) id s.debians u.debians
  cves : ∀ a ∈ groupOf (·.definitionId) id s.advisories.rows, Table.SameUnder (·.advisoryId) a.id s.cves u.cves
  bugzillas : ∀ a ∈ groupOf (·.definitionId) id s.advisories.rows,
    Table.SameUnder (·.advisoryId) a.id s.bugzillas u.bugzillas
  cpes : ∀ a ∈ groupOf (·.definitionId) id s.advisories.rows, Table.SameUnder (·.advisoryId) a.id s.cpes u.cpes

variable {family : Family} {s u : Store}

theorem assemblesAdvisory_parts (family : Family) (s : Store) (row : AdvisoryRow) :
    s.AssemblesAdvisory family row ((s.parts.advisory row).shownBy family) := by
  by_cases hf : family.vendor = .redhat
  · rw [Advisory.shownBy, if_pos hf]
    exact ⟨rfl, rfl, rfl, rfl, rfl, s.cves.shows_ordered .., ⟨fun _ => s.bugzillas.shows_ordered .., absurd hf⟩,
      ⟨fun _ => s.cpes.shows_ordered .., absurd hf⟩⟩
  · rw [Advisory.shownBy, if_neg hf]
    exact ⟨rfl, rfl, rfl, rfl, rfl, s.cves.shows_ordered .., ⟨fun h => absurd h hf, fun _ => rfl⟩,
      ⟨fun h => absurd h hf, fun _ => rfl⟩⟩

theorem assembles_parts (family : Family) (s : Store) (row : DefinitionRow) :
    s.Assembles family row ((s.parts.definition row).shownBy family) := by
  refine ⟨rfl, rfl, rfl, rfl, rfl, rfl, s.packages.shows_ordered .., s.references.shows_ordered .., ?_, ?_⟩
  · refine ⟨_, (s.advisories.lists_ordered (·.definitionId) row.id).leads, ?_⟩
    simp only [Definition.shownBy, Children.definition, parts]
    cases (groupOf (·.definitionId) row.id s.advisories.ordered).head? with
    | none => exact .none
    | some a => exact .some (assemblesAdvisory_parts family s a)
  · by_cases hf : family.vendor = .debian
    · refine ⟨fun _ => ⟨_, (s.debians.lists_ordered (·.definitionId) row.id).leads, ?_⟩, absurd hf⟩
      simp only [Definition.shownBy, if_pos hf]
      rfl
    · exact ⟨fun h => absurd h hf, fun _ => if_neg hf⟩

theorem AssemblesAdvisory.unique (hs : s.UniqueIds) {row : AdvisoryRow} {a a' : Advisory}
    (h : s.AssemblesAdvisory family row a) (h' : s.AssemblesAdvisory family row a') : a = a' := by
  have hcves := h.cves.unique hs.cves h'.cves
  have hbugzillas := h.bugzillas.unique hs.bugzillas h'.bugzillas
  have hcpes := h.cpes.unique hs.cpes h'.cpes
  cases a
  cases a'
  rw [Advisory.mk.injEq]
  exact ⟨h.advisoryId.trans h'.advisoryId.symm, h.severity.trans h'.severity.symm, h.issued.trans h'.issued.symm,
    h.updated.trans h'.updated.symm, hcves, hbugzillas, hcpes, h.id.trans h'.id.symm⟩

theorem Assembles.unique (hs : s.UniqueIds) {row : DefinitionRow} {d d' : Definition}
    (h : s.Assembles family row d) (h' : s.Assembles family row d') : d = d' := by
  have hpackages := h.packages.unique hs.packages h'.packages
  have hreferences := h.references.unique hs.references h'.references
  have hadvisory : d.advisory = d'.advisory := by
    obtain ⟨first, hfirst, hrel⟩ := h.advisory
    obtain ⟨first', hfirst', hrel'⟩ := h'.advisory
    obtain rfl := hfirst.unique hs.advisories hfirst'
    generalize d.advisory = a at *
    generalize d'.advisory = a' at *
    cases hrel with
    | none => cases hrel'; rfl
    | some ha => cases hrel' with
      | some ha' => exact congrArg some (ha.unique hs ha')
  have hdebian : d.debian = d'.debian := by
    by_cases hf : family.vendor = .debian
    · obtain ⟨first, hfirst, hd⟩ := h.debian.1 hf
      obtain ⟨first', hfirst', hd'⟩ := h'.debian.1 hf
      rw [hd, hd', hfirst.unique hs.debians hfirst']
    · rw [h.debian.2 hf, h'.debian.2 hf]
  cases d
  cases d'
  rw [Definition.mk.injEq]
  exact ⟨h.definitionId.trans h'.definitionId.symm, h.title.trans h'.title.symm,
    h.description.trans h'.description.symm, h.severity.trans h'.severity.symm, hadvisory, hpackages, hreferences,
    hdebian, h.id.trans h'.id.symm, h.rootId.trans h'.rootId.symm⟩

theorem AssemblesAdvisory.congr {id : Int} (hs : s.SameBranch id u) {row : AdvisoryRow}
    (hrow : row ∈ groupOf (·.definitionId) id s.advisories.rows) {a : Advisory}
    (h : u.AssemblesAdvisory family row a) : s.AssemblesAdvisory family row a :=
  { h with
    cves := h.cves.congr (hs.cves row hrow)
    bugzillas := h.bugzillas.congr (hs.bugzillas row hrow)
    cpes := h.cpes.congr (hs.cpes row hrow) }

theorem Assembles.congr {row : DefinitionRow} (hs : s.SameBranch row.id u) {d : Definition}
    (h : u.Assembles family row d) : s.Assembles family row d :=
  { h with
    packages := h.packages.congr hs.packages
    references := h.references.congr hs.references
    advisory := by
      obtain ⟨first, hfirst, hrel⟩ := h.advisory
      have hfirst' := hfirst.congr hs.advisories
      refine ⟨first, hfirst', ?_⟩
      generalize d.advisory = a at *
      cases hrel with
      | none => exact .none
      | some ha => exact .some (ha.congr hs hfirst'.1)
    debian := by
      refine ⟨fun hf => ?_, h.debian.2⟩
      obtain ⟨first, hfirst, hd⟩ := h.debian.1 hf
      exact ⟨first, hfirst.congr hs.debians, hd⟩ }

theorem assembles_hydrate (family : Family) (s : Store) (rows : List DefinitionRow) :
    List.Forall₂ (s.Assembles family) rows (s.hydrate family rows) := by
  rw [hydrate_eq, List.forall₂_map_right_iff, List.forall₂_same]
  exact fun row _ => assembles_parts family s row

/-- Definitions are put together one by one, whatever the tables hold and whichever are asked for at once: two
lists of rows together give what each of them gives alone, and each row gives the definition with the children
under it by ascending number and with the advisory and the record of Debian that have the lowest number. As no
two rows of a table have the same number, rows that hang off other definitions make no difference. -/
theorem hydrate_apart (family : Family) (s : Store) (rows rows' : List DefinitionRow) :
    s.hydrate family (rows ++ rows') = s.hydrate family rows ++ s.hydrate family rows' ∧
    List.Forall₂ (s.Assembles family) rows (s.hydrate family rows) ∧
    (s.UniqueIds → ∀ u : Store, ∀ row, s.SameBranch row.id u → u.hydrate family [row] = s.hydrate family [row]) := by
  refine ⟨?_, assembles_hydrate family s rows, fun hs u row hbranch => ?_⟩
  · rw [hydrate_eq, hydrate_eq, hydrate_eq, List.map_append]
  · have hu := assembles_parts family u row
    rw [hydrate_eq, hydrate_eq, List.map_singleton, List.map_singleton]
    rw [(hu.congr hbranch).unique hs (assembles_parts family s row)]

end Store

end OvalCatalog
