import OvalCatalog.Proofs.Content
import OvalCatalog.Proofs.Store.Numbering
import OvalCatalog.Store.Lookup

/-! The rows of the store as trees: each definition with the rows that hang off it, one after the other
in every table. -/

namespace OvalCatalog

structure AdvisoryTree where
  row : AdvisoryRow
  cves : List CveRow := []
  bugzillas : List BugzillaRow := []
  cpes : List CpeRow := []
  cves_linked : ∀ r ∈ cves, r.advisoryId = row.id := by simp
  bugzillas_linked : ∀ r ∈ bugzillas, r.advisoryId = row.id := by simp
  cpes_linked : ∀ r ∈ cpes, r.advisoryId = row.id := by simp

structure DefinitionTree where
  row : DefinitionRow
  packages : List PackageRow := []
  references : List ReferenceRow := []
  advisory : Option AdvisoryTree := none
  debian : Option DebianRow := none
  packages_linked : ∀ r ∈ packages, r.definitionId = row.id := by simp
  references_linked : ∀ r ∈ references, r.definitionId = row.id := by simp
  advisory_linked : ∀ a ∈ advisory, a.row.definitionId = row.id := by simp
  debian_linked : ∀ r ∈ debian, r.definitionId = row.id := by simp

def AdvisoryTree.advisory (a : AdvisoryTree) : Advisory where
  advisoryId := a.row.advisoryId
  severity := a.row.severity
  issued := a.row.issued
  updated := a.row.updated
  cves := a.cves.map CveRow.cve
  bugzillas := a.bugzillas.map BugzillaRow.bugzilla
  cpes := a.cpes.map CpeRow.toCpe
  id := some a.row.id

namespace DefinitionTree

def definition (t : DefinitionTree) : Definition where
  definitionId := t.row.definitionId
  title := t.row.title
  description := t.row.description
  severity := t.row.severity
  advisory := t.advisory.map AdvisoryTree.advisory
  packages := t.packages.map PackageRow.package
  references := t.references.map ReferenceRow.reference
  debian := t.debian.map DebianRow.debian
  id := some t.row.id
  rootId := some t.row.rootId

def content (t : DefinitionTree) : Definition :=
  t.definition.content

def advisories (t : DefinitionTree) : List AdvisoryRow :=
  t.advisory.toList.map (·.row)

def cves (t : DefinitionTree) : List CveRow :=
  t.advisory.toList.flatMap (·.cves)

def bugzillas (t : DefinitionTree) : List BugzillaRow :=
  t.advisory.toList.flatMap (·.bugzillas)

def cpes (t : DefinitionTree) : List CpeRow :=
  t.advisory.toList.flatMap (·.cpes)

theorem advisories_linked (t : DefinitionTree) : ∀ r ∈ t.advisories, r.definitionId = t.row.id := by
  intro r hr
  obtain ⟨a, ha, rfl⟩ := List.mem_map.mp hr
  exact t.advisory_linked a (Option.mem_toList.mp ha)

theorem debians_linked (t : DefinitionTree) : ∀ r ∈ t.debian.toList, r.definitionId = t.row.id :=
  fun r hr => t.debian_linked r (Option.mem_toList.mp hr)

end DefinitionTree

namespace Store

def parts (s : Store) : Children where
  advisories := s.advisories.ordered
  packages := s.packages.ordered
  references := s.references.ordered
  cves := s.cves.ordered
  bugzillas := s.bugzillas.ordered
  cpes := s.cpes.ordered
  debians := s.debians.ordered

/-- The tables hold these definitions, each under a root that is there, and no two roots or files that
are for the same. -/
structure Holds (s : Store) (trees : List DefinitionTree) : Prop where
  numbered : s.Numbered
  definitions : s.definitions.rows = trees.map (·.row)
  packages : s.packages.rows = trees.flatMap (·.packages)
  references : s.references.rows = trees.flatMap (·.references)
  advisories : s.advisories.rows = trees.flatMap (·.advisories)
  cves : s.cves.rows = trees.flatMap (·.cves)
  bugzillas : s.bugzillas.rows = trees.flatMap (·.bugzillas)
  cpes : s.cpes.rows = trees.flatMap (·.cpes)
  debians : s.debians.rows = trees.flatMap (·.debian.toList)
  rooted : ∀ t ∈ trees, t.row.rootId ∈ s.roots.ids
  versions : (s.roots.rows.map fun r => (r.family, r.osVersion)).Nodup
  files : (s.fetches.rows.map (·.fileName)).Nodup

variable {s : Store} {trees : List DefinitionTree}

theorem Holds.empty : Store.empty.Holds [] := by
  refine ⟨.empty, rfl, rfl, rfl, rfl, rfl, rfl, rfl, rfl, by simp, .nil, .nil⟩

theorem Holds.nodup_ids (h : s.Holds trees) : (trees.map (·.row.id)).Nodup := by
  have hn := h.numbered.definitions.nodup_ids
  rw [Table.ids, h.definitions, List.map_map] at hn
  exact hn

theorem Holds.nodup_advisory_ids (h : s.Holds trees) :
    ((trees.flatMap (·.advisory.toList)).map (·.row.id)).Nodup := by
  have hn := h.numbered.advisories.nodup_ids
  simp only [Table.ids, h.advisories, DefinitionTree.advisories, List.map_flatMap, List.map_map] at hn
  rw [List.map_flatMap]
  exact hn

theorem Holds.eq_of_id (h : s.Holds trees) {t u : DefinitionTree} (ht : t ∈ trees) (hu : u ∈ trees)
    (he : t.row.id = u.row.id) : t = u :=
  List.inj_on_of_nodup_map h.nodup_ids ht hu he

section Groups

variable {τ ρ : Type}

theorem groupOf_flatMap {nodes : List τ} (key : τ → Int) {parent : ρ → Int} {rows : τ → List ρ}
    (hkeys : (nodes.map key).Nodup) (hlinked : ∀ t ∈ nodes, ∀ r ∈ rows t, parent r = key t) {t : τ}
    (ht : t ∈ nodes) : groupOf parent (key t) (nodes.flatMap rows) = rows t := by
  -- by induction on the nodes: the rows of the head are either all meant or none of them is
  induction nodes with
  | nil => cases ht
  | cons u nodes ih =>
    obtain ⟨hu, hkeys⟩ := List.nodup_cons.mp hkeys
    rw [List.forall_mem_cons] at hlinked
    unfold groupOf at ih ⊢
    rw [List.flatMap_cons, List.filter_append]
    rcases List.mem_cons.mp ht with rfl | ht
    · have hown : (rows t).filter (fun r => parent r == key t) = rows t :=
        List.filter_eq_self.mpr fun r hr => by simpa using hlinked.1 r hr
      have hother : (nodes.flatMap rows).filter (fun r => parent r == key t) = [] := by
        simp only [List.filter_eq_nil_iff, List.mem_flatMap, beq_iff_eq]
        rintro r ⟨v, hv, hr⟩ he
        exact hu (List.mem_map.mpr ⟨v, hv, (hlinked.2 v hv r hr).symm.trans he⟩)
      rw [hown, hother, List.append_nil]
    · have hne : key u ≠ key t := fun he => hu (List.mem_map.mpr ⟨t, ht, he.symm⟩)
      have hother : (rows u).filter (fun r => parent r == key t) = [] := by
        simp only [List.filter_eq_nil_iff, beq_iff_eq]
        exact fun r hr he => hne ((hlinked.1 r hr).symm.trans he)
      rw [hother, List.nil_append, ih hkeys hlinked.2 ht]

end Groups

theorem Holds.parts_advisory (h : s.Holds trees) {t : DefinitionTree} (ht : t ∈ trees) {a : AdvisoryTree}
    (ha : a ∈ t.advisory) : s.parts.advisory a.row = a.advisory := by
  have hmem : a ∈ trees.flatMap (·.advisory.toList) :=
    List.mem_flatMap.mpr ⟨t, ht, Option.mem_toList.mpr ha⟩
  have group {ρ : Type} (parent : ρ → Int) (rows : AdvisoryTree → List ρ)
      (hl : ∀ b : AdvisoryTree, ∀ r ∈ rows b, parent r = b.row.id) :
      groupOf parent a.row.id (trees.flatMap fun t => t.advisory.toList.flatMap rows) = rows a := by
    rw [← List.flatMap_assoc]
    exact groupOf_flatMap (fun b : AdvisoryTree => b.row.id) h.nodup_advisory_ids
      (fun b _ => hl b) hmem
  simp only [Children.advisory, parts, AdvisoryTree.advisory, h.numbered.cves.ordered,
    h.numbered.bugzillas.ordered, h.numbered.cpes.ordered, h.cves, h.bugzillas, h.cpes]
  rw [← group (·.advisoryId) (·.cves) (·.cves_linked),
    ← group (·.advisoryId) (·.bugzillas) (·.bugzillas_linked), ← group (·.advisoryId) (·.cpes) (·.cpes_linked)]
  rfl

theorem Holds.parts_definition (h : s.Holds trees) {t : DefinitionTree} (ht : t ∈ trees) :
    s.parts.definition t.row = t.definition := by
  have group {ρ : Type} (parent : ρ → Int) (rows : DefinitionTree → List ρ)
      (hl : ∀ u : DefinitionTree, ∀ r ∈ rows u, parent r = u.row.id) :
      groupOf parent t.row.id (trees.flatMap rows) = rows t :=
    groupOf_flatMap (fun u : DefinitionTree => u.row.id) h.nodup_ids (fun u _ => hl u) ht
  have hadvisory : (t.advisories.head?).map s.parts.advisory = t.advisory.map AdvisoryTree.advisory := by
    cases ha : t.advisory with
    | none => simp [DefinitionTree.advisories, ha]
    | some a => simp [DefinitionTree.advisories, ha, h.parts_advisory ht ha]
  have hdebian : t.debian.toList.head? = t.debian := by cases t.debian <;> rfl
  simp only [Children.definition, DefinitionTree.definition]
  simp only [parts, h.numbered.advisories.ordered, h.numbered.packages.ordered,
    h.numbered.references.ordered, h.numbered.debians.ordered, h.advisories, h.packages, h.references, h.debians]
  rw [group (·.definitionId) (·.advisories) (·.advisories_linked),
    group (·.definitionId) (·.packages) (·.packages_linked),
    group (·.definitionId) (·.references) (·.references_linked),
    group (·.definitionId) (·.debian.toList) (·.debians_linked), hdebian, ← hadvisory]
  rfl

end Store

end OvalCatalog
