import OvalCatalog.Proofs.Store.Tree
import OvalCatalog.Store.Refresh

namespace OvalCatalog.Store

variable {s : Store} {trees : List DefinitionTree}

theorem filter_flatMap_of {τ ρ : Type} {nodes : List τ} {rows : τ → List ρ} {p : ρ → Bool} {q : τ → Bool}
    (h : ∀ t ∈ nodes, ∀ r ∈ rows t, p r = q t) :
    (nodes.flatMap rows).filter p = (nodes.filter q).flatMap rows := by
  induction nodes with
  | nil => rfl
  | cons t nodes ih =>
    rw [List.forall_mem_cons] at h
    rw [List.flatMap_cons, List.filter_append, ih h.2, List.filter_cons]
    cases hq : q t with
    | false =>
      have hnone : (rows t).filter p = [] :=
        List.filter_eq_nil_iff.mpr fun r hr => by rw [h.1 r hr, hq]; simp
      rw [hnone]
      rfl
    | true =>
      have hall : (rows t).filter p = rows t :=
        List.filter_eq_self.mpr fun r hr => by rw [h.1 r hr, hq]
      rw [hall]
      rfl

theorem Holds.mem_definitionIds (h : s.Holds trees) {t : DefinitionTree} (ht : t ∈ trees) (root : Int) :
    t.row.id ∈ s.definitionIds root ↔ t.row.rootId = root := by
  simp only [definitionIds, h.definitions, List.mem_map, List.mem_filter, beq_iff_eq]
  constructor
  · rintro ⟨_, ⟨⟨u, hu, rfl⟩, hroot⟩, he⟩
    rwa [← h.eq_of_id hu ht he]
  · intro hroot
    exact ⟨t.row, ⟨⟨t, ht, rfl⟩, hroot⟩, rfl⟩

theorem Holds.mem_advisoryIds (h : s.Holds trees) {t : DefinitionTree} (ht : t ∈ trees) {a : AdvisoryTree}
    (ha : a ∈ t.advisory) (root : Int) : a.row.id ∈ s.advisoryIds root ↔ t.row.rootId = root := by
  have hrow : a.row ∈ s.advisories.rows := by
    rw [h.advisories]
    exact List.mem_flatMap.mpr ⟨t, ht, List.mem_map.mpr ⟨a, Option.mem_toList.mpr ha, rfl⟩⟩
  rw [← h.mem_definitionIds ht root]
  simp only [advisoryIds, List.mem_map, List.mem_filter, List.contains_iff_mem]
  constructor
  · rintro ⟨r, ⟨hr, hid⟩, he⟩
    rw [h.numbered.advisories.eq_of_id hr hrow he, t.advisory_linked a ha] at hid
    exact hid
  · intro hid
    exact ⟨a.row, ⟨hrow, by rwa [t.advisory_linked a ha]⟩, rfl⟩

theorem Holds.contains_definitionIds (h : s.Holds trees) {t : DefinitionTree} (ht : t ∈ trees) (root : Int) :
    (s.definitionIds root).contains t.row.id = (t.row.rootId == root) := by
  rw [Bool.eq_iff_iff, List.contains_iff_mem, h.mem_definitionIds ht, beq_iff_eq]

theorem Holds.contains_advisoryIds (h : s.Holds trees) {t : DefinitionTree} (ht : t ∈ trees) {a : AdvisoryTree}
    (ha : a ∈ t.advisory) (root : Int) : (s.advisoryIds root).contains a.row.id = (t.row.rootId == root) := by
  rw [Bool.eq_iff_iff, List.contains_iff_mem, h.mem_advisoryIds ht ha, beq_iff_eq]

theorem Holds.filter_children (h : s.Holds trees) {ρ : Type} {parent : ρ → Int}
    {rows : DefinitionTree → List ρ} (hl : ∀ t : DefinitionTree, ∀ r ∈ rows t, parent r = t.row.id) (root : Int) :
    ((trees.flatMap rows).filter fun r => !(s.definitionIds root).contains (parent r)) =
      (trees.filter fun t => t.row.rootId != root).flatMap rows := by
  apply filter_flatMap_of
  intro t ht r hr
  rw [hl t r hr, h.contains_definitionIds ht]
  rfl

theorem Holds.filter_grandchildren (h : s.Holds trees) {ρ : Type} {parent : ρ → Int}
    {rows : AdvisoryTree → List ρ} (hl : ∀ a : AdvisoryTree, ∀ r ∈ rows a, parent r = a.row.id) (root : Int) :
    ((trees.flatMap fun t => t.advisory.toList.flatMap rows).filter
        fun r => !(s.advisoryIds root).contains (parent r)) =
      (trees.filter fun t => t.row.rootId != root).flatMap fun t => t.advisory.toList.flatMap rows := by
  apply filter_flatMap_of
  intro t ht r hr
  obtain ⟨a, ha, hr⟩ := List.mem_flatMap.mp hr
  rw [hl a r hr, h.contains_advisoryIds ht (Option.mem_toList.mp ha)]
  rfl

theorem deleteRoot_eq (s : Store) (root : Int) : s.deleteRoot root =
    { s with
      roots := s.roots.delete fun r => r.id == root
      definitions := s.definitions.delete fun r => r.rootId == root
      packages := s.packages.delete fun r => (s.definitionIds root).contains r.definitionId
      references := s.references.delete fun r => (s.definitionIds root).contains r.definitionId
      advisories := s.advisories.delete fun r => (s.definitionIds root).contains r.definitionId
      cves := s.cves.delete fun r => (s.advisoryIds root).contains r.advisoryId
      bugzillas := s.bugzillas.delete fun r => (s.advisoryIds root).contains r.advisoryId
      cpes := s.cpes.delete fun r => (s.advisoryIds root).contains r.advisoryId
      debians := s.debians.delete fun r => (s.definitionIds root).contains r.definitionId } := by
  simp only [deleteRoot, deleteCves, deleteBugzillas, deleteCpes, deleteAdvisories, deletePackages,
    deleteReferences, deleteDebians, deleteDefinitions, deleteRootRow, definitionIds, advisoryIds]

theorem later_deleteRoot (s : Store) (root : Int) : s.Later (s.deleteRoot root) := by
  rw [deleteRoot_eq]
  constructor <;> exact Int.le_refl _

theorem fetches_deleteRoot (s : Store) (root : Int) : (s.deleteRoot root).fetches = s.fetches := by
  rw [deleteRoot_eq]

theorem roots_deleteRoot (s : Store) (root : Int) :
    (s.deleteRoot root).roots = s.roots.delete fun r => r.id == root := by
  rw [deleteRoot_eq]

theorem Holds.deleteRoot (h : s.Holds trees) (root : Int) :
    (s.deleteRoot root).Holds (trees.filter fun t => t.row.rootId != root) := by
  -- `deleteRoot` itself must not be unfolded here: as nested updates it is too large to compare
  rw [deleteRoot_eq]
  refine ⟨⟨h.numbered.fetches, h.numbered.roots.delete _, h.numbered.definitions.delete _,
    h.numbered.packages.delete _, h.numbered.references.delete _, h.numbered.advisories.delete _,
    h.numbered.cves.delete _, h.numbered.bugzillas.delete _, h.numbered.cpes.delete _,
    h.numbered.debians.delete _⟩, ?definitions, ?packages, ?references, ?advisories, ?cves, ?bugzillas,
    ?cpes, ?debians, ?rooted, h.versions.sublist (List.filter_sublist.map _), h.files⟩ <;>
    simp only [Table.delete]
  case definitions =>
    rw [h.definitions, List.filter_map]
    rfl
  case packages =>
    rw [h.packages]
    exact h.filter_children (·.packages_linked) root
  case references =>
    rw [h.references]
    exact h.filter_children (·.references_linked) root
  case advisories =>
    rw [h.advisories]
    exact h.filter_children (·.advisories_linked) root
  case cves =>
    rw [h.cves]
    exact h.filter_grandchildren (·.cves_linked) root
  case bugzillas =>
    rw [h.bugzillas]
    exact h.filter_grandchildren (·.bugzillas_linked) root
  case cpes =>
    rw [h.cpes]
    exact h.filter_grandchildren (·.cpes_linked) root
  case debians =>
    rw [h.debians]
    exact h.filter_children (·.debians_linked) root
  case rooted =>
    intro t ht
    obtain ⟨ht, hroot⟩ := List.mem_filter.mp ht
    obtain ⟨r, hr, he⟩ := List.mem_map.mp (h.rooted t ht)
    refine List.mem_map.mpr ⟨r, List.mem_filter.mpr ⟨hr, ?_⟩, he⟩
    change (!(Row.id r == root)) = true
    rw [he]
    exact hroot

theorem deleteRoots_cons (id : Int) (ids : List Int) (s : Store) :
    s.deleteRoots (id :: ids) = (s.deleteRoot id).deleteRoots ids := by
  rw [deleteRoots, List.foldl_cons, deleteRoots]

theorem later_deleteRoots (ids : List Int) (s : Store) : s.Later (s.deleteRoots ids) := by
  induction ids generalizing s with
  | nil => exact .refl s
  | cons id ids ih =>
    rw [deleteRoots_cons]
    exact (later_deleteRoot s id).trans (ih _)

theorem fetches_deleteRoots (ids : List Int) (s : Store) : (s.deleteRoots ids).fetches = s.fetches := by
  induction ids generalizing s with
  | nil => rfl
  | cons id ids ih => rw [deleteRoots_cons, ih, fetches_deleteRoot]

theorem roots_deleteRoots (ids : List Int) (s : Store) :
    (s.deleteRoots ids).roots = s.roots.delete fun r => ids.contains r.id := by
  induction ids generalizing s with
  | nil => simp [deleteRoots, Table.delete]
  | cons id ids ih =>
    rw [deleteRoots_cons, ih, roots_deleteRoot]
    simp only [Table.delete, List.filter_filter, List.contains_cons, Bool.not_or, Bool.and_comm]

theorem Holds.deleteRoots (h : s.Holds trees) (ids : List Int) :
    (s.deleteRoots ids).Holds (trees.filter fun t => !ids.contains t.row.rootId) := by
  induction ids generalizing s trees with
  | nil => simpa [Store.deleteRoots] using h
  | cons id ids ih =>
    have hrest := ih (h.deleteRoot id)
    rw [List.filter_filter] at hrest
    rw [deleteRoots_cons]
    simpa only [List.contains_cons, Bool.not_or, Bool.and_comm, bne] using hrest

end OvalCatalog.Store
