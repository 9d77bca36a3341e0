import OvalCatalog.Proofs.Dictionary
import OvalCatalog.Store.Dispatch

/-! Lookups find what the dictionary says: the definitions of the versions of a release that name the key,
each with all the parts that its family shows. -/

namespace OvalCatalog

def Advisory.shownBy (family : Family) (a : Advisory) : Advisory :=
  if family.vendor = .redhat then a else { a with bugzillas := [], cpes := [] }

def Definition.shownBy (family : Family) (d : Definition) : Definition :=
  { d with
    advisory := d.advisory.map (·.shownBy family)
    debian := if family.vendor = .debian then d.debian else none }

def Definition.isNamed (family : Family) : Mode → Option String → Definition → Bool
  | _, none, _ => false
  | .package, some k, d => d.packages.any fun p => p.name == some k
  | .cve, some k, d =>
    if family.vendor = .debian then d.debian.any fun b => b.cveId == some k
    else d.advisory.any fun a => a.cves.any fun c => c.cveId == some k

theorem Definition.isNamed_content (family : Family) (mode : Mode) (key : Option String) (d : Definition) :
    d.content.isNamed family mode key = d.isNamed family mode key := by
  cases key with
  | none => cases mode <;> rfl
  | some k =>
    cases mode with
    | package => simp [isNamed, content, Package.content, Function.comp_def]
    | cve =>
      simp only [isNamed, content]
      cases d.debian <;> cases d.advisory <;>
        simp [Debian.content, Advisory.content, Cve.content, Function.comp_def]

theorem Advisory.content_shownBy (family : Family) (a : Advisory) :
    (a.shownBy family).content = a.content.shownBy family := by
  unfold shownBy
  split <;> rfl

theorem Definition.content_shownBy (family : Family) (d : Definition) :
    (d.shownBy family).content = d.content.shownBy family := by
  have hadvisory : (d.advisory.map (·.shownBy family)).map Advisory.content =
      (d.advisory.map Advisory.content).map (·.shownBy family) := by
    simp only [Option.map_map, Function.comp_def, Advisory.content_shownBy]
  simp only [shownBy, content, hadvisory]
  split <;> rfl

namespace Store

section Hydration

variable {ρ : Type}

theorem groupOf_childrenOf [Row ρ] (parent : ρ → Int) {ids : List Int} {id : Int} (hid : id ∈ ids)
    (t : Table ρ) : groupOf parent id (childrenOf parent ids t) = groupOf parent id t.ordered := by
  unfold groupOf childrenOf
  rw [List.filter_filter]
  apply List.filter_congr
  intro r _
  rw [Bool.and_eq_left_iff_imp, beq_iff_eq]
  rintro rfl
  exact List.contains_iff_mem.mpr hid

theorem groupOf_ite (p : Prop) [Decidable p] (parent : ρ → Int) (id : Int) (rows : List ρ) :
    groupOf parent id (if p then rows else []) = if p then groupOf parent id rows else [] := by
  split <;> rfl

variable {s : Store} {family : Family} {rows : List DefinitionRow}

theorem children_advisory {a : AdvisoryRow} (ha : a ∈ (s.children family rows).advisories) :
    (s.children family rows).advisory a = (s.parts.advisory a).shownBy family := by
  have hid : a.id ∈ (s.children family rows).advisories.map (·.id) := List.mem_map_of_mem ha
  have hcves := groupOf_childrenOf (·.advisoryId) hid s.cves
  have hbugzillas := groupOf_childrenOf (·.advisoryId) hid s.bugzillas
  have hcpes := groupOf_childrenOf (·.advisoryId) hid s.cpes
  simp only [children] at hcves hbugzillas hcpes
  simp only [children, parts, Children.advisory, Advisory.shownBy, groupOf_ite, hcves, hbugzillas, hcpes]
  split <;> rfl

theorem children_definition {d : DefinitionRow} (hd : d ∈ rows) :
    (s.children family rows).definition d = (s.parts.definition d).shownBy family := by
  have hid : d.id ∈ rows.map (·.id) := List.mem_map_of_mem hd
  have hadvisory : (groupOf (·.definitionId) d.id (s.children family rows).advisories).head?.map
      (s.children family rows).advisory =
        ((groupOf (·.definitionId) d.id s.parts.advisories).head?.map s.parts.advisory).map
          (·.shownBy family) := by
    have hgroup : groupOf (·.definitionId) d.id (s.children family rows).advisories =
        groupOf (·.definitionId) d.id s.parts.advisories := groupOf_childrenOf _ hid s.advisories
    rw [← hgroup, Option.map_map]
    apply Option.map_congr
    intro a ha
    exact children_advisory (List.mem_of_mem_filter (List.mem_of_mem_head? ha))
  have hpackages := groupOf_childrenOf (·.definitionId) hid s.packages
  have hreferences := groupOf_childrenOf (·.definitionId) hid s.references
  have hdebians := groupOf_childrenOf (·.definitionId) hid s.debians
  rw [Children.definition, hadvisory]
  simp only [children, parts, Children.definition, Definition.shownBy, groupOf_ite, hpackages, hreferences,
    hdebians]
  split <;> rfl

theorem hydrate_eq (family : Family) (rows : List DefinitionRow) (s : Store) :
    s.hydrate family rows = rows.map fun d => (s.parts.definition d).shownBy family :=
  List.map_congr_left fun _ hd => children_definition hd

end Hydration

variable {s : Store} {trees : List DefinitionTree}

def owners (family : Family) (key : Option String) (s : Store) : Mode → List Int
  | .package => s.packageOwners key
  | .cve => s.cveOwners family key

def found (family : Family) (release key : Option String) (mode : Mode) (s : Store) : List Definition :=
  s.hydrate family (s.definitionRows (s.releaseRoots family release) (s.owners family key mode))

theorem lookup_live (family : Family) (release key : Option String) (mode : Mode) (s : Store) :
    lookup family release key mode (.live s) = .ok (s.found family release key mode) := by
  cases mode <;> rfl

def stored (s : Store) : List Definition :=
  s.definitions.ordered.map s.parts.definition

def isUnder (family : Family) (release : String) (s : Store) (d : Definition) : Bool :=
  s.roots.rows.any fun r =>
    d.rootId == some r.id && (r.family == family.name && Release.majorVersion r.osVersion == release)

theorem Holds.stored (h : s.Holds trees) : s.stored = trees.map DefinitionTree.definition := by
  rw [Store.stored, h.numbered.definitions.ordered, h.definitions, List.map_map]
  exact List.map_congr_left fun _ ht => h.parts_definition ht

theorem Holds.isUnder_definition (h : s.Holds trees) (family : Family) (release : String) (t : DefinitionTree) :
    s.isUnder family release t.definition = (s.releaseRoots family (some release)).contains t.row.rootId := by
  rw [Bool.eq_iff_iff, List.contains_iff_mem, releaseRoots, h.numbered.roots.ordered]
  simp only [isUnder, DefinitionTree.definition, List.any_eq_true, List.mem_map, List.mem_filter,
    Bool.and_eq_true, beq_iff_eq, Option.some.injEq]
  constructor
  · rintro ⟨r, hr, he, hv⟩
    exact ⟨r, ⟨hr, hv⟩, he.symm⟩
  · rintro ⟨r, ⟨hr, hv⟩, he⟩
    exact ⟨r, hr, he.symm, hv⟩

theorem mem_parents {τ ρ : Type} {nodes : List τ} {key : τ → Int} {parent : ρ → Int} {rows : τ → List ρ}
    (hkeys : (nodes.map key).Nodup) (hl : ∀ t : τ, ∀ r ∈ rows t, parent r = key t) (p : ρ → Bool) {t : τ}
    (ht : t ∈ nodes) : key t ∈ ((nodes.flatMap rows).filter p).map parent ↔ (rows t).any p = true := by
  simp only [List.mem_map, List.mem_filter, List.mem_flatMap, List.any_eq_true]
  constructor
  · rintro ⟨r, ⟨⟨u, hu, hr⟩, hp⟩, he⟩
    obtain rfl := List.inj_on_of_nodup_map hkeys hu ht ((hl u r hr).symm.trans he)
    exact ⟨r, hr, hp⟩
  · rintro ⟨r, hr, hp⟩
    exact ⟨r, ⟨⟨t, ht, hr⟩, hp⟩, hl t r hr⟩

theorem Holds.mem_packageOwners (h : s.Holds trees) (family : Family) (key : Option String)
    {t : DefinitionTree} (ht : t ∈ trees) :
    t.row.id ∈ s.packageOwners key ↔ t.definition.isNamed family .package key = true := by
  rw [packageOwners, h.packages, mem_parents h.nodup_ids (·.packages_linked) _ ht]
  cases key with
  | none => simp [Definition.isNamed]
  | some k => simp [Definition.isNamed, DefinitionTree.definition, PackageRow.package]

theorem Holds.mem_debianOwners (h : s.Holds trees) {family : Family} (hf : family.vendor = .debian)
    (key : Option String) {t : DefinitionTree} (ht : t ∈ trees) :
    t.row.id ∈ s.debianOwners key ↔ t.definition.isNamed family .cve key = true := by
  rw [debianOwners, h.debians, mem_parents h.nodup_ids (·.debians_linked) _ ht]
  cases key with
  | none => simp [Definition.isNamed]
  | some k => cases hd : t.debian <;> simp [Definition.isNamed, hf, DefinitionTree.definition, hd, DebianRow.debian]

theorem Holds.mem_advisoryOwners (h : s.Holds trees) {family : Family} (hf : family.vendor ≠ .debian)
    (key : Option String) {t : DefinitionTree} (ht : t ∈ trees) :
    t.row.id ∈ s.advisoryOwners key ↔ t.definition.isNamed family .cve key = true := by
  -- rows of CVEs name advisories, not definitions: the tree of the advisory stands between
  have hcve {a : AdvisoryTree} (ha : a ∈ t.advisory) :
      a.row.id ∈ (s.cves.rows.filter fun c => some c.cveId == key).map (·.advisoryId) ↔
        a.cves.any (fun c => some c.cveId == key) = true := by
    rw [h.cves, show trees.flatMap (·.cves) = (trees.flatMap (·.advisory.toList)).flatMap (·.cves) from
      List.flatMap_assoc.symm]
    exact mem_parents h.nodup_advisory_ids (·.cves_linked) _
      (List.mem_flatMap.mpr ⟨t, ht, Option.mem_toList.mpr ha⟩)
  rw [advisoryOwners, h.advisories, mem_parents h.nodup_ids (·.advisories_linked) _ ht]
  cases ha : t.advisory with
  | none => cases key <;> simp [Definition.isNamed, hf, DefinitionTree.definition, DefinitionTree.advisories, ha]
  | some a =>
    simp only [DefinitionTree.advisories, ha, Option.toList_some, List.map_singleton, List.any_cons,
      List.any_nil, Bool.or_false, List.contains_iff_mem, hcve ha]
    cases key with
    | none => simp [Definition.isNamed]
    | some k =>
      simp [Definition.isNamed, hf, DefinitionTree.definition, ha, AdvisoryTree.advisory, CveRow.cve]

theorem Holds.mem_owners (h : s.Holds trees) (family : Family) (key : Option String) (mode : Mode)
    {t : DefinitionTree} (ht : t ∈ trees) :
    t.row.id ∈ s.owners family key mode ↔ t.definition.isNamed family mode key = true := by
  cases mode with
  | package => exact h.mem_packageOwners family key ht
  | cve =>
    by_cases hf : family.vendor = .debian
    · simpa only [owners, cveOwners, if_pos hf] using h.mem_debianOwners hf key ht
    · simpa only [owners, cveOwners, if_neg hf] using h.mem_advisoryOwners hf key ht

theorem Holds.hydrate_definitionRows (h : s.Holds trees) {ids : List Int} {p : Definition → Bool}
    (hids : ∀ t ∈ trees, t.row.id ∈ ids ↔ p t.definition = true) (family : Family) (release : String) :
    s.hydrate family (s.definitionRows (s.releaseRoots family (some release)) ids) =
      (s.stored.filter fun d => s.isUnder family release d && p d).map (·.shownBy family) := by
  rw [hydrate_eq, definitionRows, h.numbered.definitions.ordered, h.definitions, h.stored,
    List.filter_map, List.filter_map, List.map_map, List.map_map]
  rw [List.filter_congr (q := (fun d : Definition => s.isUnder family release d && p d) ∘
    DefinitionTree.definition)]
  · apply List.map_congr_left
    intro t ht
    rw [Function.comp_apply, Function.comp_apply, h.parts_definition (List.mem_of_mem_filter ht)]
  · intro t ht
    have hid : ids.contains t.row.id = p t.definition := by
      rw [Bool.eq_iff_iff, List.contains_iff_mem, hids t ht]
    rw [Function.comp_apply, Function.comp_apply, h.isUnder_definition, hid]

theorem Holds.found_eq (h : s.Holds trees) (family : Family) (release : String) (key : Option String)
    (mode : Mode) : s.found family (some release) key mode =
      (s.stored.filter fun d => s.isUnder family release d && d.isNamed family mode key).map
        (·.shownBy family) :=
  h.hydrate_definitionRows (fun _ ht => h.mem_owners family key mode ht) family release

def Precedes (d e : Definition) : Prop :=
  ∃ m n, d.id = some m ∧ e.id = some n ∧ m < n

theorem Holds.found_ascending (h : s.Holds trees) (family : Family) (release : String) (key : Option String)
    (mode : Mode) : (s.found family (some release) key mode).Pairwise Precedes := by
  have htrees : trees.Pairwise fun t u => t.row.id < u.row.id := by
    have hrows := h.numbered.definitions.ascending
    rw [h.definitions, List.pairwise_map] at hrows
    exact hrows
  rw [h.found_eq, h.stored, List.pairwise_map]
  apply List.Pairwise.filter
  rw [List.pairwise_map]
  exact htrees.imp fun hlt => ⟨_, _, rfl, rfl, hlt⟩

theorem Holds.found_under (h : s.Holds trees) {family : Family} {r : RootRow} (hr : r ∈ s.roots.rows)
    (hf : r.family = family.name) (key : Option String) (mode : Mode) :
    ((s.found family (some (Release.majorVersion r.osVersion)) key mode).filter
        (·.rootId == some r.id)).map Definition.content =
      ((s.definitionsOf r.id).filter (·.isNamed family mode key)).map (·.shownBy family) := by
  rw [h.found_eq, h.stored, h.definitionsOf]
  simp only [List.filter_map, List.filter_filter, List.map_map]
  rw [List.filter_congr (q := fun t => t.content.isNamed family mode key && t.row.rootId == r.id)]
  · apply List.map_congr_left
    intro t _
    exact Definition.content_shownBy family t.definition
  · intro t _
    have hunder : t.row.rootId = r.id →
        s.isUnder family (Release.majorVersion r.osVersion) t.definition = true := by
      intro he
      rw [isUnder, List.any_eq_true]
      exact ⟨r, hr, by simp [DefinitionTree.definition, he, hf]⟩
    have hroot : (t.definition.shownBy family).rootId = some t.row.rootId := rfl
    rw [DefinitionTree.content, Definition.isNamed_content]
    by_cases he : t.row.rootId = r.id
    · simp [hroot, he, hunder he]
    · simp [hroot, beq_false_of_ne he]

theorem Holds.entries_of_root (h : s.Holds trees) {r : RootRow} (hr : r ∈ s.roots.rows) :
    s.dictionary.entries r.family r.osVersion = some (s.definitionsOf r.id) := by
  have hid : r.id ∈ s.rootIds r.family r.osVersion := (h.mem_rootIds_iff _ _ _).mpr ⟨r, hr, rfl, rfl, rfl⟩
  change (s.rootIds r.family r.osVersion).head?.map s.definitionsOf = _
  cases hids : s.rootIds r.family r.osVersion with
  | nil => simp [hids] at hid
  | cons id ids =>
    obtain ⟨q, hq, rfl, hf, hv⟩ := (h.mem_rootIds_iff r.family r.osVersion id).mp (by simp [hids])
    obtain rfl := List.inj_on_of_nodup_map h.versions hq hr (Prod.ext hf hv)
    rfl

/-- Lookups are exact in every state that calls lead to. They find the definitions that are stored under a
root of the family and the release and name the key, each once and by ascending number, with all the
parts that the family shows; and what they find under a root is what the dictionary has for its version. -/
theorem lookup_exact (calls : List Call) (family : Family) (release : String) (key : Option String)
    (mode : Mode) :
    ∃ found, lookup family (some release) key mode (.live (reached calls)) = .ok found ∧
      found = ((reached calls).stored.filter fun d =>
        (reached calls).isUnder family release d && d.isNamed family mode key).map (·.shownBy family) ∧
      found.Pairwise Precedes ∧
      (∀ r ∈ (reached calls).roots.rows, r.family = family.name → Release.majorVersion r.osVersion = release →
        ∃ definitions, (Dictionary.empty.after calls).entries family.name r.osVersion = some definitions ∧
          (found.filter (·.rootId == some r.id)).map Definition.content =
            (definitions.filter (·.isNamed family mode key)).map (·.shownBy family)) ∧
      (key = none → found = []) := by
  obtain ⟨trees, h⟩ := reached_holds calls
  rw [← reached_dictionary]
  generalize reached calls = s at *
  refine ⟨s.found family (some release) key mode, lookup_live .., h.found_eq .., h.found_ascending .., ?_, ?_⟩
  · rintro r hr hf rfl
    exact ⟨_, hf ▸ h.entries_of_root hr, h.found_under hr hf key mode⟩
  · rintro rfl
    rw [h.found_eq, List.filter_eq_nil_iff.mpr, List.map_nil]
    intro d _
    cases mode <;> simp [Definition.isNamed]

end Store

end OvalCatalog
