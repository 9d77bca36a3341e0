import OvalCatalog.Proofs.Store.Calls
import OvalCatalog.Store.Quality

/-! Integrity of the tables: numbers, versions and files stand once each, and every row hangs off a row that
is there. The checks look for just that, and find it in every state that calls lead to. -/

namespace OvalCatalog

def Table.Owns {σ ρ : Type} [Row σ] (parents : Table σ) (parent : ρ → Int) (t : Table ρ) : Prop :=
  ∀ r ∈ t.rows, parent r ∈ parents.ids

namespace Check

theorem name_of (name measure : String) (count : Nat) (complaint praise : String) :
    (Check.of name measure count complaint praise).name = name := rfl

theorem name_orphans (name table : String) (parents children : List Int) :
    (orphans name table parents children).name = name := rfl

theorem passed_of (name measure : String) (count : Nat) (complaint praise : String) :
    (Check.of name measure count complaint praise).passed = true ↔ count = 0 :=
  beq_iff_eq

theorem repeated_eq_zero_iff {α : Type} [BEq α] [LawfulBEq α] (xs : List α) : repeated xs = 0 ↔ xs.Nodup := by
  rw [repeated, List.length_eq_zero_iff, List.nodup_iff_count_le_one]
  constructor
  · intro h x
    by_contra hx
    have hmem : x ∈ (xs.filter fun x => 1 < xs.count x).eraseDups := by
      rw [List.mem_eraseDups, List.mem_filter, decide_eq_true_eq]
      exact ⟨List.count_pos_iff.mp (by omega), by omega⟩
    rw [h] at hmem
    cases hmem
  · intro h
    rw [List.filter_eq_nil_iff.mpr fun x _ => by simpa using h x]
    rfl

theorem strangers_eq_zero_iff (known xs : List Int) : strangers known xs = 0 ↔ ∀ x ∈ xs, x ∈ known := by
  simp [strangers]

theorem passed_orphans {σ ρ : Type} [Row σ] (name table : String) (parents : Table σ) (parent : ρ → Int)
    (t : Table ρ) :
    (orphans name table parents.ids (t.rows.map parent)).passed = true ↔ parents.Owns parent t := by
  rw [orphans, passed_of, strangers_eq_zero_iff, List.forall_mem_map]
  rfl

end Check

namespace Store

structure Sound (s : Store) : Prop where
  versions : (s.roots.rows.map fun r => (r.family, r.osVersion)).Nodup
  definitions : s.roots.Owns DefinitionRow.rootId s.definitions
  packages : s.definitions.Owns PackageRow.definitionId s.packages
  references : s.definitions.Owns ReferenceRow.definitionId s.references
  advisories : s.definitions.Owns AdvisoryRow.definitionId s.advisories
  cves : s.advisories.Owns CveRow.advisoryId s.cves
  bugzillas : s.advisories.Owns BugzillaRow.advisoryId s.bugzillas
  cpes : s.advisories.Owns CpeRow.advisoryId s.cpes
  debians : s.definitions.Owns DebianRow.definitionId s.debians
  files : (s.fetches.rows.map (·.fileName)).Nodup

structure UniqueIds (s : Store) : Prop where
  fetches : s.fetches.ids.Nodup
  roots : s.roots.ids.Nodup
  definitions : s.definitions.ids.Nodup
  packages : s.packages.ids.Nodup
  references : s.references.ids.Nodup
  advisories : s.advisories.ids.Nodup
  cves : s.cves.ids.Nodup
  bugzillas : s.bugzillas.ids.Nodup
  cpes : s.cpes.ids.Nodup
  debians : s.debians.ids.Nodup

theorem checks_passed_iff (s : Store) :
    (∀ c ∈ s.checks, c.name ≠ "cve_format" → c.passed = true) ↔ s.Sound := by
  simp only [checks, List.forall_mem_cons, Check.name_of, Check.name_orphans, Check.passed_orphans,
    Check.passed_of, Check.repeated_eq_zero_iff]
  -- only the form of CVEs has the name that is left out; all other checks remain
  simp only [ne_eq, String.reduceEq, not_false_eq_true, forall_const, not_true_eq_false, IsEmpty.forall_iff,
    List.not_mem_nil, implies_true, and_true, true_and]
  constructor
  · rintro ⟨hversions, hdefinitions, hpackages, hreferences, hadvisories, hcves, hbugzillas, hcpes, hdebians,
      hfiles⟩
    exact ⟨hversions, hdefinitions, hpackages, hreferences, hadvisories, hcves, hbugzillas, hcpes, hdebians,
      hfiles⟩
  · intro h
    exact ⟨h.versions, h.definitions, h.packages, h.references, h.advisories, h.cves, h.bugzillas, h.cpes,
      h.debians, h.files⟩

variable {s : Store} {trees : List DefinitionTree}

theorem Numbered.uniqueIds (h : s.Numbered) : s.UniqueIds where
  fetches := h.fetches.nodup_ids
  roots := h.roots.nodup_ids
  definitions := h.definitions.nodup_ids
  packages := h.packages.nodup_ids
  references := h.references.nodup_ids
  advisories := h.advisories.nodup_ids
  cves := h.cves.nodup_ids
  bugzillas := h.bugzillas.nodup_ids
  cpes := h.cpes.nodup_ids
  debians := h.debians.nodup_ids

theorem Holds.owns (h : s.Holds trees) {ρ : Type} {parent : ρ → Int} {rows : DefinitionTree → List ρ}
    {t : Table ρ} (ht : t.rows = trees.flatMap rows)
    (hl : ∀ t : DefinitionTree, ∀ r ∈ rows t, parent r = t.row.id) : s.definitions.Owns parent t := by
  intro r hr
  rw [ht] at hr
  obtain ⟨d, hd, hr⟩ := List.mem_flatMap.mp hr
  rw [hl d r hr, Table.ids, h.definitions]
  exact List.mem_map_of_mem (List.mem_map_of_mem hd)

theorem Holds.advisories_own (h : s.Holds trees) {ρ : Type} {parent : ρ → Int} {rows : AdvisoryTree → List ρ}
    {t : Table ρ} (ht : t.rows = trees.flatMap fun d => d.advisory.toList.flatMap rows)
    (hl : ∀ a : AdvisoryTree, ∀ r ∈ rows a, parent r = a.row.id) : s.advisories.Owns parent t := by
  intro r hr
  rw [ht] at hr
  obtain ⟨d, hd, hr⟩ := List.mem_flatMap.mp hr
  obtain ⟨a, ha, hr⟩ := List.mem_flatMap.mp hr
  rw [hl a r hr, Table.ids, h.advisories]
  exact List.mem_map_of_mem (List.mem_flatMap.mpr ⟨d, hd, List.mem_map_of_mem ha⟩)

theorem Holds.sound (h : s.Holds trees) : s.Sound where
  versions := h.versions
  definitions := by
    intro r hr
    rw [h.definitions] at hr
    obtain ⟨t, ht, rfl⟩ := List.mem_map.mp hr
    exact h.rooted t ht
  packages := h.owns h.packages (·.packages_linked)
  references := h.owns h.references (·.references_linked)
  advisories := h.owns h.advisories (·.advisories_linked)
  cves := h.advisories_own h.cves (·.cves_linked)
  bugzillas := h.advisories_own h.bugzillas (·.bugzillas_linked)
  cpes := h.advisories_own h.cpes (·.cpes_linked)
  debians := h.owns h.debians (·.debians_linked)
  files := h.files

/-- In every state that calls lead to, whether they stored, skipped or failed, no number of a row is taken
twice, no row has lost its parent, and no version and no file stands twice; so that all checks pass but
perhaps the one of the form of CVEs. -/
theorem integrity_reached (calls : List Call) :
    (reached calls).UniqueIds ∧ (reached calls).Sound ∧
      ∀ c ∈ (reached calls).checks, c.name ≠ "cve_format" → c.passed = true := by
  obtain ⟨trees, h⟩ := reached_holds calls
  exact ⟨h.numbered.uniqueIds, h.sound, (checks_passed_iff _).mpr h.sound⟩

end Store

end OvalCatalog
