import Mathlib.Data.List.Pairwise
import OvalCatalog.Proofs.Lookup
import OvalCatalog.Proofs.Store.Freshness

/-! The frame of a refresh. Whatever becomes of it, the rows under the roots of other versions stay as they
are, and so does what can be looked up of other families and releases. If it goes through, no row is left
that was under the root that it replaced. -/

namespace OvalCatalog

def Root.isOf (root : Root) (r : RootRow) : Bool :=
  root.family == some r.family && root.osVersion == some r.osVersion

theorem Root.isOf_iff {family : Family} {root : Root} {file : FetchMeta} {x : Snapshot}
    (hx : Snapshot.of family root file = .ok x) (r : RootRow) :
    root.isOf r = true ↔ r.family = x.family.name ∧ r.osVersion = x.osVersion := by
  obtain ⟨hc, hx⟩ := Snapshot.of_ok hx
  rw [Root.isOf, hc.family, hx.osVersion, hx.family, Bool.and_eq_true, beq_iff_eq, beq_iff_eq, Option.some.injEq,
    Option.some.injEq, eq_comm, and_congr_right_iff]
  exact fun _ => eq_comm

namespace Store

def ownsDefinition (root : Int) (s : Store) (id : Int) : Bool :=
  s.definitions.rows.any fun d => d.rootId == root && d.id == id

def ownsAdvisory (root : Int) (s : Store) (id : Int) : Bool :=
  s.advisories.rows.any fun a => s.ownsDefinition root a.definitionId && a.id == id

structure Closure extends Children where
  definitions : List DefinitionRow

def closure (root : Int) (s : Store) : Closure where
  definitions := s.definitions.rows.filter fun r => r.rootId == root
  packages := s.packages.rows.filter fun r => s.ownsDefinition root r.definitionId
  references := s.references.rows.filter fun r => s.ownsDefinition root r.definitionId
  advisories := s.advisories.rows.filter fun r => s.ownsDefinition root r.definitionId
  cves := s.cves.rows.filter fun r => s.ownsAdvisory root r.advisoryId
  bugzillas := s.bugzillas.rows.filter fun r => s.ownsAdvisory root r.advisoryId
  cpes := s.cpes.rows.filter fun r => s.ownsAdvisory root r.advisoryId
  debians := s.debians.rows.filter fun r => s.ownsDefinition root r.definitionId

structure Closure.GoneFrom (u : Store) (c : Closure) : Prop where
  definitions : u.definitions.Lacks c.definitions
  packages : u.packages.Lacks c.packages
  references : u.references.Lacks c.references
  advisories : u.advisories.Lacks c.advisories
  cves : u.cves.Lacks c.cves
  bugzillas : u.bugzillas.Lacks c.bugzillas
  cpes : u.cpes.Lacks c.cpes
  debians : u.debians.Lacks c.debians

/-- `u` differs from `s` in nothing but what belongs to the root's version, and in the log of its file. -/
structure Untouched (root : Root) (file : FetchMeta) (s u : Store) : Prop where
  roots : (u.roots.rows.filter fun r => !root.isOf r) = s.roots.rows.filter fun r => !root.isOf r
  closures : ∀ r ∈ s.roots.rows, root.isOf r = false → u.closure r.id = s.closure r.id
  fetches : (u.fetches.rows.filter fun r => some r.fileName != file.fileName) =
    s.fetches.rows.filter fun r => some r.fileName != file.fileName
  lookups : ∀ (family : Family) (release : String),
    (root.family ≠ some family.name ∨ root.osVersion.map Release.majorVersion ≠ some release) →
      ∀ key mode, lookup family (some release) key mode (.live u) =
        lookup family (some release) key mode (.live s)

def closureOf (trees : List DefinitionTree) : Closure where
  definitions := trees.map (·.row)
  packages := trees.flatMap (·.packages)
  references := trees.flatMap (·.references)
  advisories := trees.flatMap (·.advisories)
  cves := trees.flatMap (·.cves)
  bugzillas := trees.flatMap (·.bugzillas)
  cpes := trees.flatMap (·.cpes)
  debians := trees.flatMap (·.debian.toList)

variable {s u : Store} {trees : List DefinitionTree}

theorem ownsDefinition_eq (root : Int) (s : Store) (id : Int) :
    s.ownsDefinition root id = (s.definitionIds root).contains id := by
  rw [Bool.eq_iff_iff, List.contains_iff_mem]
  simp [ownsDefinition, definitionIds, and_assoc]

theorem ownsAdvisory_eq (root : Int) (s : Store) (id : Int) :
    s.ownsAdvisory root id = (s.advisoryIds root).contains id := by
  rw [Bool.eq_iff_iff, List.contains_iff_mem]
  simp [ownsAdvisory, advisoryIds, ownsDefinition_eq, and_assoc]

theorem Holds.filter_ownsDefinition (h : s.Holds trees) {ρ : Type} {parent : ρ → Int}
    {rows : DefinitionTree → List ρ} (hl : ∀ t : DefinitionTree, ∀ r ∈ rows t, parent r = t.row.id) (root : Int) :
    ((trees.flatMap rows).filter fun r => s.ownsDefinition root (parent r)) =
      (trees.filter fun t => t.row.rootId == root).flatMap rows := by
  apply filter_flatMap_of
  intro t ht r hr
  rw [hl t r hr, ownsDefinition_eq, h.contains_definitionIds ht]

theorem Holds.filter_ownsAdvisory (h : s.Holds trees) {ρ : Type} {parent : ρ → Int}
    {rows : AdvisoryTree → List ρ} (hl : ∀ a : AdvisoryTree, ∀ r ∈ rows a, parent r = a.row.id) (root : Int) :
    ((trees.flatMap fun t => t.advisory.toList.flatMap rows).filter fun r => s.ownsAdvisory root (parent r)) =
      (trees.filter fun t => t.row.rootId == root).flatMap fun t => t.advisory.toList.flatMap rows := by
  apply filter_flatMap_of
  intro t ht r hr
  obtain ⟨a, ha, hr⟩ := List.mem_flatMap.mp hr
  rw [hl a r hr, ownsAdvisory_eq, h.contains_advisoryIds ht (Option.mem_toList.mp ha)]

theorem Holds.closure (h : s.Holds trees) (root : Int) :
    s.closure root = closureOf (trees.filter fun t => t.row.rootId == root) := by
  have hdefinitions : ((trees.map (·.row)).filter fun r => r.rootId == root) =
      (trees.filter fun t => t.row.rootId == root).map (·.row) := List.filter_map
  have hcves : ((trees.flatMap (·.cves)).filter fun r => s.ownsAdvisory root r.advisoryId) =
      (trees.filter fun t => t.row.rootId == root).flatMap (·.cves) :=
    h.filter_ownsAdvisory (·.cves_linked) root
  have hbugzillas : ((trees.flatMap (·.bugzillas)).filter fun r => s.ownsAdvisory root r.advisoryId) =
      (trees.filter fun t => t.row.rootId == root).flatMap (·.bugzillas) :=
    h.filter_ownsAdvisory (·.bugzillas_linked) root
  have hcpes : ((trees.flatMap (·.cpes)).filter fun r => s.ownsAdvisory root r.advisoryId) =
      (trees.filter fun t => t.row.rootId == root).flatMap (·.cpes) :=
    h.filter_ownsAdvisory (·.cpes_linked) root
  simp only [Store.closure, h.definitions, h.packages, h.references, h.advisories, h.cves, h.bugzillas, h.cpes,
    h.debians]
  rw [hdefinitions, h.filter_ownsDefinition (·.packages_linked), h.filter_ownsDefinition (·.references_linked),
    h.filter_ownsDefinition (·.advisories_linked), h.filter_ownsDefinition (·.debians_linked), hcves,
    hbugzillas, hcpes]
  rfl

theorem Holds.found_trees (h : s.Holds trees) (family : Family) (release : String) (key : Option String)
    (mode : Mode) : s.found family (some release) key mode =
      (trees.filter fun t => (s.releaseRoots family (some release)).contains t.row.rootId &&
        t.definition.isNamed family mode key).map fun t => t.definition.shownBy family := by
  rw [h.found_eq, h.stored, List.filter_map, List.map_map]
  congr 1
  apply List.filter_congr
  intro t _
  rw [Function.comp_apply, h.isUnder_definition]

theorem Untouched.of_sameRows (h : s.Holds trees) (hu : u.Holds trees) (hrows : s.SameRows u) (root : Root)
    (file : FetchMeta) : s.Untouched root file u := by
  obtain ⟨hfetches, hroots, _⟩ := hrows
  refine ⟨by rw [hroots], fun r _ _ => by rw [hu.closure, h.closure], by rw [hfetches], ?_⟩
  intro family release _ key mode
  have hreleases : u.releaseRoots family (some release) = s.releaseRoots family (some release) := by
    simp only [releaseRoots, Table.ordered, hroots]
  rw [lookup_live, lookup_live, hu.found_trees, h.found_trees, hreleases]

section Replaced

variable {x : Snapshot} {t : Time.Timestamp} {grown : List DefinitionTree}

theorem Replaced.releaseRoots_other (hr : s.Replaced trees x t u grown) (h : s.Holds trees) {family : Family}
    {release : String} (hv : x.family.name ≠ family.name ∨ Release.majorVersion x.osVersion ≠ release) :
    u.releaseRoots family (some release) = s.releaseRoots family (some release) := by
  rw [releaseRoots, releaseRoots, hr.holds.numbered.roots.ordered, h.numbered.roots.ordered, hr.filter_roots h]
  intro r he
  simp only [Bool.and_eq_true, beq_iff_eq, Option.some.injEq] at he
  rintro ⟨hf, hr⟩
  rcases hv with hv | hv
  · exact hv (hf.symm.trans he.1)
  · exact hv (hr ▸ he.2)

theorem Holds.mem_releaseRoots_other (h : s.Holds trees) {family : Family} {release : String}
    (hv : x.family.name ≠ family.name ∨ Release.majorVersion x.osVersion ≠ release) {id : Int}
    (hid : id ∈ s.releaseRoots family (some release)) :
    id < s.roots.next ∧ id ∉ s.rootIds x.family.name x.osVersion := by
  rw [releaseRoots, h.numbered.roots.ordered] at hid
  obtain ⟨r, hr, rfl⟩ := List.mem_map.mp hid
  obtain ⟨hr, hof⟩ := List.mem_filter.mp hr
  simp only [Bool.and_eq_true, beq_iff_eq, Option.some.injEq] at hof
  refine ⟨h.numbered.roots.below r hr, fun hmem => ?_⟩
  obtain ⟨hf, hversion⟩ := (h.mem_rootIds _ _ hr).mp hmem
  rcases hv with hv | hv
  · exact hv (hf.symm.trans hof.1)
  · exact hv (hversion ▸ hof.2)

theorem Replaced.found_other (hr : s.Replaced trees x t u grown) (h : s.Holds trees) {family : Family}
    {release : String} (hv : x.family.name ≠ family.name ∨ Release.majorVersion x.osVersion ≠ release)
    (key : Option String) (mode : Mode) :
    u.found family (some release) key mode = s.found family (some release) key mode := by
  have hnew : (grown.filter fun d => (s.releaseRoots family (some release)).contains d.row.rootId &&
      d.definition.isNamed family mode key) = [] := by
    rw [List.filter_eq_nil_iff]
    intro d hd he
    rw [Bool.and_eq_true, List.contains_iff_mem, hr.rooted d hd] at he
    exact Int.lt_irrefl _ (h.mem_releaseRoots_other hv he.1).1
  rw [hr.holds.found_trees, h.found_trees, hr.releaseRoots_other h hv, List.filter_append, hnew,
    List.append_nil, List.filter_filter]
  congr 1
  apply List.filter_congr
  intro d _
  rw [Bool.and_eq_left_iff_imp, Bool.and_eq_true, List.contains_iff_mem, Bool.not_eq_true', Bool.eq_false_iff,
    ne_eq, List.contains_iff_mem]
  exact fun he => (h.mem_releaseRoots_other hv he.1).2

theorem Replaced.closure_other (hr : s.Replaced trees x t u grown) (h : s.Holds trees) {r : RootRow}
    (hrow : r ∈ s.roots.rows) (hv : ¬(r.family = x.family.name ∧ r.osVersion = x.osVersion)) :
    u.closure r.id = s.closure r.id := by
  rw [hr.holds.closure, h.closure, hr.filter_trees h hrow hv]

end Replaced

theorem replaceRoot_ok {x : Snapshot} (h : s.replaceRoot x = .ok u) :
    ∃ v id, (s.deleteRoots (s.rootIds x.family.name x.osVersion)).Grows v ∧
      v.recordFetch x.fetchMeta = .ok (id, u) := by
  unfold replaceRoot at h
  have hgrows := grows_addRoot x.family.name x.osVersion x.definitions
    (s.deleteRoots (s.rootIds x.family.name x.osVersion))
  dsimp only at h
  split at h
  · cases h
  · next v hv =>
    rw [hv] at hgrows
    cases hrec : v.recordFetch x.fetchMeta with
    | error e =>
      rw [hrec] at h
      cases h
    | ok p =>
      rw [hrec] at h
      cases h
      exact ⟨v, p.1, hgrows, hrec⟩

theorem refresh_ok_true {x : Snapshot} (h : s.refresh x = (.ok true, u)) : s.replaceRoot x = .ok u := by
  unfold refresh at h
  split at h
  · cases h
  · cases h
  · split at h
    · cases h
    · next hu =>
      cases h
      exact hu

theorem recordFetch_ok {file : FetchMeta} {id : Int} (hs : s.fetches.Numbered)
    (h : s.recordFetch file = .ok (id, u)) :
    u = { s with fetches := u.fetches } ∧ (u.fetches.rows.filter fun r => some r.fileName != file.fileName) =
      s.fetches.rows.filter fun r => some r.fileName != file.fileName := by
  obtain ⟨name, t, hname, -, hothers, ⟨row, hrow, rfl, hrows⟩ | ⟨-, hrows⟩⟩ := recordFetch_cases hs h
  · refine ⟨hothers, ?_⟩
    change s.fetches.rows.find? (fun r => r.fileName == name) = some row at hrow
    have hkey : (fun r : FetchRow => some r.fileName != some name) ∘ stamped row.id t =
        fun r => some r.fileName != some name :=
      funext fun r => by rw [Function.comp_apply, fileName_stamped]
    rw [hname, hrows, List.filter_map, hkey, List.map_congr_left (g := id), List.map_id]
    intro r hr
    obtain ⟨hr, hne⟩ := List.mem_filter.mp hr
    have hid : r.id ≠ row.id := by
      intro he
      obtain rfl := hs.eq_of_id hr (List.mem_of_find?_eq_some hrow) he
      have hfound := List.find?_some hrow
      rw [beq_iff_eq] at hfound
      simp [hfound] at hne
    simp [stamped, hid]
  · refine ⟨hothers, ?_⟩
    rw [hname, hrows, List.filter_append]
    simp

theorem mem_gone {ρ : Type} {rows : DefinitionTree → List ρ} (hn : (trees.flatMap rows).Nodup)
    {kept gone : DefinitionTree → Bool} (hgone : ∀ c, gone c = true → kept c = false) :
    ∀ r ∈ (trees.filter gone).flatMap rows, r ∈ trees.flatMap rows ∧ r ∉ (trees.filter kept).flatMap rows := by
  intro r hr
  obtain ⟨c, hc, hrc⟩ := List.mem_flatMap.mp hr
  obtain ⟨hc, hcg⟩ := List.mem_filter.mp hc
  refine ⟨List.mem_flatMap.mpr ⟨c, hc, hrc⟩, fun hk => ?_⟩
  obtain ⟨b, hb, hrb⟩ := List.mem_flatMap.mp hk
  obtain ⟨hb, hbk⟩ := List.mem_filter.mp hb
  have hne : b ≠ c := by
    rintro rfl
    rw [hgone b hcg] at hbk
    cases hbk
  have hsymm : Std.Symm (Function.onFun List.Disjoint rows) := ⟨fun _ _ => List.disjoint_symm⟩
  exact (List.nodup_flatMap.mp hn).2.forall hb hc hne hrb hrc

theorem Holds.goneFrom (h : s.Holds trees) {x : Snapshot} (hu : s.replaceRoot x = .ok u) {r : RootRow}
    (hr : r ∈ s.roots.rows) (hv : r.family = x.family.name ∧ r.osVersion = x.osVersion) :
    u.roots.Lacks [r] ∧ (s.closure r.id).GoneFrom u := by
  obtain ⟨v, id, hgrows, hrec⟩ := replaceRoot_ok hu
  have hdeleted := h.deleteRoots (s.rootIds x.family.name x.osVersion)
  have hlater := later_deleteRoots (s.rootIds x.family.name x.osVersion) s
  have hroots := roots_deleteRoots (s.rootIds x.family.name x.osVersion) s
  have hid := (h.mem_rootIds _ _ hr).mpr hv
  generalize s.deleteRoots (s.rootIds x.family.name x.osVersion) = d at *
  have gone {ρ : Type} [Row ρ] {rows : DefinitionTree → List ρ} {t d' v' : Table ρ} (ht : t.Numbered)
      (htrees : t.rows = trees.flatMap rows)
      (hd : d'.rows =
        (trees.filter fun t => !(s.rootIds x.family.name x.osVersion).contains t.row.rootId).flatMap rows)
      (hnext : t.next ≤ d'.next) (hv' : d'.Renews v') :
      v'.Lacks ((trees.filter fun t => t.row.rootId == r.id).flatMap rows) := by
    refine hv'.lacks ht ?_ hnext ?_
    · rw [hd, htrees]
      intro q hq
      obtain ⟨c, hc, hqc⟩ := List.mem_flatMap.mp hq
      exact List.mem_flatMap.mpr ⟨c, List.mem_of_mem_filter hc, hqc⟩
    · rw [htrees, hd]
      apply mem_gone (htrees ▸ ht.nodup)
      intro c hc
      rw [beq_iff_eq] at hc
      rw [hc, Bool.not_eq_false', List.contains_iff_mem]
      exact hid
  rw [h.closure, (recordFetch_ok (hgrows.fetches ▸ hdeleted.numbered.fetches) hrec).1]
  refine ⟨?_, ?definitions, ?packages, ?references, ?advisories, ?cves, ?bugzillas, ?cpes, ?debians⟩
  · refine hgrows.roots.lacks h.numbered.roots ?_ hlater.roots ?_
    · rw [hroots]
      exact List.filter_subset_self _
    · rw [List.forall_mem_singleton, hroots]
      refine ⟨hr, fun hmem => ?_⟩
      obtain ⟨_, hkept⟩ := List.mem_filter.mp hmem
      rw [Bool.not_eq_true', Bool.eq_false_iff, ne_eq, List.contains_iff_mem] at hkept
      exact hkept hid
  case definitions =>
    have hrows (l : List DefinitionTree) : l.map (·.row) = l.flatMap fun t => [t.row] := List.map_eq_flatMap
    rw [closureOf, hrows]
    exact gone h.numbered.definitions (h.definitions.trans (hrows _)) (hdeleted.definitions.trans (hrows _))
      hlater.definitions hgrows.definitions
  case packages =>
    exact gone h.numbered.packages h.packages hdeleted.packages hlater.packages hgrows.packages
  case references =>
    exact gone h.numbered.references h.references hdeleted.references hlater.references hgrows.references
  case advisories =>
    exact gone h.numbered.advisories h.advisories hdeleted.advisories hlater.advisories hgrows.advisories
  case cves => exact gone h.numbered.cves h.cves hdeleted.cves hlater.cves hgrows.cves
  case bugzillas =>
    exact gone h.numbered.bugzillas h.bugzillas hdeleted.bugzillas hlater.bugzillas hgrows.bugzillas
  case cpes => exact gone h.numbered.cpes h.cpes hdeleted.cpes hlater.cpes hgrows.cpes
  case debians => exact gone h.numbered.debians h.debians hdeleted.debians hlater.debians hgrows.debians

theorem Holds.untouched_of_stored (h : s.Holds trees) {family : Family} {root : Root} {file : FetchMeta}
    {x : Snapshot} (hx : Snapshot.of family root file = .ok x) (hu : s.refresh x = (.ok true, u)) :
    s.Untouched root file u := by
  have hr := h.refresh x
  rw [hu] at hr
  obtain ⟨_, t, grown, _, hr⟩ := hr
  have hv {r : RootRow} (he : root.isOf r = false) : ¬(r.family = x.family.name ∧ r.osVersion = x.osVersion) := by
    rw [← Root.isOf_iff hx, he]
    nofun
  refine ⟨hr.filter_roots h fun r he => hv ?_, fun r hrow he => hr.closure_other h hrow (hv he), ?_, ?_⟩
  · simpa using he
  · obtain ⟨v, id, hgrows, hrec⟩ := replaceRoot_ok (refresh_ok_true hu)
    have hfetches : v.fetches = s.fetches := hgrows.fetches.trans (fetches_deleteRoots _ s)
    obtain rfl := (Snapshot.of_ok hx).2.file
    rw [(recordFetch_ok (hfetches ▸ h.numbered.fetches) hrec).2, hfetches]
  · intro g release hother key mode
    obtain ⟨hc, hx⟩ := Snapshot.of_ok hx
    rw [hc.family, hx.osVersion, ← hx.family, Option.map_some, ne_eq, ne_eq, Option.some.injEq,
      Option.some.injEq] at hother
    rw [lookup_live, lookup_live, hr.found_other h hother]

/-- A refresh touches only the root that it is for, in every state that calls lead to and whatever becomes of
it. The roots of other versions and all rows under them stay, with their numbers and in their order, so do
the notes of other files, and so does every lookup of another family or release. If it stores, none of the
rows is left that were under the root of the version before. -/
theorem refresh_frame (calls : List Call) (family : Family) (root : Root) (file : FetchMeta) :
    (reached calls).Untouched root file ((reached calls).insertOval family root file).2 ∧
      (((reached calls).insertOval family root file).1 = .ok true →
        ∀ r ∈ (reached calls).roots.rows, root.isOf r = true →
          ((reached calls).insertOval family root file).2.roots.Lacks [r] ∧
            ((reached calls).closure r.id).GoneFrom ((reached calls).insertOval family root file).2) := by
  obtain ⟨trees, h⟩ := reached_holds calls
  generalize reached calls = s at *
  cases hx : Snapshot.of family root file with
  | error m =>
    rw [insertOval_of_error hx]
    exact ⟨.of_sameRows h h (.refl s) root file, nofun⟩
  | ok x =>
    rw [insertOval_of_ok hx]
    have hr := h.refresh x
    rcases hy : s.refresh x with ⟨e | ⟨⟨⟩⟩, u⟩ <;> rw [hy] at hr
    · exact ⟨.of_sameRows h (h.of_sameRows hr.2.1 hr.1) hr.2.1 root file, nofun⟩
    · obtain ⟨-, rfl⟩ := hr
      exact ⟨.of_sameRows h h (.refl u) root file, nofun⟩
    · refine ⟨h.untouched_of_stored hx hy, fun _ r hrow he => ?_⟩
      exact h.goneFrom (refresh_ok_true hy) hrow ((Root.isOf_iff hx r).mp he)

end Store

end OvalCatalog
