import Mathlib.Algebra.Order.Ring.Nat
import Mathlib.Data.List.Nodup
import Mathlib.Data.List.Perm.Basic
import OvalCatalog.Proofs.Frame

/-! The versions that a store holds, and what is under the root of each. Tables that say the same as a
dictionary hold the same versions and answer every lookup alike, whatever the numbers of their rows. -/

namespace OvalCatalog

theorem filter_contains_perm {α : Type} (key : α → Int) {ids : List Int} (hids : ids.Nodup) (xs : List α) :
    (xs.filter fun x => ids.contains (key x)).Perm (ids.flatMap fun i => xs.filter fun x => key x == i) := by
  induction ids with
  | nil => simp
  | cons i ids ih =>
    obtain ⟨hi, hids⟩ := List.nodup_cons.mp hids
    -- What has the first key is sorted out; it is not met again, as the keys are distinct.
    have hsplit := List.filter_append_perm (fun x => key x == i) (xs.filter fun x => (i :: ids).contains (key x))
    have hself : ((xs.filter fun x => (i :: ids).contains (key x)).filter fun x => key x == i) =
        xs.filter fun x => key x == i := by
      rw [List.filter_filter]
      apply List.filter_congr
      intro x _
      simp +contextual
    have hrest : ((xs.filter fun x => (i :: ids).contains (key x)).filter fun x => !(key x == i)) =
        xs.filter fun x => ids.contains (key x) := by
      rw [List.filter_filter]
      apply List.filter_congr
      intro x _
      by_cases hx : key x = i
      · simp [hx, hi]
      · simp [hx]
    rw [hself, hrest] at hsplit
    rw [List.flatMap_cons]
    exact hsplit.symm.trans ((ih hids).append_left _)

namespace Dictionary

def shown (family : Family) (key : Option String) (mode : Mode) (d : Dictionary) (v : String × String) :
    List Definition :=
  (((d.entries v.1 v.2).getD []).filter (·.isNamed family mode key)).map (·.shownBy family)

end Dictionary

namespace Store

def versions (s : Store) : List (String × String) :=
  s.roots.rows.map fun r => (r.family, r.osVersion)

variable {s u : Store} {trees : List DefinitionTree}

theorem Holds.nodup_versions (h : s.Holds trees) : s.versions.Nodup :=
  h.versions

theorem Holds.mem_versions_iff (h : s.Holds trees) (v : String × String) :
    v ∈ s.versions ↔ s.dictionary.entries v.1 v.2 ≠ none := by
  constructor
  · intro hv
    obtain ⟨r, hr, rfl⟩ := List.mem_map.mp hv
    rw [h.entries_of_root hr]
    nofun
  · intro hv
    change (s.rootIds v.1 v.2).head?.map s.definitionsOf ≠ none at hv
    cases hid : (s.rootIds v.1 v.2).head? with
    | none => exact absurd (congrArg (Option.map s.definitionsOf) hid) hv
    | some id =>
      obtain ⟨r, hr, _, hf, ho⟩ := (h.mem_rootIds_iff ..).mp (List.mem_of_mem_head? hid)
      exact List.mem_map.mpr ⟨r, hr, Prod.ext hf ho⟩

theorem Holds.versions_perm {others : List DefinitionTree} (h : s.Holds trees) (hu : u.Holds others)
    (hd : s.dictionary = u.dictionary) : s.versions.Perm u.versions := by
  apply (List.perm_ext_iff_of_nodup h.nodup_versions hu.nodup_versions).mpr
  intro v
  rw [h.mem_versions_iff, hu.mem_versions_iff, hd]

theorem Holds.contents_perm (h : s.Holds trees) (q : String × String → Bool) :
    ((trees.filter fun t => ((s.roots.rows.filter fun r => q (r.family, r.osVersion)).map (·.id)).contains
        t.row.rootId).map (·.content)).Perm
      ((s.versions.filter q).flatMap fun v => (s.dictionary.entries v.1 v.2).getD []) := by
  let p : RootRow → Bool := fun r => q (r.family, r.osVersion)
  have hids : ((s.roots.rows.filter p).map (·.id)).Nodup :=
    h.numbered.roots.nodup_ids.sublist (List.filter_sublist.map _)
  have hunder : ∀ r ∈ s.roots.rows.filter p, ((trees.filter fun t => t.row.rootId == r.id).map (·.content)) =
      (s.dictionary.entries r.family r.osVersion).getD [] := by
    intro r hr
    rw [h.entries_of_root (List.mem_of_mem_filter hr), Option.getD_some, h.definitionsOf]
  have hversions : s.versions.filter q = (s.roots.rows.filter p).map fun r => (r.family, r.osVersion) :=
    List.filter_map
  have hperm := (filter_contains_perm (fun t : DefinitionTree => t.row.rootId) hids trees).map (·.content)
  rw [List.flatMap_map, List.map_flatMap, List.flatMap_congr hunder] at hperm
  rwa [hversions, List.flatMap_map]

def countUnder (q : String × String → Bool) (s : Store) : Nat :=
  s.definitions.rows.countP fun d => s.roots.rows.any fun r => q (r.family, r.osVersion) && r.id == d.rootId

theorem Holds.countUnder_eq (h : s.Holds trees) (q : String × String → Bool) :
    s.countUnder q = ((s.versions.filter q).map fun v =>
      ((s.dictionary.entries v.1 v.2).getD []).length).sum := by
  have hrows : s.countUnder q = (trees.filter fun t =>
      ((s.roots.rows.filter fun r => q (r.family, r.osVersion)).map (·.id)).contains t.row.rootId).length := by
    rw [countUnder, h.definitions, List.countP_map, List.countP_eq_length_filter]
    congr 1
    apply List.filter_congr
    intro t _
    rw [Bool.eq_iff_iff, List.contains_iff_mem]
    simp [and_assoc]
  have hlength := (h.contents_perm q).length_eq
  rwa [List.length_map, List.length_flatMap, ← hrows] at hlength

theorem Holds.countUnder_versions (h : s.Holds trees) (family : String) {versions : List String}
    (hnodup : versions.Nodup) (hin : ∀ v ∈ versions, s.dictionary.entries family v ≠ none) :
    (s.countUnder fun v => v.1 == family && versions.contains v.2) =
      (versions.map fun v => ((s.dictionary.entries family v).getD []).length).sum := by
  have hperm : (s.versions.filter fun v => v.1 == family && versions.contains v.2).Perm
      (versions.map fun v => (family, v)) := by
    apply (List.perm_ext_iff_of_nodup (h.nodup_versions.filter _) (hnodup.map fun _ _ => congrArg Prod.snd)).mpr
    rintro ⟨name, v⟩
    simp only [List.mem_filter, List.mem_map, Bool.and_eq_true, beq_iff_eq, List.contains_iff_mem]
    constructor
    · rintro ⟨_, rfl, hv⟩
      exact ⟨v, hv, rfl⟩
    · rintro ⟨v, hv, ⟨⟩⟩
      exact ⟨(h.mem_versions_iff _).mpr (hin v hv), rfl, hv⟩
  rw [h.countUnder_eq, (hperm.map _).sum_nat, List.map_map]
  rfl

theorem Holds.found_perm (h : s.Holds trees) (family : Family) (release : String) (key : Option String)
    (mode : Mode) :
    ((s.found family (some release) key mode).map Definition.content).Perm
      ((s.versions.filter fun v => v.1 == family.name && Release.majorVersion v.2 == release).flatMap
        (s.dictionary.shown family key mode)) := by
  let q : String × String → Bool := fun v => v.1 == family.name && Release.majorVersion v.2 == release
  have hroots : s.releaseRoots family (some release) =
      (s.roots.rows.filter fun r => q (r.family, r.osVersion)).map (·.id) := by
    rw [releaseRoots, h.numbered.roots.ordered]
    rfl
  have hfound : (s.found family (some release) key mode).map Definition.content =
      (((trees.filter fun t => ((s.roots.rows.filter fun r => q (r.family, r.osVersion)).map (·.id)).contains
          t.row.rootId).map (·.content)).filter (·.isNamed family mode key)).map (·.shownBy family) := by
    rw [h.found_trees, hroots, List.filter_map, List.filter_filter, List.map_map, List.map_map]
    congr 1
    · funext t
      exact Definition.content_shownBy family t.definition
    · apply List.filter_congr
      intro t _
      rw [Bool.and_comm, ← Definition.isNamed_content]
      rfl
  have hperm := ((h.contents_perm q).filter (·.isNamed family mode key)).map (·.shownBy family)
  rw [hfound]
  rwa [List.filter_flatMap, List.map_flatMap] at hperm

theorem found_none (family : Family) (key : Option String) (mode : Mode) (s : Store) :
    s.found family none key mode = [] := by
  have hroots : s.releaseRoots family none = [] := by
    simp [releaseRoots]
  rw [found, hroots, hydrate_eq, definitionRows]
  simp

theorem Holds.lookup_perm {others : List DefinitionTree} (h : s.Holds trees) (hu : u.Holds others)
    (hd : s.dictionary = u.dictionary) (family : Family) (release key : Option String) (mode : Mode) :
    ((s.found family release key mode).map Definition.content).Perm
      ((u.found family release key mode).map Definition.content) := by
  cases release with
  | none => rw [found_none, found_none]
  | some release =>
    have hversions := (h.versions_perm hu hd).filter fun v =>
      v.1 == family.name && Release.majorVersion v.2 == release
    have hshown := hversions.flatMap_right (u.dictionary.shown family key mode)
    have hfound := h.found_perm family release key mode
    rw [hd] at hfound
    exact (hfound.trans hshown).trans (hu.found_perm family release key mode).symm

/-- The stores cannot be told apart by lookups, but for the numbers of rows and the order of what is found,
nor by asking what has been fetched. -/
structure Alike (s u : Store) : Prop where
  lookup : ∀ family release key mode, ∃ found found' : List Definition,
    lookup family release key mode (.live s) = .ok found ∧
      lookup family release key mode (.live u) = .ok found' ∧
        (found.map Definition.content).Perm (found'.map Definition.content)
  isFetched : ∀ file, s.isFetched file = u.isFetched file

theorem Holds.alike {others : List DefinitionTree} (h : s.Holds trees) (hu : u.Holds others)
    (hd : s.dictionary = u.dictionary) : s.Alike u where
  lookup family release key mode :=
    ⟨_, _, lookup_live .., lookup_live .., h.lookup_perm hu hd family release key mode⟩
  isFetched file := by
    rw [← isFetched_dictionary, hd, isFetched_dictionary]

end Store

end OvalCatalog
