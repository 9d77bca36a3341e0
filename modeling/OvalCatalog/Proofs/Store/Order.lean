import Mathlib.Data.List.Flatten
import OvalCatalog.Proofs.Store.FetchLog

/-! The order of numbers. Whatever a call adds to a table is numbered above all that the table has ever held, and
what one refresh adds is numbered in the order in which it was given. -/

namespace OvalCatalog

namespace Table

variable {ρ : Type} [Row ρ]

def Ascending (rows : List ρ) : Prop :=
  rows.Pairwise fun r r' => Row.id r < Row.id r'

def Adds (t : Table ρ) (rows : List ρ) (u : Table ρ) : Prop :=
  ∃ kept, kept.Sublist t.rows ∧ u.rows = kept ++ rows

theorem Renews.unused {t u : Table ρ} (h : t.Renews u) (hu : u.Numbered) {kept rows : List ρ}
    (hkept : kept.map Row.id = t.ids) (hrows : u.rows = kept ++ rows) : ∀ r ∈ rows, t.next ≤ Row.id r := by
  intro r hr
  have hmem : r ∈ u.rows := hrows ▸ List.mem_append_right kept hr
  rcases h.fresh (Row.id r) (List.mem_map_of_mem hmem) with hid | hid
  · rw [← hkept] at hid
    obtain ⟨q, hq, he⟩ := List.mem_map.mp hid
    have hasc := hu.ascending
    rw [hrows] at hasc
    have := (List.pairwise_append.mp hasc).2.2 q hq r hr
    omega
  · exact hid

theorem Numbered.below_of_next_le {t u : Table ρ} (h : t.Numbered) (hn : t.next ≤ u.next) {rows : List ρ}
    (hrows : ∀ r ∈ rows, u.next ≤ Row.id r) : ∀ q ∈ t.rows, ∀ r ∈ rows, Row.id q < Row.id r := by
  intro q hq r hr
  have := h.below q hq
  have := hrows r hr
  omega

end Table

def FetchRow.entry (r : FetchRow) : Int × String :=
  (r.id, r.fileName)

structure Additions where
  fetches : List FetchRow := []
  roots : List RootRow := []
  trees : List DefinitionTree := []

structure Additions.Each (g : Additions) (P : ∀ {ρ : Type} [Row ρ], (Store → Table ρ) → List ρ → Prop) : Prop where
  fetches : P Store.fetches g.fetches
  roots : P Store.roots g.roots
  definitions : P Store.definitions (g.trees.map (·.row))
  packages : P Store.packages (g.trees.flatMap (·.packages))
  references : P Store.references (g.trees.flatMap (·.references))
  advisories : P Store.advisories (g.trees.flatMap (·.advisories))
  cves : P Store.cves (g.trees.flatMap (·.cves))
  bugzillas : P Store.bugzillas (g.trees.flatMap (·.bugzillas))
  cpes : P Store.cpes (g.trees.flatMap (·.cpes))
  debians : P Store.debians (g.trees.flatMap (·.debian.toList))

def Additions.Above (g : Additions) (s : Store) : Prop :=
  g.Each fun table rows => ∀ q ∈ (table s).rows, ∀ r ∈ rows, Row.id q < Row.id r

def Additions.Unused (g : Additions) (s : Store) : Prop :=
  g.Each fun table rows => ∀ r ∈ rows, (table s).next ≤ Row.id r

theorem Additions.Unused.above {g : Additions} {s p : Store} (h : g.Unused s) (hp : p.Numbered) (hl : p.Later s) :
    g.Above p where
  fetches := hp.fetches.below_of_next_le hl.fetches h.fetches
  roots := hp.roots.below_of_next_le hl.roots h.roots
  definitions := hp.definitions.below_of_next_le hl.definitions h.definitions
  packages := hp.packages.below_of_next_le hl.packages h.packages
  references := hp.references.below_of_next_le hl.references h.references
  advisories := hp.advisories.below_of_next_le hl.advisories h.advisories
  cves := hp.cves.below_of_next_le hl.cves h.cves
  bugzillas := hp.bugzillas.below_of_next_le hl.bugzillas h.bugzillas
  cpes := hp.cpes.below_of_next_le hl.cpes h.cpes
  debians := hp.debians.below_of_next_le hl.debians h.debians

structure DefinitionTree.Ascending (t : DefinitionTree) : Prop where
  packages : Table.Ascending t.packages
  references : Table.Ascending t.references
  cves : Table.Ascending t.cves
  bugzillas : Table.Ascending t.bugzillas
  cpes : Table.Ascending t.cpes

/-- They are the root with its definitions one after the other, and the numbers are in that order. -/
structure Additions.Follows (g : Additions) (root : Root) : Prop where
  roots : ∃ r, g.roots = [r] ∧ root.family = some r.family ∧ root.osVersion = some r.osVersion ∧
    ∀ t ∈ g.trees, t.row.rootId = r.id
  contents : g.trees.map (·.content) = root.definitions.map Definition.content
  definitions : Table.Ascending (g.trees.map (·.row))
  children : ∀ t ∈ g.trees, t.Ascending

namespace Store

/-- `u` has the rows of `s`, less what was deleted and with the log stamped anew, and these after them. -/
structure Adds (s : Store) (g : Additions) (u : Store) : Prop where
  fetches : ∃ kept, kept.map FetchRow.entry = s.fetches.rows.map FetchRow.entry ∧
    u.fetches.rows = kept ++ g.fetches
  roots : s.roots.Adds g.roots u.roots
  definitions : s.definitions.Adds (g.trees.map (·.row)) u.definitions
  packages : s.packages.Adds (g.trees.flatMap (·.packages)) u.packages
  references : s.references.Adds (g.trees.flatMap (·.references)) u.references
  advisories : s.advisories.Adds (g.trees.flatMap (·.advisories)) u.advisories
  cves : s.cves.Adds (g.trees.flatMap (·.cves)) u.cves
  bugzillas : s.bugzillas.Adds (g.trees.flatMap (·.bugzillas)) u.bugzillas
  cpes : s.cpes.Adds (g.trees.flatMap (·.cpes)) u.cpes
  debians : s.debians.Adds (g.trees.flatMap (·.debian.toList)) u.debians

variable {s u : Store} {trees : List DefinitionTree}

theorem renews_recordFetch {file : FetchMeta} {id : Int} (h : s.recordFetch file = .ok (id, u)) :
    s.fetches.Renews u.fetches := by
  unfold Store.recordFetch at h
  split at h
  · cases h
  · next t _ =>
    split at h
    · next row _ =>
      cases h
      refine ⟨Int.le_refl _, fun i hi => .inl ?_⟩
      change i ∈ (s.fetches.rows.map (stamped row.id t)).map FetchRow.id at hi
      rwa [List.map_map, show FetchRow.id ∘ stamped row.id t = FetchRow.id from funext (id_stamped row.id t)] at hi
    · have hfill := Table.renews_fill (FetchRow.maker t) s.fetches [file.fileName]
      split at h
      · next fetches hf =>
        rw [hf] at hfill
        cases h
        exact hfill
      · cases h

theorem Holds.adds_recordFetch (h : s.Holds trees) {file : FetchMeta} {id : Int}
    (hrec : s.recordFetch file = .ok (id, u)) :
    ∃ kept rows, kept.map FetchRow.entry = s.fetches.rows.map FetchRow.entry ∧ u.fetches.rows = kept ++ rows ∧
      ∀ r ∈ rows, s.fetches.next ≤ r.id := by
  obtain ⟨name, t, -, -, -, hrows⟩ := recordFetch_cases h.numbered.fetches hrec
  obtain ⟨row, -, -, hrows⟩ | ⟨-, hrows⟩ := hrows
  · refine ⟨_, [], ?_, hrows.trans (List.append_nil _).symm, by simp⟩
    rw [List.map_map]
    congr 1
    funext r
    simp only [Function.comp_apply, FetchRow.entry, id_stamped, fileName_stamped]
  · have hnoted := h.recordFetch file
    rw [hrec] at hnoted
    obtain ⟨_, _, -, hnoted⟩ := hnoted
    exact ⟨_, _, rfl, hrows, (renews_recordFetch hrec).unused hnoted.holds.numbered.fetches rfl hrows⟩

theorem Adds.of_sameRows (h : s.SameRows u) : s.Adds {} u := by
  obtain ⟨h1, h2, h3, h4, h5, h6, h7, h8, h9, h10⟩ := h
  have adds {ρ : Type} {t v : Table ρ} (ht : t.rows = v.rows) : t.Adds [] v :=
    ⟨t.rows, .refl _, ht.symm.trans (List.append_nil _).symm⟩
  exact ⟨⟨s.fetches.rows, rfl, h1.symm.trans (List.append_nil _).symm⟩, adds h2, adds h3, adds h4, adds h5, adds h6,
    adds h7, adds h8, adds h9, adds h10⟩

theorem unused_empty (s : Store) : Additions.Unused {} s := by
  constructor <;> exact fun _ hr => absurd hr List.not_mem_nil

section Replaced

variable {x : Snapshot} {t : Time.Timestamp} {grown : List DefinitionTree}

theorem Replaced.ascending (hr : s.Replaced trees x t u grown) : Table.Ascending (grown.map (·.row)) ∧
    ∀ d ∈ grown, d.Ascending := by
  have within {ρ : Type} [Row ρ] {v : Table ρ} {rows : DefinitionTree → List ρ} (hv : v.Numbered)
      (hrows : v.rows = ((trees.filter fun t => !(s.rootIds x.family.name x.osVersion).contains t.row.rootId) ++
        grown).flatMap rows) : ∀ d ∈ grown, Table.Ascending (rows d) := by
    intro d hd
    have hasc := hv.ascending
    rw [hrows] at hasc
    exact (List.pairwise_flatMap.mp hasc).1 d (List.mem_append_right _ hd)
  obtain ⟨hn, h1, h2, h3, h4, h5, h6, h7, h8, -⟩ := hr.holds
  refine ⟨?_, fun d hd => ⟨within hn.packages h2 d hd, within hn.references h3 d hd, within hn.cves h5 d hd,
    within hn.bugzillas h6 d hd, within hn.cpes h7 d hd⟩⟩
  have hasc := hn.definitions.ascending
  rw [h1, List.map_append] at hasc
  exact (List.pairwise_append.mp hasc).2.1

theorem Replaced.adds (hr : s.Replaced trees x t u grown) (h : s.Holds trees) {kept rows : List FetchRow}
    (hkept : kept.map FetchRow.entry = s.fetches.rows.map FetchRow.entry) (hrows : u.fetches.rows = kept ++ rows) :
    s.Adds ⟨rows, [⟨s.roots.next, x.family.name, x.osVersion⟩], grown⟩ u := by
  have adds {ρ : Type} {v w : Table ρ} {rows : DefinitionTree → List ρ} (hv : v.rows = trees.flatMap rows)
      (hw : w.rows = ((trees.filter fun t => !(s.rootIds x.family.name x.osVersion).contains t.row.rootId) ++
        grown).flatMap rows) : v.Adds (grown.flatMap rows) w := by
    refine ⟨_, ?_, hw.trans List.flatMap_append⟩
    rw [hv]
    exact List.filter_sublist.flatMap rows
  have hu := hr.holds
  refine ⟨⟨kept, hkept, hrows⟩, ⟨_, List.filter_sublist, hr.roots⟩, ⟨_, ?_, hu.definitions.trans List.map_append⟩,
    adds h.packages hu.packages, adds h.references hu.references, adds h.advisories hu.advisories,
    adds h.cves hu.cves, adds h.bugzillas hu.bugzillas, adds h.cpes hu.cpes, adds h.debians hu.debians⟩
  rw [h.definitions]
  exact List.filter_sublist.map _

theorem Replaced.unused (hr : s.Replaced trees x t u grown) (h : s.Holds trees) (hu : s.replaceRoot x = .ok u)
    {rows : List FetchRow} (hrows : ∀ r ∈ rows, s.fetches.next ≤ r.id) :
    Additions.Unused ⟨rows, [⟨s.roots.next, x.family.name, x.osVersion⟩], grown⟩ s := by
  obtain ⟨v, id, hgrows, hrec⟩ := replaceRoot_ok hu
  have hdeleted := h.deleteRoots (s.rootIds x.family.name x.osVersion)
  have hlater := later_deleteRoots (s.rootIds x.family.name x.osVersion) s
  -- apart from the log the store is as the insertion left it, and that gave new numbers only
  obtain ⟨fetches, rfl⟩ : ∃ fetches, u = { v with fetches } :=
    ⟨_, (recordFetch_ok (hgrows.fetches ▸ hdeleted.numbered.fetches) hrec).1⟩
  generalize s.deleteRoots (s.rootIds x.family.name x.osVersion) = d at *
  have unused {ρ : Type} [Row ρ] {before deleted filled : Table ρ} {kept rows : List ρ}
      (hnext : before.next ≤ deleted.next) (hfilled : deleted.Renews filled) (hn : filled.Numbered)
      (hkept : deleted.rows = kept) (hrows : filled.rows = kept ++ rows) : ∀ r ∈ rows, before.next ≤ Row.id r := by
    subst hkept
    exact fun r hr => Int.le_trans hnext (hfilled.unused hn rfl hrows r hr)
  obtain ⟨hn, h1, h2, h3, h4, h5, h6, h7, h8, -⟩ := hr.holds
  rw [List.map_append] at h1
  rw [List.flatMap_append] at h2 h3 h4 h5 h6 h7 h8
  exact {
    fetches := hrows
    roots := by simp [Row.id]
    definitions := unused hlater.definitions hgrows.definitions hn.definitions hdeleted.definitions h1
    packages := unused hlater.packages hgrows.packages hn.packages hdeleted.packages h2
    references := unused hlater.references hgrows.references hn.references hdeleted.references h3
    advisories := unused hlater.advisories hgrows.advisories hn.advisories hdeleted.advisories h4
    cves := unused hlater.cves hgrows.cves hn.cves hdeleted.cves h5
    bugzillas := unused hlater.bugzillas hgrows.bugzillas hn.bugzillas hdeleted.bugzillas h6
    cpes := unused hlater.cpes hgrows.cpes hn.cpes hdeleted.cpes h7
    debians := unused hlater.debians hgrows.debians hn.debians hdeleted.debians h8 }

end Replaced

theorem Holds.exists_adds_of_recordFetch (h : s.Holds trees) {file : FetchMeta} {id : Int}
    (hrec : s.recordFetch file = .ok (id, u)) : ∃ g, s.Adds g u ∧ g.Unused s := by
  obtain ⟨kept, rows, hkept, hrows, hunused⟩ := h.adds_recordFetch hrec
  obtain ⟨fetches, rfl⟩ : ∃ fetches, u = { s with fetches } :=
    ⟨_, (recordFetch_ok h.numbered.fetches hrec).1⟩
  exact ⟨{ fetches := rows }, { Adds.of_sameRows (.refl s) with fetches := ⟨kept, hkept, hrows⟩ },
    { unused_empty s with fetches := hunused }⟩

theorem Holds.exists_adds_of_replaceRoot (h : s.Holds trees) {family : Family} {root : Root} {file : FetchMeta}
    {x : Snapshot} (hx : Snapshot.of family root file = .ok x) (hu : s.replaceRoot x = .ok u) :
    ∃ g, s.Adds g u ∧ g.Unused s ∧ g.Follows root := by
  obtain ⟨hcomplete, hof⟩ := Snapshot.of_ok hx
  have hr := h.replaceRoot x
  rw [hu] at hr
  obtain ⟨t, grown, -, hr⟩ := hr
  obtain ⟨v, id, hgrows, hrec⟩ := replaceRoot_ok hu
  have hfetches : v.fetches = s.fetches := hgrows.fetches.trans (fetches_deleteRoots _ s)
  obtain ⟨kept, rows, hkept, hrows, hunused⟩ := h.adds_recordFetch (recordFetch_congr hfetches hrec)
  obtain ⟨hdefinitions, hchildren⟩ := hr.ascending
  refine ⟨_, hr.adds h hkept hrows, hr.unused h hu hunused, ⟨_, rfl, ?_, hof.osVersion, hr.rooted⟩, ?_, hdefinitions,
    hchildren⟩
  · rw [hcomplete.family, hof.family]
  · rw [← hof.definitions]
    exact hr.contents

theorem Holds.exists_adds_perform (h : s.Holds trees) (c : Call) :
    ∃ g, s.Adds g (c.perform s).2 ∧ g.Unused s ∧ ∀ family root file, c = .insertOval family root file →
      (c.perform s).1 = .stored (.ok true) → g.Follows root := by
  cases hstores : (c.perform s).1.stores with
  | false =>
    refine ⟨{}, .of_sameRows (h.perform_of_not_stores hstores), unused_empty s, ?_⟩
    intro family root file _ he
    rw [he] at hstores
    cases hstores
  | true =>
    cases c with
    | insertOval family root file =>
      cases hx : Snapshot.of family root file with
      | error m =>
        rw [Call.perform, insertOval_of_error hx] at hstores
        cases hstores
      | ok x =>
        rw [Call.perform, insertOval_of_ok hx] at hstores ⊢
        rcases hy : s.refresh x with ⟨e | ⟨⟨⟩⟩, u⟩ <;> rw [hy] at hstores
        · cases hstores
        · cases hstores
        · obtain ⟨g, hadds, hunused, hfollows⟩ := h.exists_adds_of_replaceRoot hx (refresh_ok_true hy)
          refine ⟨g, hadds, hunused, ?_⟩
          rintro _ _ _ ⟨⟩ -
          exact hfollows
    | insertFetchMeta family file =>
      obtain ⟨g, hadds, hunused⟩ : ∃ g, s.Adds g (s.insertFetchMeta family file).2 ∧ g.Unused s := by
        change (Answer.stored (s.insertFetchMeta family file).1).stores = true at hstores
        unfold Store.insertFetchMeta at hstores ⊢
        split at hstores
        · cases hstores
        · cases hstores
        · split at hstores
          · cases hstores
          · next id u hrec => exact h.exists_adds_of_recordFetch hrec
      refine ⟨g, hadds, hunused, fun _ _ _ he => ?_⟩
      cases he
    | recordFetch file =>
      obtain ⟨id, u, hrec, -⟩ := perform_of_stores hstores
      obtain ⟨g, hadds, hunused⟩ := h.exists_adds_of_recordFetch hrec
      refine ⟨g, ?_, hunused, fun _ _ _ he => ?_⟩
      · change s.recordFetch file = _ at hrec
        simpa only [Call.perform, hrec] using hadds
      · cases he

theorem later_reached (calls more : List Call) : (reached calls).Later (reached (calls ++ more)) := by
  induction more using List.reverseRecOn with
  | nil =>
    rw [List.append_nil]
    exact .refl _
  | append_singleton more c ih =>
    obtain ⟨trees, h⟩ := reached_holds (calls ++ more)
    rw [← List.append_assoc, reached_snoc]
    exact ih.trans (h.perform c).1

/-- What a call adds to a table in a state that calls lead to is numbered above all rows that the table had in that
state or in any before it, those that are deleted by now among them. If it stores a root, that is all it adds, with
the definitions and the children of each numbered in the order in which they were given. -/
theorem numbers_ascend (calls : List Call) (c : Call) :
    ∃ g, (reached calls).Adds g (reached (calls ++ [c])) ∧
      (∀ before, before <+: calls → g.Above (reached before)) ∧
        ∀ family root file, c = .insertOval family root file →
          (c.perform (reached calls)).1 = .stored (.ok true) → g.Follows root := by
  obtain ⟨trees, h⟩ := reached_holds calls
  obtain ⟨g, hadds, hunused, hfollows⟩ := h.exists_adds_perform c
  rw [reached_snoc]
  refine ⟨g, hadds, ?_, hfollows⟩
  rintro before ⟨more, rfl⟩
  obtain ⟨trees', hbefore⟩ := reached_holds before
  exact hunused.above hbefore.numbered (later_reached before more)

end Store

end OvalCatalog
