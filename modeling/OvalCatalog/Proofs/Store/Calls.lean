import OvalCatalog.Proofs.Store.Replacement
import OvalCatalog.Store.Schema

namespace OvalCatalog

inductive Call where
  | insertOval (family : Family) (root : Root) (file : FetchMeta)
  | insertFetchMeta (family : Family) (file : FetchMeta)
  | recordFetch (file : FetchMeta)

inductive Answer where
  | stored (r : Except RefreshError Bool)
  | noted (r : Except StoreFailure Unit)

def Call.perform : Call → Store → Answer × Store
  | insertOval family root file, s =>
    (.stored (s.insertOval family root file).1, (s.insertOval family root file).2)
  | insertFetchMeta family file, s =>
    (.stored (s.insertFetchMeta family file).1, (s.insertFetchMeta family file).2)
  | recordFetch file, s =>
    match s.recordFetch file with
    | .ok (_, u) => (.noted (.ok ()), u)
    | .error (e, u) => (.noted (.error e), u)

namespace Store

def after : List Call → Store → Store
  | [], s => s
  | c :: calls, s => after calls (c.perform s).2

def reached (calls : List Call) : Store :=
  Database.fresh.store.after calls

theorem reached_snoc (calls : List Call) (c : Call) : reached (calls ++ [c]) = (c.perform (reached calls)).2 := by
  have hafter (s : Store) : s.after (calls ++ [c]) = (c.perform (s.after calls)).2 := by
    induction calls generalizing s with
    | nil => rfl
    | cons d calls ih => exact ih (d.perform s).2
  exact hafter _

variable {s : Store} {trees : List DefinitionTree}

theorem Holds.of_sameRows (h : s.Holds trees) {u : Store} (hr : s.SameRows u) (hl : s.Later u) :
    u.Holds trees := by
  obtain ⟨h1, h2, h3, h4, h5, h6, h7, h8, h9, h10⟩ := hr
  have numbered {ρ : Type} [Row ρ] {t v : Table ρ} (ht : t.Numbered) (hr : t.rows = v.rows)
      (hn : t.next ≤ v.next) : v.Numbered :=
    ht.sublist (hr ▸ List.Sublist.refl _) hn
  exact {
    numbered := ⟨numbered h.numbered.fetches h1 hl.fetches, numbered h.numbered.roots h2 hl.roots,
      numbered h.numbered.definitions h3 hl.definitions, numbered h.numbered.packages h4 hl.packages,
      numbered h.numbered.references h5 hl.references, numbered h.numbered.advisories h6 hl.advisories,
      numbered h.numbered.cves h7 hl.cves, numbered h.numbered.bugzillas h8 hl.bugzillas,
      numbered h.numbered.cpes h9 hl.cpes, numbered h.numbered.debians h10 hl.debians⟩
    definitions := h3 ▸ h.definitions
    packages := h4 ▸ h.packages
    references := h5 ▸ h.references
    advisories := h6 ▸ h.advisories
    cves := h7 ▸ h.cves
    bugzillas := h8 ▸ h.bugzillas
    cpes := h9 ▸ h.cpes
    debians := h10 ▸ h.debians
    rooted := by
      unfold Table.ids
      rw [← h2]
      exact h.rooted
    versions := h2 ▸ h.versions
    files := h1 ▸ h.files }

theorem insertOval_of_ok {family : Family} {root : Root} {file : FetchMeta} {x : Snapshot}
    (h : Snapshot.of family root file = .ok x) (s : Store) :
    s.insertOval family root file = s.refresh x := by
  rw [Store.insertOval, h]

theorem insertOval_of_error {family : Family} {root : Root} {file : FetchMeta} {m : Malformed}
    (h : Snapshot.of family root file = .error m) (s : Store) :
    s.insertOval family root file = (.error (.malformed m), s) := by
  rw [Store.insertOval, h]

theorem Holds.perform (h : s.Holds trees) (c : Call) :
    s.Later (c.perform s).2 ∧ ∃ trees', (c.perform s).2.Holds trees' := by
  cases c with
  | insertOval family root file =>
    change s.Later (s.insertOval family root file).2 ∧ ∃ trees', (s.insertOval family root file).2.Holds trees'
    cases hx : Snapshot.of family root file with
    | error m =>
      rw [insertOval_of_error hx]
      exact ⟨.refl s, trees, h⟩
    | ok x =>
      rw [insertOval_of_ok hx]
      have hr := h.refresh x
      rcases hy : s.refresh x with ⟨e | ⟨⟨⟩⟩, u⟩ <;> rw [hy] at hr
      · exact ⟨hr.1, trees, h.of_sameRows hr.2.1 hr.1⟩
      · obtain ⟨-, rfl⟩ := hr
        exact ⟨.refl u, trees, h⟩
      · obtain ⟨_, t, grown, _, hg⟩ := hr
        exact ⟨hg.later, _, hg.holds⟩
  | insertFetchMeta family file =>
    have hr := h.insertFetchMeta family file
    change s.Later (s.insertFetchMeta family file).2 ∧ ∃ trees', (s.insertFetchMeta family file).2.Holds trees'
    rcases hy : s.insertFetchMeta family file with ⟨e | ⟨⟨⟩⟩, u⟩ <;> rw [hy] at hr
    · exact ⟨hr.1, trees, h.of_sameRows hr.2.1 hr.1⟩
    · obtain ⟨-, rfl⟩ := hr
      exact ⟨.refl u, trees, h⟩
    · obtain ⟨_, name, t, _, hu⟩ := hr
      exact ⟨hu.later, trees, hu.holds⟩
  | recordFetch file =>
    have hr := h.recordFetch file
    rcases hy : s.recordFetch file with ⟨e, u⟩ | ⟨id, u⟩ <;> rw [hy] at hr <;>
      simp only [Call.perform, hy]
    · exact ⟨hr.2.1, trees, h.of_sameRows hr.2.2 hr.2.1⟩
    · obtain ⟨name, t, _, hu⟩ := hr
      exact ⟨hu.later, trees, hu.holds⟩

theorem Holds.after (h : s.Holds trees) (calls : List Call) : ∃ trees', (s.after calls).Holds trees' := by
  induction calls generalizing s trees with
  | nil => exact ⟨trees, h⟩
  | cons c calls ih =>
    obtain ⟨_, trees', h'⟩ := h.perform c
    exact ih h'

theorem store_createIndexes (indexes : List Index) (d : Database) :
    (d.createIndexes indexes).2.store = d.store := by
  induction indexes generalizing d with
  | nil => rfl
  | cons i indexes ih =>
    unfold Database.createIndexes
    split
    · rfl
    · split <;> exact ih _

theorem store_migrated (extra : List Index) (d : Database) : (d.migrated extra).store = d.store :=
  store_createIndexes _ d

theorem store_fresh : Database.fresh.store = .empty :=
  store_migrated [] {}

theorem reached_holds (calls : List Call) : ∃ trees, (reached calls).Holds trees := by
  rw [reached, store_fresh]
  exact Holds.empty.after calls

end Store

end OvalCatalog
