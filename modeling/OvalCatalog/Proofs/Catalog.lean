import OvalCatalog.Catalog
import OvalCatalog.Proofs.Store.Calls

/-! Catalogs with an open database. Its schema is brought up to date without fail, and only once; after that a
run is what its versions do to the store, and an answer that follows from their outcomes. -/

namespace OvalCatalog

namespace Database

def Has (i : Index) (d : Database) : Prop :=
  ∃ name, i.made? = some name ∧ d.indexes.any (Sql.sameName name) = true

variable {d : Database} {indexes : List Index}

theorem createIndexes_of_has (h : ∀ i ∈ indexes, d.Has i) : d.createIndexes indexes = (.ok (), d) := by
  induction indexes with
  | nil => rfl
  | cons i rest ih =>
    rw [List.forall_mem_cons] at h
    obtain ⟨name, hname, hany⟩ := h.1
    simp only [createIndexes, hname, hany, if_true]
    exact ih h.2

theorem Has.append {i : Index} (h : d.Has i) (name : String) :
    ({ d with indexes := d.indexes ++ [name] } : Database).Has i := by
  obtain ⟨n, hn, hany⟩ := h
  refine ⟨n, hn, ?_⟩
  rw [List.any_append, hany, Bool.true_or]

theorem createIndexes_ok (h : ∀ i ∈ indexes, i.made?.isSome) (d : Database) :
    (d.createIndexes indexes).1 = .ok () ∧ (∀ i, d.Has i → (d.createIndexes indexes).2.Has i) ∧
      ∀ i ∈ indexes, (d.createIndexes indexes).2.Has i := by
  induction indexes generalizing d with
  | nil => exact ⟨rfl, fun _ => id, by simp⟩
  | cons i rest ih =>
    rw [List.forall_mem_cons] at h
    obtain ⟨name, hname⟩ := Option.isSome_iff_exists.mp h.1
    simp only [createIndexes, hname]
    split
    · next hany =>
      obtain ⟨hok, hkept, hrest⟩ := ih h.2 d
      exact ⟨hok, hkept, List.forall_mem_cons.mpr ⟨hkept i ⟨name, hname, hany⟩, hrest⟩⟩
    · obtain ⟨hok, hkept, hrest⟩ := ih h.2 { d with indexes := d.indexes ++ [name] }
      have hself : ({ d with indexes := d.indexes ++ [name] } : Database).Has i :=
        ⟨name, hname, by simp [Sql.sameName]⟩
      exact ⟨hok, fun j hj => hkept j (hj.append name), List.forall_mem_cons.mpr ⟨hkept i hself, hrest⟩⟩

def Current (d : Database) : Prop :=
  ∀ i ∈ Index.standard, d.Has i

theorem made_standard : ∀ i ∈ Index.standard, i.made?.isSome := by
  decide +kernel

theorem migrate_nil (d : Database) : d.migrate [] = d.createIndexes Index.standard := by
  rw [migrate, List.append_nil]

theorem migrate_ok (d : Database) : d.migrate [] = (.ok (), d.migrated []) := by
  refine Prod.ext ?_ rfl
  rw [migrate_nil]
  exact (createIndexes_ok made_standard d).1

theorem current_migrated (d : Database) : (d.migrated []).Current := by
  rw [migrated, migrate_nil]
  exact (createIndexes_ok made_standard d).2.2

theorem current_fresh : fresh.Current :=
  current_migrated {}

theorem Current.setStore (h : d.Current) (s : Store) : ({ d with store := s } : Database).Current :=
  h

theorem Current.migrated (h : d.Current) : d.migrated [] = d := by
  rw [Database.migrated, migrate_nil, createIndexes_of_has h]

end Database

theorem Family.ofName?_name (f : Family) : Family.ofName? f.name = some f := by
  cases f <;> decide +kernel

theorem Family.find_name (f : Family) : Family.find (some f.name) = .ok f := by
  rw [Family.find, Option.bind_some, f.ofName?_name]

namespace Catalog

def on (d : Database) (c : Catalog) : Catalog :=
  { c with database := some d }

def answer (f : Family) (t : Run.Times) (versions : List String) (run : List (Report.Outcome Int) × Store)
    (c : Catalog) : Except CatalogError RunResult :=
  match Report.makeDirectory c.isFile c.reportDirectory with
  | .error e => .error (.report e)
  | .ok directory =>
    let m := Run.metrics f t versions run.1
    .ok ⟨m, Run.reportFiles directory t m run.2⟩

theorem refresh_on (c : Catalog) (d : Database) (disk : Disk) (server : Server) (t : Run.Times) (f : Family)
    (versions : List String) :
    let run := Run.visitAll f c.config.feeds server versions d.store
    (c.on d).refresh disk server t f.name versions =
      (c.answer f t versions run, c.on { d.migrated [] with store := run.2 }) := by
  intro run
  have hconnect : (c.on d).connect disk = .ok d := rfl
  have hplace : Report.makeDirectory (c.on d).isFile (c.on d).reportDirectory =
      Report.makeDirectory c.isFile c.reportDirectory := rfl
  simp only [refresh, withDatabase, hconnect, d.migrate_ok, Store.store_migrated, f.find_name, hplace]
  unfold answer
  cases Report.makeDirectory c.isFile c.reportDirectory <;> rfl

theorem refresh_on_current (c : Catalog) {d : Database} (hd : d.Current) (disk : Disk) (server : Server)
    (t : Run.Times) (f : Family) (versions : List String) :
    let run := Run.visitAll f c.config.feeds server versions d.store
    (c.on d).refresh disk server t f.name versions =
      (c.answer f t versions run, c.on { d with store := run.2 }) := by
  have hrun := c.refresh_on d disk server t f versions
  rwa [hd.migrated] at hrun

theorem refresh_twice (c : Catalog) {d : Database} (hd : d.Current) (disk : Disk) (server : Server)
    (t u : Run.Times) (f : Family) (versions : List String) :
    let first := Run.visitAll f c.config.feeds server versions d.store
    let second := Run.visitAll f c.config.feeds server versions first.2
    (c.on d).refresh disk server t f.name versions =
        (c.answer f t versions first, c.on { d with store := first.2 }) ∧
      (c.on { d with store := first.2 }).refresh disk server u f.name versions =
        (c.answer f u versions second, c.on { d with store := second.2 }) :=
  ⟨c.refresh_on_current hd disk server t f versions,
    c.refresh_on_current (hd.setStore _) disk server u f versions⟩

theorem refresh_of_connect {c : Catalog} {d : Database} {disk : Disk} (h : c.connect disk = .ok d)
    (server : Server) (t : Run.Times) (family : String) (versions : List String) :
    c.refresh disk server t family versions = (c.on d).refresh disk server t family versions := by
  have hon : (c.on d).connect disk = .ok d := rfl
  unfold refresh withDatabase
  rw [h, hon]
  rfl

end Catalog

end OvalCatalog
