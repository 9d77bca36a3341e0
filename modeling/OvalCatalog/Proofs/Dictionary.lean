import OvalCatalog.Proofs.Store.Calls
import OvalCatalog.Proofs.Store.Snapshot

/-! The store as a dictionary: the definitions of each version of each family, and the time of the last
snapshot of each file. A call does to the tables just what it does to the dictionary. -/

namespace OvalCatalog

structure Dictionary where
  entries : String → String → Option (List Definition)
  times : String → Option Time.Timestamp

namespace Dictionary

def empty : Dictionary :=
  ⟨fun _ _ => none, fun _ => none⟩

def setEntry (family osVersion : String) (definitions : List Definition) (d : Dictionary) : Dictionary :=
  { d with entries := fun f v => if f = family ∧ v = osVersion then some definitions else d.entries f v }

def setTime (name : String) (t : Time.Timestamp) (d : Dictionary) : Dictionary :=
  { d with times := fun n => if n = name then some t else d.times n }

def isFetched (file : FetchMeta) (d : Dictionary) : Except StoreFailure Bool :=
  match file.fileName.bind d.times with
  | none => .ok false
  | some t => file.timestamp.normalize.map (t == ·)

def refresh (x : Snapshot) (d : Dictionary) : Except RefreshError Bool × Dictionary :=
  match d.isFetched x.fetchMeta, x.note with
  | .error e, _ => (.error (.refresh e x.subject), d)
  | .ok true, _ => (.ok false, d)
  | .ok false, .error e => (.error (.refresh e x.subject), d)
  | .ok false, .ok t =>
    (.ok true, (d.setEntry x.family.name x.osVersion (x.definitions.map Definition.content)).setTime
      x.fileName t)

def insertOval (family : Family) (root : Root) (file : FetchMeta) (d : Dictionary) :
    Except RefreshError Bool × Dictionary :=
  match Snapshot.of family root file with
  | .error m => (.error (.malformed m), d)
  | .ok x => d.refresh x

def insertFetchMeta (family : Family) (file : FetchMeta) (d : Dictionary) :
    Except RefreshError Bool × Dictionary :=
  let subject : Subject := ⟨some family.name, none, file.fileName⟩
  match d.isFetched file, file.note with
  | .error e, _ => (.error (.record e subject), d)
  | .ok true, _ => (.ok false, d)
  | .ok false, .error e => (.error (.record e subject), d)
  | .ok false, .ok (name, t) => (.ok true, d.setTime name t)

def recordFetch (file : FetchMeta) (d : Dictionary) : Except StoreFailure Unit × Dictionary :=
  match file.note with
  | .error e => (.error e, d)
  | .ok (name, t) => (.ok (), d.setTime name t)

def perform : Call → Dictionary → Answer × Dictionary
  | .insertOval family root file, d =>
    (.stored (d.insertOval family root file).1, (d.insertOval family root file).2)
  | .insertFetchMeta family file, d =>
    (.stored (d.insertFetchMeta family file).1, (d.insertFetchMeta family file).2)
  | .recordFetch file, d => (.noted (d.recordFetch file).1, (d.recordFetch file).2)

def after : List Call → Dictionary → Dictionary
  | [], d => d
  | c :: calls, d => after calls (d.perform c).2

end Dictionary

namespace Store

def definitionsOf (s : Store) (root : Int) : List Definition :=
  (groupOf (·.rootId) root s.definitions.ordered).map fun d => (s.parts.definition d).content

def dictionary (s : Store) : Dictionary where
  entries family osVersion := (s.rootIds family osVersion).head?.map s.definitionsOf
  times := s.timeOf

/-- The tables say one thing only: there is at most one root of each version of a family, one note of
each file, and one advisory and one record of Debian for each definition. -/
structure Unambiguous (s : Store) : Prop where
  roots : (s.roots.rows.map fun r => (r.family, r.osVersion)).Nodup
  files : (s.fetches.rows.map (·.fileName)).Nodup
  advisories : (s.advisories.rows.map (·.definitionId)).Nodup
  debians : (s.debians.rows.map (·.definitionId)).Nodup

variable {s : Store} {trees : List DefinitionTree}

theorem parents_sublist {τ ρ : Type} {nodes : List τ} {key : τ → Int} {parent : ρ → Int}
    {rows : τ → List ρ} (hl : ∀ t : τ, ∀ r ∈ rows t, parent r = key t) (hone : ∀ t, (rows t).length ≤ 1) :
    ((nodes.flatMap rows).map parent).Sublist (nodes.map key) := by
  induction nodes with
  | nil => exact .slnil
  | cons t nodes ih =>
    rw [List.flatMap_cons, List.map_append, List.map_cons]
    have ht := hl t
    have hlen := hone t
    match rows t, ht, hlen with
    | [], _, _ => exact ih.cons _
    | [r], ht, _ =>
      rw [← ht r (List.mem_singleton_self r)]
      exact ih.cons_cons _

theorem Holds.unambiguous (h : s.Holds trees) : s.Unambiguous where
  roots := h.versions
  files := h.files
  advisories := by
    rw [h.advisories]
    refine h.nodup_ids.sublist (parents_sublist (·.advisories_linked) fun t => ?_)
    cases ha : t.advisory <;> simp [DefinitionTree.advisories, ha]
  debians := by
    rw [h.debians]
    refine h.nodup_ids.sublist (parents_sublist (·.debians_linked) fun t => ?_)
    cases t.debian <;> simp

theorem Holds.definitionsOf (h : s.Holds trees) (root : Int) :
    s.definitionsOf root = (trees.filter fun t => t.row.rootId == root).map DefinitionTree.content := by
  rw [Store.definitionsOf, h.numbered.definitions.ordered, h.definitions, groupOf, List.filter_map,
    List.map_map]
  apply List.map_congr_left
  intro t ht
  rw [Function.comp_apply, h.parts_definition (List.mem_of_mem_filter ht)]
  rfl

theorem dictionary_of_sameRows {u : Store} (h : s.SameRows u) : u.dictionary = s.dictionary := by
  obtain ⟨h1, h2, h3, h4, h5, h6, h7, h8, h9, h10⟩ := h
  have hparts : u.parts = s.parts := by
    simp only [parts, Table.ordered, h4, h5, h6, h7, h8, h9, h10]
  have hdefinitions : u.definitionsOf = s.definitionsOf := by
    funext root
    rw [Store.definitionsOf, Store.definitionsOf, hparts, Table.ordered, Table.ordered, h3]
  have htimes : u.timeOf = s.timeOf := by
    funext name
    simp only [timeOf, fetched?, h1]
  simp only [dictionary, rootIds, Table.ordered, h2, hdefinitions, htimes]

theorem Noted.dictionary {u : Store} {name : String} {t : Time.Timestamp} (h : s.Noted trees name t u) :
    u.dictionary = s.dictionary.setTime name t := by
  have hentries : u.dictionary.entries = s.dictionary.entries := by
    rw [← h.others]
    rfl
  have htimes : u.dictionary.times = fun n => if n = name then some t else s.timeOf n :=
    funext h.times
  rw [Dictionary.setTime, ← hentries]
  exact congrArg (Dictionary.mk u.dictionary.entries) htimes

theorem Holds.rootId_lt (h : s.Holds trees) {t : DefinitionTree} (ht : t ∈ trees) :
    t.row.rootId < s.roots.next := by
  obtain ⟨r, hr, he⟩ := List.mem_map.mp (h.rooted t ht)
  rw [← he]
  exact h.numbered.roots.below r hr

section Replaced

variable {x : Snapshot} {t : Time.Timestamp} {u : Store} {grown : List DefinitionTree}

theorem Replaced.rootIds_self (hr : s.Replaced trees x t u grown) (h : s.Holds trees) :
    u.rootIds x.family.name x.osVersion = [s.roots.next] := by
  have hold : ((s.roots.rows.filter fun r => !(s.rootIds x.family.name x.osVersion).contains r.id).filter
      fun r => r.family == x.family.name && r.osVersion == x.osVersion) = [] := by
    simp only [List.filter_filter, List.filter_eq_nil_iff, Bool.and_eq_true, Bool.not_eq_true',
      Bool.eq_false_iff, ne_eq, List.contains_iff_mem, beq_iff_eq, not_and]
    exact fun r hrow hv hkept => hkept ((h.mem_rootIds _ _ hrow).mpr hv)
  rw [rootIds, hr.holds.numbered.roots.ordered, hr.roots, List.filter_append, hold]
  simp

theorem Replaced.filter_roots (hr : s.Replaced trees x t u grown) (h : s.Holds trees) {p : RootRow → Bool}
    (hp : ∀ r, p r = true → ¬(r.family = x.family.name ∧ r.osVersion = x.osVersion)) :
    u.roots.rows.filter p = s.roots.rows.filter p := by
  have hnew : ([⟨s.roots.next, x.family.name, x.osVersion⟩] : List RootRow).filter p = [] := by
    rw [List.filter_eq_nil_iff]
    intro r hr he
    obtain rfl := List.mem_singleton.mp hr
    exact hp _ he ⟨rfl, rfl⟩
  rw [hr.roots, List.filter_append, hnew, List.append_nil, List.filter_filter]
  apply List.filter_congr
  intro r hrow
  rw [Bool.and_eq_left_iff_imp]
  intro he
  rw [Bool.not_eq_true', Bool.eq_false_iff, ne_eq, List.contains_iff_mem, h.mem_rootIds _ _ hrow]
  exact hp r he

theorem Replaced.filter_trees (hr : s.Replaced trees x t u grown) (h : s.Holds trees) {r : RootRow}
    (hrow : r ∈ s.roots.rows) (hv : ¬(r.family = x.family.name ∧ r.osVersion = x.osVersion)) :
    ((trees.filter fun d => !(s.rootIds x.family.name x.osVersion).contains d.row.rootId) ++ grown).filter
        (fun d => d.row.rootId == r.id) = trees.filter fun d => d.row.rootId == r.id := by
  have hlt := h.numbered.roots.below r hrow
  have hnew : (grown.filter fun d => d.row.rootId == r.id) = [] := by
    rw [List.filter_eq_nil_iff]
    intro d hd he
    rw [beq_iff_eq, hr.rooted d hd] at he
    change r.id < s.roots.next at hlt
    omega
  rw [List.filter_append, hnew, List.append_nil, List.filter_filter]
  apply List.filter_congr
  intro d hd
  rw [Bool.and_eq_left_iff_imp, beq_iff_eq]
  intro he
  rw [he, Bool.not_eq_true', Bool.eq_false_iff, ne_eq, List.contains_iff_mem, h.mem_rootIds _ _ hrow]
  exact hv

theorem Replaced.rootIds_other (hr : s.Replaced trees x t u grown) (h : s.Holds trees)
    {family osVersion : String} (hv : ¬(family = x.family.name ∧ osVersion = x.osVersion)) :
    u.rootIds family osVersion = s.rootIds family osVersion := by
  rw [rootIds, rootIds, hr.holds.numbered.roots.ordered, h.numbered.roots.ordered, hr.filter_roots h]
  intro r he
  rw [Bool.and_eq_true, beq_iff_eq, beq_iff_eq] at he
  rwa [he.1, he.2]

theorem Replaced.definitionsOf_next (hr : s.Replaced trees x t u grown) (h : s.Holds trees) :
    u.definitionsOf s.roots.next = x.definitions.map Definition.content := by
  have hold : ((trees.filter fun d => !(s.rootIds x.family.name x.osVersion).contains d.row.rootId).filter
      fun d => d.row.rootId == s.roots.next) = [] := by
    rw [List.filter_eq_nil_iff]
    intro d hd he
    have hlt := h.rootId_lt (List.mem_of_mem_filter hd)
    rw [beq_iff_eq] at he
    omega
  have hnew : (grown.filter fun d => d.row.rootId == s.roots.next) = grown :=
    List.filter_eq_self.mpr fun d hd => by simpa using hr.rooted d hd
  rw [hr.holds.definitionsOf, List.filter_append, hold, hnew, List.nil_append, hr.contents]

theorem Replaced.definitionsOf_other (hr : s.Replaced trees x t u grown) (h : s.Holds trees)
    {family osVersion : String} (hv : ¬(family = x.family.name ∧ osVersion = x.osVersion)) {id : Int}
    (hid : id ∈ s.rootIds family osVersion) : u.definitionsOf id = s.definitionsOf id := by
  obtain ⟨r, hrow, rfl, rfl, rfl⟩ := (h.mem_rootIds_iff _ _ _).mp hid
  rw [hr.holds.definitionsOf, h.definitionsOf, hr.filter_trees h hrow hv]

theorem Replaced.dictionary (hr : s.Replaced trees x t u grown) (h : s.Holds trees) :
    u.dictionary =
      (s.dictionary.setEntry x.family.name x.osVersion (x.definitions.map Definition.content)).setTime
        x.fileName t := by
  have hentries : u.dictionary.entries = (s.dictionary.setEntry x.family.name x.osVersion
      (x.definitions.map Definition.content)).entries := by
    funext family osVersion
    change Option.map _ _ = if _ then _ else Option.map _ _
    split
    · next hv =>
      rw [hv.1, hv.2, hr.rootIds_self h, List.head?_cons, Option.map_some, hr.definitionsOf_next h]
    · next hv =>
      rw [hr.rootIds_other h hv]
      cases hid : (s.rootIds family osVersion).head? with
      | none => rfl
      | some id =>
        rw [Option.map_some, Option.map_some,
          hr.definitionsOf_other h hv (List.mem_of_mem_head? (Option.mem_def.mpr hid))]
  have htimes : u.dictionary.times = fun n => if n = x.fileName then some t else s.timeOf n :=
    funext hr.times
  exact congr (congrArg Dictionary.mk hentries) htimes

end Replaced

theorem isFetched_dictionary (s : Store) (file : FetchMeta) :
    s.dictionary.isFetched file = s.isFetched file :=
  (isFetched_eq s file).symm

theorem Holds.refresh_dictionary (h : s.Holds trees) (x : Snapshot) :
    s.dictionary.refresh x = ((s.refresh x).1, (s.refresh x).2.dictionary) := by
  have hr := h.refresh x
  unfold Dictionary.refresh
  rw [isFetched_dictionary]
  rcases hy : s.refresh x with ⟨e | ⟨⟨⟩⟩, u⟩ <;> rw [hy] at hr
  · obtain ⟨_, hrows, cause, rfl, hf | ⟨hf, hn⟩⟩ := hr
    · rw [hf, dictionary_of_sameRows hrows]
    · rw [hf, hn, dictionary_of_sameRows hrows]
  · obtain ⟨hf, rfl⟩ := hr
    rw [hf]
  · obtain ⟨hf, t, grown, hn, hg⟩ := hr
    rw [hf, hn, hg.dictionary h]

theorem Holds.insertOval_dictionary (h : s.Holds trees) (family : Family) (root : Root) (file : FetchMeta) :
    s.dictionary.insertOval family root file =
      ((s.insertOval family root file).1, (s.insertOval family root file).2.dictionary) := by
  unfold Dictionary.insertOval
  cases hx : Snapshot.of family root file with
  | error m => rw [insertOval_of_error hx]
  | ok x => rw [insertOval_of_ok hx, ← h.refresh_dictionary x]

theorem Holds.insertFetchMeta_dictionary (h : s.Holds trees) (family : Family) (file : FetchMeta) :
    s.dictionary.insertFetchMeta family file =
      ((s.insertFetchMeta family file).1, (s.insertFetchMeta family file).2.dictionary) := by
  have hr := h.insertFetchMeta family file
  unfold Dictionary.insertFetchMeta
  rw [isFetched_dictionary]
  rcases hy : s.insertFetchMeta family file with ⟨e | ⟨⟨⟩⟩, u⟩ <;> rw [hy] at hr
  · obtain ⟨_, hrows, cause, rfl, hf | ⟨hf, hn⟩⟩ := hr
    · rw [hf, dictionary_of_sameRows hrows]
    · rw [hf, hn, dictionary_of_sameRows hrows]
  · obtain ⟨hf, rfl⟩ := hr
    rw [hf]
  · obtain ⟨hf, name, t, hn, hu⟩ := hr
    rw [hf, hn, hu.dictionary]

theorem Holds.perform_dictionary (h : s.Holds trees) (c : Call) :
    s.dictionary.perform c = ((c.perform s).1, (c.perform s).2.dictionary) := by
  cases c with
  | insertOval family root file =>
    simp only [Dictionary.perform, Call.perform, h.insertOval_dictionary]
  | insertFetchMeta family file =>
    simp only [Dictionary.perform, Call.perform, h.insertFetchMeta_dictionary]
  | recordFetch file =>
    have hr := h.recordFetch file
    rcases hy : s.recordFetch file with ⟨e, u⟩ | ⟨id, u⟩ <;> rw [hy] at hr <;>
      simp only [Dictionary.perform, Dictionary.recordFetch, Call.perform, hy]
    · rw [hr.1, dictionary_of_sameRows hr.2.2]
    · obtain ⟨name, t, hn, hu⟩ := hr
      rw [hn, hu.dictionary]

theorem Holds.after_dictionary (h : s.Holds trees) (calls : List Call) :
    (s.after calls).dictionary = s.dictionary.after calls := by
  induction calls generalizing s trees with
  | nil => rfl
  | cons c calls ih =>
    obtain ⟨_, trees', h'⟩ := h.perform c
    rw [Store.after, Dictionary.after, ih h', h.perform_dictionary]

theorem dictionary_empty : Store.empty.dictionary = .empty := by
  have hnone (family osVersion : String) : Store.empty.rootIds family osVersion = [] := by
    rw [rootIds, Numbered.empty.roots.ordered]
    rfl
  unfold Store.dictionary Dictionary.empty
  simp only [hnone]
  rfl

theorem reached_dictionary (calls : List Call) : (reached calls).dictionary = Dictionary.empty.after calls := by
  rw [reached, store_fresh, Holds.empty.after_dictionary, dictionary_empty]

/-- The tables refine the dictionary: in every state that calls lead to they say one thing only, which
the same calls on the dictionary say too, and every further call answers and acts on both alike. A root
that is stored is the entry of its version, its file has the time of its snapshot, and nothing else
changes; and if it is not stored nothing changes at all. -/
theorem tables_refine_dictionary (calls : List Call) :
    (reached calls).Unambiguous ∧ (reached calls).dictionary = Dictionary.empty.after calls ∧
      (∀ c : Call, (reached calls).dictionary.perform c =
        ((c.perform (reached calls)).1, (c.perform (reached calls)).2.dictionary)) ∧
      ∀ family root file, match (reached calls).insertOval family root file with
        | (.ok true, u) => ∃ v n t, root.osVersion = some v ∧ file.fileName = some n ∧
            file.timestamp.normalize = .ok t ∧ (reached calls).dictionary.times n ≠ some t ∧
            u.dictionary = ((reached calls).dictionary.setEntry family.name v
              (root.definitions.map Definition.content)).setTime n t
        | (.ok false, u) => u.dictionary = (reached calls).dictionary ∧ ∃ n t, file.fileName = some n ∧
            file.timestamp.normalize = .ok t ∧ (reached calls).dictionary.times n = some t
        | (.error _, u) => u.dictionary = (reached calls).dictionary := by
  obtain ⟨trees, h⟩ := reached_holds calls
  refine ⟨h.unambiguous, reached_dictionary calls, h.perform_dictionary, fun family root file => ?_⟩
  generalize reached calls = s at *
  cases hx : Snapshot.of family root file with
  | error m => rw [insertOval_of_error hx]
  | ok x =>
    obtain ⟨_, hx'⟩ := Snapshot.of_ok hx
    obtain rfl := hx'.file
    rw [insertOval_of_ok hx]
    have hr := h.refresh x
    rcases hy : s.refresh x with ⟨e | ⟨⟨⟩⟩, u⟩ <;> rw [hy] at hr
    · exact dictionary_of_sameRows hr.2.1
    · obtain ⟨hf, rfl⟩ := hr
      exact ⟨rfl, (isFetched_eq_true_iff _ _).mp hf⟩
    · obtain ⟨hf, t, grown, hn, hg⟩ := hr
      refine ⟨x.osVersion, x.fileName, t, hx'.osVersion, rfl, (note_ok hn).2, ?_, ?_⟩
      · intro ht
        have hfetched := (isFetched_eq_true_iff s x.fetchMeta).mpr ⟨x.fileName, t, rfl, (note_ok hn).2, ht⟩
        cases hf.symm.trans hfetched
      · rw [hg.dictionary h, hx'.family, hx'.definitions]

end Store

end OvalCatalog
