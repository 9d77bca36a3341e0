import OvalCatalog.Proofs.Store.Deletion
import OvalCatalog.Proofs.Store.Insertion

namespace OvalCatalog

def FetchMeta.note (file : FetchMeta) : Except StoreFailure (String × Time.Timestamp) :=
  match file.timestamp.normalize, file.fileName with
  | .error e, _ => .error e
  | .ok _, none => .error (.row (.missing .fileName))
  | .ok t, some name => .ok (name, t)

def Snapshot.note (x : Snapshot) : Except StoreFailure Time.Timestamp :=
  match x.definitions.findSome? Definition.lacks? with
  | some c => .error (.row (.missing c))
  | none => x.fetchMeta.timestamp.normalize

namespace Store

def timeOf (s : Store) (name : String) : Option Time.Timestamp :=
  (s.fetched? (some name)).map (·.timestamp)

variable {s : Store} {trees : List DefinitionTree}

theorem isFetched_eq (s : Store) (file : FetchMeta) :
    s.isFetched file = match file.fileName.bind s.timeOf with
      | none => .ok false
      | some t => file.timestamp.normalize.map (t == ·) := by
  have htime : file.fileName.bind s.timeOf = (s.fetched? file.fileName).map (·.timestamp) := by
    cases file.fileName <;> rfl
  rw [isFetched, htime]
  cases s.fetched? file.fileName <;> rfl

theorem isFetched_eq_true_iff (s : Store) (file : FetchMeta) :
    s.isFetched file = .ok true ↔
      ∃ n t, file.fileName = some n ∧ file.timestamp.normalize = .ok t ∧ s.timeOf n = some t := by
  rw [isFetched_eq]
  obtain ⟨fileName, stamp⟩ := file
  cases fileName with
  | none => simp
  | some n =>
    simp only [Option.bind_some, Option.some.injEq]
    cases ht : s.timeOf n with
    | none => simp [ht]
    | some t =>
      cases stamp.normalize with
      | error e => simp [Except.map]
      | ok u => simp [Except.map, ht]

def stamped (id : Int) (t : Time.Timestamp) (r : FetchRow) : FetchRow :=
  if r.id == id then { r with timestamp := t } else r

theorem id_stamped (id : Int) (t : Time.Timestamp) (r : FetchRow) : (stamped id t r).id = r.id := by
  unfold stamped
  split <;> rfl

theorem fileName_stamped (id : Int) (t : Time.Timestamp) (r : FetchRow) :
    (stamped id t r).fileName = r.fileName := by
  unfold stamped
  split <;> rfl

theorem Holds.setFetched (h : s.Holds trees) (id : Int) (t : Time.Timestamp) :
    (s.setFetched id t).Holds trees := by
  refine { h with
    numbered := { h.numbered with fetches := h.numbered.fetches.map _ (id_stamped id t) }, files := ?_ }
  change ((s.fetches.rows.map (stamped id t)).map _).Nodup
  rw [List.map_map, show (·.fileName) ∘ stamped id t = (·.fileName) from funext (fileName_stamped id t)]
  exact h.files

theorem Holds.timeOf_setFetched (h : s.Holds trees) {name : String} {row : FetchRow}
    (hrow : s.fetched? (some name) = some row) (t : Time.Timestamp) (n : String) :
    (s.setFetched row.id t).timeOf n = if n = name then some t else s.timeOf n := by
  change s.fetches.rows.find? (fun r => r.fileName == name) = some row at hrow
  have hname : row.fileName = name := by simpa using List.find?_some hrow
  have hkey : (fun r : FetchRow => r.fileName == n) ∘ stamped row.id t = fun r => r.fileName == n :=
    funext fun r => by rw [Function.comp_apply, fileName_stamped]
  change Option.map _ ((s.fetches.rows.map (stamped row.id t)).find? _) = _
  rw [List.find?_map, hkey]
  by_cases hn : n = name
  · subst hn
    simp [hrow, stamped]
  · rw [if_neg hn]
    change _ = Option.map _ (s.fetches.rows.find? fun r => r.fileName == n)
    cases hr : s.fetches.rows.find? (fun r => r.fileName == n) with
    | none => rfl
    | some r =>
      have hrn : r.fileName = n := by simpa using List.find?_some hr
      have hne : r.id ≠ row.id := by
        intro he
        have hrr := h.numbered.fetches.eq_of_id (List.mem_of_find?_eq_some hr)
          (List.mem_of_find?_eq_some hrow) he
        exact hn (hrn.symm.trans ((congrArg FetchRow.fileName hrr).trans hname))
      simp [stamped, hne]

theorem Holds.addFetch (h : s.Holds trees) {name : String} (hfresh : s.fetched? (some name) = none)
    {t : Time.Timestamp} {fetches : Table FetchRow} (hn : fetches.Numbered)
    (hrows : fetches.rows = s.fetches.rows ++ [⟨s.fetches.next, name, t⟩]) :
    ({ s with fetches } : Store).Holds trees ∧
      ∀ n, ({ s with fetches } : Store).timeOf n = if n = name then some t else s.timeOf n := by
  have hnames : ∀ r ∈ s.fetches.rows, r.fileName ≠ name := by
    simpa [fetched?, List.find?_eq_none] using hfresh
  refine ⟨{ h with numbered := { h.numbered with fetches := hn }, files := ?_ }, fun n => ?_⟩
  · change (fetches.rows.map _).Nodup
    rw [hrows, List.map_append, List.nodup_append]
    refine ⟨h.files, List.nodup_singleton _, ?_⟩
    rintro _ hp _ hq rfl
    obtain ⟨r, hr, he⟩ := List.mem_map.mp hp
    obtain rfl := List.mem_singleton.mp hq
    exact hnames r hr he
  · change Option.map _ (fetches.rows.find? _) = if n = name then _ else
      Option.map _ (s.fetches.rows.find? _)
    rw [hrows, List.find?_append]
    by_cases hn : n = name
    · subst hn
      have hnone : s.fetches.rows.find? (fun r => r.fileName == n) = none := by
        simpa [List.find?_eq_none] using hnames
      simp [hnone]
    · simp [hn, Ne.symm hn]

theorem FetchRow.maker (t : Time.Timestamp) :
    Table.Maker (fun n name => FetchRow.of name t n)
      fun name => if name.isSome then none else some .fileName := by
  constructor <;> intro n name x hx <;> unfold FetchRow.of at hx <;> split at hx <;> cases hx <;>
    simp [Row.id]

theorem recordFetch_cases {u : Store} (hs : s.fetches.Numbered) {file : FetchMeta} {id : Int}
    (h : s.recordFetch file = .ok (id, u)) :
    ∃ name t, file.fileName = some name ∧ file.timestamp.normalize = .ok t ∧ u = { s with fetches := u.fetches } ∧
      ((∃ row, s.fetched? (some name) = some row ∧ row.id = id ∧
          u.fetches.rows = s.fetches.rows.map (stamped row.id t)) ∨
        s.fetched? (some name) = none ∧ u.fetches.rows = s.fetches.rows ++ [⟨id, name, t⟩]) := by
  obtain ⟨fileName, stamp⟩ := file
  unfold Store.recordFetch at h
  split at h
  · cases h
  · next t ht =>
    split at h
    · next row hrow =>
      cases h
      cases fileName with
      | none => cases hrow
      | some name => exact ⟨name, t, rfl, ht, rfl, .inl ⟨row, hrow, rfl, rfl⟩⟩
    · next hrow =>
      have hf := Table.fill_spec (FetchRow.maker t) hs [fileName]
      split at h
      · next fetches hx =>
        rw [hx] at hf
        obtain ⟨hn, rows, hmade, rfl⟩ := hf
        cases h
        cases fileName with
        | none => cases hn
        | some name =>
          cases hmade with
          | cons hr hrest =>
            cases hr
            cases hrest
            exact ⟨name, t, rfl, ht, rfl, .inr ⟨hrow, rfl⟩⟩
      · cases h

structure Noted (s : Store) (trees : List DefinitionTree) (name : String) (t : Time.Timestamp) (u : Store) :
    Prop where
  later : s.Later u
  holds : u.Holds trees
  others : { u with fetches := s.fetches } = s
  times : ∀ n, u.timeOf n = if n = name then some t else s.timeOf n

theorem Holds.recordFetch (h : s.Holds trees) (file : FetchMeta) :
    match s.recordFetch file with
    | .ok (_, u) => ∃ name t, file.note = .ok (name, t) ∧ s.Noted trees name t u
    | .error (e, u) => file.note = .error e ∧ s.Later u ∧ s.SameRows u := by
  obtain ⟨fileName, stamp⟩ := file
  unfold Store.recordFetch FetchMeta.note
  cases ht : stamp.normalize with
  | error e => exact ⟨rfl, .refl s, rfl, rfl, rfl, rfl, rfl, rfl, rfl, rfl, rfl, rfl⟩
  | ok t =>
    cases hrow : s.fetched? fileName with
    | some row =>
      cases fileName with
      | none => cases hrow
      | some name =>
        exact ⟨name, t, rfl, { Later.refl s with fetches := Int.le_refl _ }, h.setFetched row.id t, rfl,
          h.timeOf_setFetched hrow t⟩
    | none =>
      have hf := Table.fill_spec (FetchRow.maker t) h.numbered.fetches [fileName]
      dsimp only
      cases hx : s.fetches.fill (fun n name => FetchRow.of name t n) [fileName] with
      | error e =>
        obtain ⟨e, u⟩ := e
        rw [hx] at hf
        obtain ⟨c, hc, rfl, hrows, hl⟩ := hf
        cases fileName with
        | some name => cases hc
        | none =>
          cases hc
          exact ⟨rfl, { Later.refl s with fetches := hl }, hrows.symm, rfl, rfl, rfl, rfl, rfl, rfl, rfl, rfl,
            rfl⟩
      | ok u =>
        rw [hx] at hf
        obtain ⟨hn, rows, hmade, rfl⟩ := hf
        cases fileName with
        | none => cases hn
        | some name =>
          have hnumbered := h.numbered.fetches.append (FetchRow.maker t) hmade
          cases hmade with
          | cons hr hrest =>
            cases hr
            cases hrest
            obtain ⟨hu, htimes⟩ := h.addFetch hrow hnumbered rfl
            refine ⟨name, t, rfl, { Later.refl s with fetches := ?_ }, hu, rfl, htimes⟩
            exact Int.le_add_of_nonneg_right (Int.natCast_nonneg _)

theorem note_ok {x : Snapshot} {t : Time.Timestamp} (h : x.note = .ok t) :
    x.definitions.findSome? Definition.lacks? = none ∧ x.fetchMeta.timestamp.normalize = .ok t := by
  unfold Snapshot.note at h
  split at h
  · cases h
  · next hn => exact ⟨hn, h⟩

theorem Holds.mem_rootIds_iff (h : s.Holds trees) (family osVersion : String) (id : Int) :
    id ∈ s.rootIds family osVersion ↔
      ∃ r ∈ s.roots.rows, r.id = id ∧ r.family = family ∧ r.osVersion = osVersion := by
  simp only [rootIds, h.numbered.roots.ordered, List.mem_map, List.mem_filter, Bool.and_eq_true, beq_iff_eq]
  constructor
  · rintro ⟨r, ⟨hr, hv⟩, he⟩
    exact ⟨r, hr, he, hv⟩
  · rintro ⟨r, hr, he, hv⟩
    exact ⟨r, ⟨hr, hv⟩, he⟩

theorem Holds.mem_rootIds (h : s.Holds trees) (family osVersion : String) {r : RootRow}
    (hr : r ∈ s.roots.rows) :
    r.id ∈ s.rootIds family osVersion ↔ r.family = family ∧ r.osVersion = osVersion := by
  rw [h.mem_rootIds_iff]
  constructor
  · rintro ⟨q, hq, he, hv⟩
    rwa [← h.numbered.roots.eq_of_id hq hr he]
  · intro hv
    exact ⟨r, hr, rfl, hv⟩

structure Replaced (s : Store) (trees : List DefinitionTree) (x : Snapshot) (t : Time.Timestamp) (u : Store)
    (grown : List DefinitionTree) : Prop where
  later : s.Later u
  roots : u.roots.rows =
    (s.roots.rows.filter fun r => !(s.rootIds x.family.name x.osVersion).contains r.id) ++
      [⟨s.roots.next, x.family.name, x.osVersion⟩]
  holds : u.Holds
    ((trees.filter fun t => !(s.rootIds x.family.name x.osVersion).contains t.row.rootId) ++ grown)
  rooted : ∀ t ∈ grown, t.row.rootId = s.roots.next
  contents : grown.map DefinitionTree.content = x.definitions.map Definition.content
  times : ∀ n, u.timeOf n = if n = x.fileName then some t else s.timeOf n

theorem Holds.replaceRoot (h : s.Holds trees) (x : Snapshot) :
    match s.replaceRoot x with
    | .ok u => ∃ t grown, x.note = .ok t ∧ s.Replaced trees x t u grown
    | .error (e, u) => x.note = .error e ∧ s.Later u := by
  unfold Store.replaceRoot Snapshot.note
  have hdeleted := h.deleteRoots (s.rootIds x.family.name x.osVersion)
  have hlater := later_deleteRoots (s.rootIds x.family.name x.osVersion) s
  have hroots := roots_deleteRoots (s.rootIds x.family.name x.osVersion) s
  have hfetches := fetches_deleteRoots (s.rootIds x.family.name x.osVersion) s
  generalize s.deleteRoots (s.rootIds x.family.name x.osVersion) = d at *
  have hnext : d.roots.next = s.roots.next := by rw [hroots]; rfl
  -- what makes room for the new root: no other root of its version is left
  have hfree : ∀ r ∈ d.roots.rows, ¬(r.family = x.family.name ∧ r.osVersion = x.osVersion) := by
    intro r hr hv
    rw [hroots] at hr
    obtain ⟨hr, hkept⟩ := List.mem_filter.mp hr
    rw [Bool.not_eq_true', Bool.eq_false_iff, ne_eq, List.contains_iff_mem, h.mem_rootIds _ _ hr] at hkept
    exact hkept hv
  have hadded := hdeleted.addRoot_yields hfree x.definitions
  dsimp only
  cases hx : d.addRoot x.family.name x.osVersion x.definitions with
  | error e =>
    rw [hx] at hadded
    obtain ⟨c, hc, he, hl⟩ := hadded
    rw [hc]
    exact ⟨by rw [he], hlater.trans hl⟩
  | ok v =>
    rw [hx] at hadded
    obtain ⟨hn, hl, hf, hr, grown, hholds, hrooted, hcontents⟩ := hadded
    have hnoted := hholds.recordFetch x.fetchMeta
    have hnote : x.fetchMeta.note = x.fetchMeta.timestamp.normalize.map (x.fileName, ·) := by
      unfold FetchMeta.note
      cases x.fetchMeta.timestamp.normalize <;> rfl
    rw [hn]
    rw [hnote] at hnoted
    dsimp only
    cases hy : v.recordFetch x.fetchMeta with
    | error e =>
      obtain ⟨e, u⟩ := e
      rw [hy] at hnoted
      obtain ⟨hnormal, hl', _⟩ := hnoted
      cases ht : x.fetchMeta.timestamp.normalize <;> rw [ht] at hnormal <;> cases hnormal
      exact ⟨rfl, (hlater.trans hl).trans hl'⟩
    | ok p =>
      obtain ⟨id, u⟩ := p
      rw [hy] at hnoted
      obtain ⟨name, t, hnormal, hu⟩ := hnoted
      cases ht : x.fetchMeta.timestamp.normalize <;> rw [ht] at hnormal <;> cases hnormal
      refine ⟨t, grown, rfl, (hlater.trans hl).trans hu.later, ?_, hu.holds, ?_, hcontents, ?_⟩
      · have hroots' : u.roots = v.roots := by rw [← hu.others]
        rw [hroots', hr, hnext, hroots]
        rfl
      · rwa [hnext] at hrooted
      · intro n
        rw [hu.times]
        simp only [timeOf, fetched?, hf, hfetches]

theorem Holds.refresh (h : s.Holds trees) (x : Snapshot) :
    match s.refresh x with
    | (.ok true, u) => s.isFetched x.fetchMeta = .ok false ∧
        ∃ t grown, x.note = .ok t ∧ s.Replaced trees x t u grown
    | (.ok false, u) => s.isFetched x.fetchMeta = .ok true ∧ u = s
    | (.error e, u) => s.Later u ∧ s.SameRows u ∧ ∃ cause, e = .refresh cause x.subject ∧
        (s.isFetched x.fetchMeta = .error cause ∨
          s.isFetched x.fetchMeta = .ok false ∧ x.note = .error cause) := by
  unfold Store.refresh
  cases hf : s.isFetched x.fetchMeta with
  | error e => exact ⟨.refl s, .refl s, e, rfl, .inl rfl⟩
  | ok b =>
    cases b with
    | true => exact ⟨rfl, rfl⟩
    | false =>
      have hreplaced := h.replaceRoot x
      dsimp only
      cases hx : s.replaceRoot x with
      | error e =>
        obtain ⟨e, u⟩ := e
        rw [hx] at hreplaced
        exact ⟨later_rollback hreplaced.2, sameRows_rollback s u, e, rfl, .inr ⟨rfl, hreplaced.1⟩⟩
      | ok u =>
        rw [hx] at hreplaced
        exact ⟨rfl, hreplaced⟩

theorem Holds.insertFetchMeta (h : s.Holds trees) (family : Family) (file : FetchMeta) :
    match s.insertFetchMeta family file with
    | (.ok true, u) => s.isFetched file = .ok false ∧
        ∃ name t, file.note = .ok (name, t) ∧ s.Noted trees name t u
    | (.ok false, u) => s.isFetched file = .ok true ∧ u = s
    | (.error e, u) => s.Later u ∧ s.SameRows u ∧
        ∃ cause, e = .record cause ⟨some family.name, none, file.fileName⟩ ∧
          (s.isFetched file = .error cause ∨ s.isFetched file = .ok false ∧ file.note = .error cause) := by
  unfold Store.insertFetchMeta
  cases hf : s.isFetched file with
  | error e => exact ⟨.refl s, .refl s, e, rfl, .inl rfl⟩
  | ok b =>
    cases b with
    | true => exact ⟨rfl, rfl⟩
    | false =>
      have hnoted := h.recordFetch file
      dsimp only
      cases hx : s.recordFetch file with
      | error e =>
        obtain ⟨e, u⟩ := e
        rw [hx] at hnoted
        exact ⟨later_rollback hnoted.2.1, sameRows_rollback s u, e, rfl, .inr ⟨rfl, hnoted.1⟩⟩
      | ok p =>
        obtain ⟨id, u⟩ := p
        rw [hx] at hnoted
        exact ⟨rfl, hnoted⟩

end Store

end OvalCatalog
