import Mathlib.Data.List.Induction
import OvalCatalog.Proofs.Frame
import OvalCatalog.Proofs.Store.Failure

/-! The log of fetched files is a map: for each file it has one row, with the time that was recorded last. Times are
told apart by the instants that they denote. -/

namespace OvalCatalog

theorem Stamp.normalize_eq_ok_iff (m : Time.Moment) (t : Time.Timestamp) :
    Stamp.normalize (.moment m) = .ok t ↔ (t.micros : Int) = m.instant := by
  rw [← Time.Moment.normalize?_eq_some_iff, normalize]
  cases m.normalize? <;> simp

theorem Stamp.normalize_eq_outOfRange_iff (m : Time.Moment) :
    Stamp.normalize (.moment m) = .error .outOfRange ↔ ¬m.InYears := by
  rw [← Time.Moment.normalize?_eq_none_iff, normalize]
  cases m.normalize? <;> simp

theorem Stamp.exists_normalize_iff (m : Time.Moment) :
    (∃ t, Stamp.normalize (.moment m) = .ok t) ↔ m.InYears := by
  rw [← not_iff_not, ← normalize_eq_outOfRange_iff, normalize]
  cases m.normalize? <;> simp

theorem Stamp.exists_normalize_both_iff (m m' : Time.Moment) :
    (∃ t, Stamp.normalize (.moment m) = .ok t ∧ Stamp.normalize (.moment m') = .ok t) ↔
      m.InYears ∧ m.instant = m'.instant := by
  rw [← exists_normalize_iff]
  simp only [normalize_eq_ok_iff]
  constructor
  · rintro ⟨t, ht, ht'⟩
    exact ⟨⟨t, ht⟩, ht.symm.trans ht'⟩
  · rintro ⟨⟨t, ht⟩, hinstant⟩
    exact ⟨t, ht, ht.trans hinstant⟩

def Answer.stores : Answer → Bool
  | .stored (.ok true) => true
  | .noted (.ok ()) => true
  | _ => false

def Call.file : Call → FetchMeta
  | insertOval _ _ file => file
  | insertFetchMeta _ file => file
  | recordFetch file => file

namespace Store

def Records (f : String) (m : Time.Moment) (c : Call) (s : Store) : Prop :=
  c.file = ⟨some f, .moment m⟩ ∧ (c.perform s).1.stores = true

def LastRecorded (f : String) (m : Time.Moment) (calls : List Call) : Prop :=
  ∃ before c after, calls = before ++ c :: after ∧ Records f m c (reached before) ∧
    ∀ mid d rest, after = mid ++ d :: rest → ∀ other, ¬Records f other d (reached (before ++ c :: mid))

def rowIds (f : String) (s : Store) : List Int :=
  (s.fetches.rows.filter fun r => r.fileName == f).map (·.id)

variable {s u : Store} {trees : List DefinitionTree} {f : String}

theorem Holds.rowIds_eq (h : s.Holds trees) (f : String) :
    s.rowIds f = ((s.fetched? (some f)).map (·.id)).toList := by
  change List.map _ (List.filter _ s.fetches.rows) = Option.toList (Option.map _ (s.fetches.rows.find? _))
  have hfiles := h.files
  generalize s.fetches.rows = rows at hfiles ⊢
  induction rows with
  | nil => rfl
  | cons r rows ih =>
    obtain ⟨hr, hn⟩ := List.nodup_cons.mp hfiles
    rw [List.filter_cons, List.find?_cons]
    by_cases hf : r.fileName = f
    · have hrest : rows.filter (fun q => q.fileName == f) = [] := by
        rw [List.filter_eq_nil_iff]
        intro q hq he
        exact hr (List.mem_map.mpr ⟨q, hq, (beq_iff_eq.mp he).trans hf.symm⟩)
      simp [hf, hrest]
    · rw [beq_false_of_ne hf]
      exact ih hn

theorem fetched?_congr (h : u.fetches.rows = s.fetches.rows) (name : Option String) :
    u.fetched? name = s.fetched? name := by
  rw [fetched?, fetched?, h]

theorem Holds.fetched?_recordFetch (h : s.Holds trees) {file : FetchMeta} {id : Int}
    (hrec : s.recordFetch file = .ok (id, u)) :
    ∃ f t, file.fileName = some f ∧ file.timestamp.normalize = .ok t ∧ u.fetched? (some f) = some ⟨id, f, t⟩ ∧
      (∀ row, s.fetched? (some f) = some row → row.id = id) ∧
        ∀ g, g ≠ f → u.fetched? (some g) = s.fetched? (some g) := by
  have hothers := (recordFetch_ok h.numbered.fetches hrec).2
  obtain ⟨f, t, hf, ht, -, hrows⟩ := recordFetch_cases h.numbered.fetches hrec
  rw [hf] at hothers
  refine ⟨f, t, hf, ht, ?_, ?_, ?_⟩
  · obtain ⟨row, hrow, rfl, hrows⟩ | ⟨hrow, hrows⟩ := hrows
    · have hkey : (fun r : FetchRow => r.fileName == f) ∘ stamped row.id t = fun r => r.fileName == f :=
        funext fun r => by rw [Function.comp_apply, fileName_stamped]
      have hname : row.fileName = f := by simpa using List.find?_some hrow
      change u.fetches.rows.find? _ = _
      change s.fetches.rows.find? _ = _ at hrow
      rw [hrows, List.find?_map, hkey, hrow, ← hname]
      simp [stamped]
    · change u.fetches.rows.find? _ = _
      change s.fetches.rows.find? _ = _ at hrow
      rw [hrows, List.find?_append, hrow]
      simp
  · intro old hold
    obtain ⟨row, hrow, hid, -⟩ | ⟨hrow, -⟩ := hrows
    · cases hold.symm.trans hrow
      exact hid
    · cases hold.symm.trans hrow
  · intro g hg
    have hfind (rows : List FetchRow) : rows.find? (fun r => r.fileName == g) =
        (rows.filter fun r => some r.fileName != some f).find? fun r => r.fileName == g := by
      rw [List.find?_filter]
      congr 1
      funext r
      by_cases hr : r.fileName = g <;> simp [hr, hg]
    change u.fetches.rows.find? _ = s.fetches.rows.find? _
    rw [hfind, hothers, ← hfind]

theorem recordFetch_congr {v : Store} (hv : v.fetches = s.fetches) {file : FetchMeta} {id : Int}
    (hrec : v.recordFetch file = .ok (id, u)) :
    s.recordFetch file = .ok (id, { s with fetches := u.fetches }) := by
  have hfetched (name : Option String) : v.fetched? name = s.fetched? name := fetched?_congr (by rw [hv]) name
  unfold Store.recordFetch at hrec ⊢
  rw [hfetched, hv] at hrec
  cases hn : file.timestamp.normalize with
  | error e =>
    rw [hn] at hrec
    cases hrec
  | ok t =>
    rw [hn] at hrec
    cases hf : s.fetched? file.fileName with
    | some row =>
      rw [hf] at hrec
      cases hrec
      simp only [Store.setFetched, hv]
    | none =>
      rw [hf] at hrec
      dsimp only at hrec ⊢
      split at hrec <;> cases hrec
      rfl

theorem perform_of_stores {c : Call} (hc : (c.perform s).1.stores = true) :
    ∃ id u, s.recordFetch c.file = .ok (id, u) ∧ (c.perform s).2.fetches = u.fetches := by
  cases c with
  | insertOval family root file =>
    cases hx : Snapshot.of family root file with
    | error m =>
      rw [Call.perform, insertOval_of_error hx] at hc
      cases hc
    | ok x =>
      obtain rfl := (Snapshot.of_ok hx).2.file
      rw [Call.perform, insertOval_of_ok hx] at hc ⊢
      rcases hy : s.refresh x with ⟨e | ⟨⟨⟩⟩, u⟩ <;> rw [hy] at hc
      · cases hc
      · cases hc
      · obtain ⟨v, id, hgrows, hrec⟩ := replaceRoot_ok (refresh_ok_true hy)
        have hv : v.fetches = s.fetches := hgrows.fetches.trans (fetches_deleteRoots _ s)
        exact ⟨id, _, recordFetch_congr hv hrec, rfl⟩
  | insertFetchMeta family file =>
    change (Answer.stored (s.insertFetchMeta family file).1).stores = true at hc
    change ∃ id u, s.recordFetch file = .ok (id, u) ∧ (s.insertFetchMeta family file).2.fetches = u.fetches
    unfold Store.insertFetchMeta at hc ⊢
    split at hc
    · cases hc
    · cases hc
    · split at hc
      · cases hc
      · next id u hrec => exact ⟨id, u, hrec, rfl⟩
  | recordFetch file =>
    rw [Call.perform] at hc ⊢
    split at hc
    · next id u hrec => exact ⟨id, u, hrec, rfl⟩
    · cases hc

theorem Holds.perform_of_not_stores (h : s.Holds trees) {c : Call} (hc : (c.perform s).1.stores = false) :
    s.SameRows (c.perform s).2 := by
  cases c with
  | insertOval family root file =>
    cases hx : Snapshot.of family root file with
    | error m =>
      rw [Call.perform, insertOval_of_error hx]
      exact .refl s
    | ok x =>
      have hr := h.refresh x
      rw [Call.perform, insertOval_of_ok hx] at hc ⊢
      rcases hy : s.refresh x with ⟨e | ⟨⟨⟩⟩, u⟩ <;> rw [hy] at hr hc
      · exact hr.2.1
      · obtain ⟨-, rfl⟩ := hr
        exact .refl u
      · cases hc
  | insertFetchMeta family file =>
    have hr := h.insertFetchMeta family file
    rw [Call.perform] at hc ⊢
    rcases hy : s.insertFetchMeta family file with ⟨e | ⟨⟨⟩⟩, u⟩ <;> rw [hy] at hr hc
    · exact hr.2.1
    · obtain ⟨-, rfl⟩ := hr
      exact .refl u
    · cases hc
  | recordFetch file =>
    have hr := h.recordFetch file
    rw [Call.perform] at hc ⊢
    rcases hy : s.recordFetch file with ⟨e, u⟩ | ⟨id, u⟩ <;> rw [hy] at hr hc
    · exact hr.2.2
    · cases hc

theorem Holds.fetched?_perform (h : s.Holds trees) {c : Call} (hc : ∀ m, ¬Records f m c s) :
    (c.perform s).2.fetched? (some f) = s.fetched? (some f) := by
  cases hstores : (c.perform s).1.stores with
  | false => exact fetched?_congr (h.perform_of_not_stores hstores).1.symm _
  | true =>
    obtain ⟨id, u, hrec, hu⟩ := perform_of_stores hstores
    obtain ⟨g, t, hg, ht, -, -, hothers⟩ := h.fetched?_recordFetch hrec
    -- it records a time, so that it would record one of this file
    have hne : f ≠ g := by
      rintro rfl
      obtain ⟨m, hm⟩ : ∃ m, c.file.timestamp = .moment m := by
        cases hstamp : c.file.timestamp with
        | moment m => exact ⟨m, rfl⟩
        | other v =>
          rw [hstamp] at ht
          cases ht
      exact hc m ⟨by rw [← hg, ← hm], hstores⟩
    rw [← hothers f hne]
    exact fetched?_congr (by rw [hu]) _

theorem Holds.fetched?_of_records (h : s.Holds trees) {c : Call} {m : Time.Moment} (hc : Records f m c s) :
    ∃ row, (c.perform s).2.fetched? (some f) = some row ∧ m.normalize? = some row.timestamp ∧
      ∀ old, s.fetched? (some f) = some old → old.id = row.id := by
  obtain ⟨hfile, hstores⟩ := hc
  obtain ⟨id, u, hrec, hu⟩ := perform_of_stores hstores
  obtain ⟨g, t, hg, ht, hrow, hid, -⟩ := h.fetched?_recordFetch hrec
  rw [hfile] at hg ht
  cases hg
  refine ⟨⟨id, f, t⟩, (fetched?_congr (by rw [hu]) _).trans hrow, ?_, hid⟩
  rw [Time.Moment.normalize?_eq_some_iff]
  exact (Stamp.normalize_eq_ok_iff m t).mp ht

theorem lastRecorded_snoc (m : Time.Moment) (calls : List Call) (c : Call) :
    LastRecorded f m (calls ++ [c]) ↔ Records f m c (reached calls) ∨
      (∀ other, ¬Records f other c (reached calls)) ∧ LastRecorded f m calls := by
  constructor
  · rintro ⟨before, d, after, he, hd, hlast⟩
    -- the call that recorded is the new one, or the new one comes after it and records nothing of the file
    rcases List.eq_nil_or_concat after with rfl | ⟨after, e, rfl⟩
    · obtain ⟨rfl, hc⟩ := List.append_inj' he rfl
      cases hc
      exact .inl hd
    · rw [List.concat_eq_append, ← List.cons_append, ← List.append_assoc] at he
      obtain ⟨rfl, hc⟩ := List.append_inj' he rfl
      cases hc
      refine .inr ⟨hlast after c [] (List.concat_eq_append ..), before, d, after, rfl, hd, ?_⟩
      rintro mid e rest rfl
      exact hlast mid e (rest ++ [c]) (by simp)
  · rintro (hc | ⟨hnone, before, d, after, rfl, hd, hlast⟩)
    · exact ⟨calls, c, [], rfl, hc, by simp⟩
    · refine ⟨before, d, after ++ [c], by simp, hd, ?_⟩
      intro mid e rest he
      rcases List.eq_nil_or_concat rest with rfl | ⟨rest, e', rfl⟩
      · obtain ⟨rfl, hc⟩ := List.append_inj' he rfl
        cases hc
        exact hnone
      · rw [List.concat_eq_append, ← List.cons_append, ← List.append_assoc] at he
        exact hlast mid e rest (List.append_inj' he rfl).1

theorem timeOf_reached (calls : List Call) (f : String) (t : Time.Timestamp) :
    (reached calls).timeOf f = some t ↔ ∃ m, LastRecorded f m calls ∧ m.normalize? = some t := by
  induction calls using List.reverseRecOn with
  | nil =>
    refine iff_of_false ?_ ?_
    · rw [reached, store_fresh]
      exact (Option.some_ne_none t).symm
    · rintro ⟨m, ⟨before, c, after, he, -⟩, -⟩
      simp at he
  | append_singleton calls c ih =>
    obtain ⟨trees, h⟩ := reached_holds calls
    simp only [lastRecorded_snoc]
    rw [reached_snoc, timeOf]
    by_cases hc : ∃ m, Records f m c (reached calls)
    · obtain ⟨m, hc⟩ := hc
      obtain ⟨row, hrow, htime, -⟩ := h.fetched?_of_records hc
      rw [hrow, Option.map_some, ← htime]
      constructor
      · intro ht
        exact ⟨m, .inl hc, ht⟩
      · rintro ⟨m', hc' | ⟨hnone, -⟩, ht⟩
        · have hm := hc.1.symm.trans hc'.1
          cases hm
          exact ht
        · exact absurd hc (hnone m)
    · rw [not_exists] at hc
      rw [h.fetched?_perform hc]
      simp only [hc, false_or, not_false_eq_true, implies_true, true_and]
      exact ih

theorem LastRecorded.exists_normalize? {m : Time.Moment} {calls : List Call} (h : LastRecorded f m calls) :
    ∃ t, m.normalize? = some t := by
  obtain ⟨before, c, after, -, hc, -⟩ := h
  obtain ⟨trees, hholds⟩ := reached_holds before
  obtain ⟨row, -, ht, -⟩ := hholds.fetched?_of_records hc
  exact ⟨row.timestamp, ht⟩

theorem isFetched_iff_lastRecorded (calls : List Call) (f : String) (m : Time.Moment) :
    (reached calls).isFetched ⟨some f, .moment m⟩ = .ok true ↔
      ∃ last, LastRecorded f last calls ∧ last.instant = m.instant := by
  rw [isFetched_eq_true_iff]
  constructor
  · rintro ⟨_, t, ⟨⟩, ht, htime⟩
    obtain ⟨last, hlast, hnormal⟩ := (timeOf_reached calls f t).mp htime
    have hinstant := (Stamp.normalize_eq_ok_iff m t).mp ht
    exact ⟨last, hlast, ((last.normalize?_eq_some_iff t).mp hnormal).symm.trans hinstant⟩
  · rintro ⟨last, hlast, hinstant⟩
    obtain ⟨t, hnormal⟩ := hlast.exists_normalize?
    refine ⟨f, t, rfl, ?_, (timeOf_reached calls f t).mpr ⟨last, hlast, hnormal⟩⟩
    rw [Stamp.normalize_eq_ok_iff, ← hinstant]
    exact (last.normalize?_eq_some_iff t).mp hnormal

theorem fetched?_after {calls : List Call} {row : FetchRow} (hrow : (reached calls).fetched? (some f) = some row)
    (more : List Call) : ∃ row', (reached (calls ++ more)).fetched? (some f) = some row' ∧ row'.id = row.id := by
  induction more using List.reverseRecOn with
  | nil => exact ⟨row, by rwa [List.append_nil], rfl⟩
  | append_singleton more c ih =>
    obtain ⟨old, hold, hid⟩ := ih
    obtain ⟨trees, h⟩ := reached_holds (calls ++ more)
    rw [← List.append_assoc, reached_snoc]
    by_cases hc : ∃ m, Records f m c (reached (calls ++ more))
    · obtain ⟨m, hc⟩ := hc
      obtain ⟨new, hnew, -, hkept⟩ := h.fetched?_of_records hc
      exact ⟨new, hnew, (hkept old hold).symm.trans hid⟩
    · rw [h.fetched?_perform (not_exists.mp hc)]
      exact ⟨old, hold, hid⟩

theorem exists_fetched?_iff (calls : List Call) (f : String) :
    (∃ row, (reached calls).fetched? (some f) = some row) ↔ ∃ m, LastRecorded f m calls := by
  constructor
  · rintro ⟨row, hrow⟩
    have htime : (reached calls).timeOf f = some row.timestamp := by rw [timeOf, hrow, Option.map_some]
    obtain ⟨m, hm, -⟩ := (timeOf_reached calls f _).mp htime
    exact ⟨m, hm⟩
  · rintro ⟨m, hm⟩
    obtain ⟨t, ht⟩ := hm.exists_normalize?
    obtain ⟨row, hrow, -⟩ := Option.map_eq_some_iff.mp ((timeOf_reached calls f t).mpr ⟨m, hm, ht⟩)
    exact ⟨row, hrow⟩

theorem rowIds_reached {calls : List Call} {row : FetchRow} (hrow : (reached calls).fetched? (some f) = some row)
    (more : List Call) : (reached (calls ++ more)).rowIds f = [row.id] := by
  obtain ⟨trees, h⟩ := reached_holds (calls ++ more)
  obtain ⟨row', hrow', hid⟩ := fetched?_after hrow more
  rw [h.rowIds_eq, hrow', Option.map_some, hid]
  rfl

theorem isFetched_other (calls : List Call) (c : Call) {file : FetchMeta} (hother : c.file.fileName ≠ file.fileName) :
    (reached (calls ++ [c])).isFetched file = (reached calls).isFetched file := by
  have hfetched : (reached (calls ++ [c])).fetched? file.fileName = (reached calls).fetched? file.fileName := by
    cases hf : file.fileName with
    | none => rfl
    | some f =>
      obtain ⟨trees, h⟩ := reached_holds calls
      rw [reached_snoc]
      refine h.fetched?_perform fun m hc => hother ?_
      rw [hc.1, hf]
  rw [isFetched, isFetched, hfetched]

theorem recordFetch_ok_iff (calls : List Call) (f : String) (m : Time.Moment) :
    (∃ id u, (reached calls).recordFetch ⟨some f, .moment m⟩ = .ok (id, u)) ↔ m.InYears := by
  obtain ⟨trees, h⟩ := reached_holds calls
  have hr := h.recordFetch ⟨some f, .moment m⟩
  rw [← Stamp.exists_normalize_iff]
  rcases hy : (reached calls).recordFetch ⟨some f, .moment m⟩ with ⟨e, u⟩ | ⟨id, u⟩ <;> rw [hy] at hr
  · refine iff_of_false (by simp) ?_
    rintro ⟨t, ht⟩
    have he := hr.1
    rw [FetchMeta.note, ht] at he
    cases he
  · obtain ⟨_, t, -, ht, -⟩ := h.fetched?_recordFetch hy
    exact iff_of_true ⟨id, u, rfl⟩ ⟨t, ht⟩

theorem rowIds_recordFetch {calls : List Call} {m : Time.Moment} {id : Int}
    (hrec : (reached calls).recordFetch ⟨some f, .moment m⟩ = .ok (id, u)) : u.rowIds f = [id] := by
  obtain ⟨trees, h⟩ := reached_holds calls
  obtain ⟨_, t, hname, -, hrow, -⟩ := h.fetched?_recordFetch hrec
  cases hname
  have hr := h.recordFetch ⟨some f, .moment m⟩
  rw [hrec] at hr
  obtain ⟨_, _, -, hnoted⟩ := hr
  rw [hnoted.holds.rowIds_eq, hrow]
  rfl

/-- The log of files is a map by their names, and compares times by their instants. In every state that calls lead
to, a file is skipped at a time just if the time that was recorded last for it is the same instant; a call for one
file changes no answer for another; and a file that was ever recorded has one row, whose number stays. -/
theorem fetch_log_exact (calls : List Call) :
    (∀ f m, (reached calls).isFetched ⟨some f, .moment m⟩ = .ok true ↔
      ∃ last, LastRecorded f last calls ∧ last.instant = m.instant) ∧
    (∀ (c : Call) (file : FetchMeta), c.file.fileName ≠ file.fileName →
      (reached (calls ++ [c])).isFetched file = (reached calls).isFetched file) ∧
    (∀ f m, LastRecorded f m calls → ∃ id, ∀ more, (reached (calls ++ more)).rowIds f = [id]) ∧
    (∀ f, (∀ m, ¬LastRecorded f m calls) → (reached calls).rowIds f = []) ∧
    (∀ f m, (∃ id u, (reached calls).recordFetch ⟨some f, .moment m⟩ = .ok (id, u)) ↔ m.InYears) ∧
    (∀ f m id u, (reached calls).recordFetch ⟨some f, .moment m⟩ = .ok (id, u) → u.rowIds f = [id]) ∧
    ∀ m : Time.Moment,
      (∀ t, Stamp.normalize (.moment m) = .ok t → Stamp.normalize (.moment ⟨t, none⟩) = .ok t) ∧
      (∀ m', (∃ t, Stamp.normalize (.moment m) = .ok t ∧ Stamp.normalize (.moment m') = .ok t) ↔
        m.InYears ∧ m.instant = m'.instant) ∧
      (Stamp.normalize (.moment m) = .error .outOfRange ↔ ¬m.InYears) := by
  refine ⟨isFetched_iff_lastRecorded calls, fun c _ => isFetched_other calls c, ?_, ?_, recordFetch_ok_iff calls,
    fun f m id u => rowIds_recordFetch, ?_⟩
  · intro f m hm
    obtain ⟨row, hrow⟩ := (exists_fetched?_iff calls f).mpr ⟨m, hm⟩
    exact ⟨row.id, rowIds_reached hrow⟩
  · intro f hnone
    obtain ⟨trees, h⟩ := reached_holds calls
    have hfetched : (reached calls).fetched? (some f) = none := by
      rw [Option.eq_none_iff_forall_ne_some]
      intro row hrow
      obtain ⟨m, hm⟩ := (exists_fetched?_iff calls f).mp ⟨row, hrow⟩
      exact hnone m hm
    rw [h.rowIds_eq, hfetched]
    rfl
  · intro m
    exact ⟨fun _ _ => rfl, fun m' => Stamp.exists_normalize_both_iff m m',
      Stamp.normalize_eq_outOfRange_iff m⟩

def noon : Time.Moment :=
  ⟨⟨⟨2099, 1, 1⟩, 12, 0, 0, 0, by decide⟩, none⟩

def noonAhead : Time.Moment :=
  ⟨⟨⟨2099, 1, 1⟩, 14, 0, 0, 0, by decide⟩, some 7200000000⟩

def beforeYears : Time.Moment :=
  ⟨⟨⟨1, 1, 1⟩, 0, 0, 0, 0, by decide⟩, some 1⟩

theorem fetch_log_exact_across_offsets :
    let calls : List Call := [noonAhead, beforeYears].map fun m => .recordFetch ⟨some "a.xml", .moment m⟩
    let other : Call := .recordFetch ⟨some "b.xml", .moment noonAhead⟩
    (reached (calls ++ [other])).isFetched ⟨some "a.xml", .moment noon⟩ = .ok true ∧
      (∃ last, LastRecorded "a.xml" last calls ∧ last.instant = noon.instant) ∧
      (∃ id, ∀ more, (reached (calls ++ more)).rowIds "a.xml" = [id]) ∧
      (reached calls).rowIds "b.xml" = [] ∧ Stamp.normalize (.moment beforeYears) = .error .outOfRange := by
  intro calls other
  have hskipped : ((reached calls).isFetched ⟨some "a.xml", .moment noon⟩).toOption = some true := by
    rw [reached, store_fresh]
    decide +kernel
  have hunknown : (reached calls).timeOf "b.xml" = none := by
    rw [reached, store_fresh]
    decide +kernel
  have hearly : ¬0 ≤ beforeYears.instant := by decide +kernel
  obtain ⟨hskip, hothers, hrows, hnone, -, -, hnormal⟩ := fetch_log_exact calls
  have hmap := eq_ok_of_toOption hskipped
  obtain ⟨last, hlast, hinstant⟩ := (hskip "a.xml" noon).mp hmap
  refine ⟨(hothers other _ (by decide)).trans hmap, ⟨last, hlast, hinstant⟩, hrows "a.xml" last hlast, ?_,
    (hnormal beforeYears).2.2.mpr fun hin => hearly hin.1⟩
  refine hnone "b.xml" fun m hm => ?_
  obtain ⟨t, ht⟩ := hm.exists_normalize?
  cases hunknown.symm.trans ((timeOf_reached calls "b.xml" t).mpr ⟨m, hm, ht⟩)

end Store

end OvalCatalog
