import Mathlib.Algebra.Order.Ring.Int
import OvalCatalog.Proofs.Run.Failures
import OvalCatalog.Proofs.Versions
import OvalCatalog.Session

/-! The account that a run gives of itself: its counts add up, each target is shown as it fared last, and the
definitions that it says to have stored are those in the tables. -/

namespace OvalCatalog

namespace Keyed

variable {κ α : Type} [DecidableEq κ]

theorem find?_put (key k : κ) (a : α) (entries : List (κ × α)) :
    find? k (put key a entries) = if key = k then some a else find? k entries := by
  induction entries with
  | nil => rfl
  | cons e rest ih =>
    obtain ⟨l, b⟩ := e
    by_cases hl : l = key
    · subst hl
      simp only [put, find?, if_true]
      split <;> rfl
    · by_cases hk : l = k
      · subst hk
        simp [put, find?, hl, Ne.symm hl]
      · simp only [put, find?, hl, hk, if_false, ih]

theorem keys_put (key : κ) (a : α) (entries : List (κ × α)) :
    (put key a entries).map Prod.fst =
      if key ∈ entries.map Prod.fst then entries.map Prod.fst else entries.map Prod.fst ++ [key] := by
  induction entries with
  | nil => rfl
  | cons e rest ih =>
    obtain ⟨l, b⟩ := e
    by_cases hl : l = key
    · simp [put, hl]
    · simp only [put, hl, if_false, List.map_cons, ih, List.mem_cons, Ne.symm hl, false_or]
      split <;> simp

theorem mem_keys_put (key k : κ) (a : α) (entries : List (κ × α)) :
    k ∈ (put key a entries).map Prod.fst ↔ k ∈ entries.map Prod.fst ∨ k = key := by
  rw [keys_put]
  split
  · next h => exact ⟨.inl, fun hk => hk.elim id fun he => he ▸ h⟩
  · simp

theorem nodup_keys_put (key : κ) (a : α) {entries : List (κ × α)} (h : (entries.map Prod.fst).Nodup) :
    ((put key a entries).map Prod.fst).Nodup := by
  rw [keys_put]
  split
  · exact h
  · next hk =>
    rw [← List.concat_eq_append]
    exact h.concat hk

end Keyed

namespace Report.Metrics

variable {ν : Type} [Count ν]

theorem health_record (m : Metrics ν) (target : Option String) (o : Outcome ν) :
    (m.record target o).health = Keyed.put target o.health m.health := by
  cases o <;> rfl

theorem definitions_record (m : Metrics Int) (target : Option String) (o : Outcome Int) :
    (m.record target o).definitions = m.definitions + o.health.definitions := by
  cases o with
  | refreshed file n => rfl
  | skipped file => exact (Int.add_zero _).symm
  | failed file error => exact (Int.add_zero _).symm

structure Balanced (total : Option ν) (m : Metrics ν) : Prop where
  targets : m.targets = total
  errors : m.errors = m.failed
  issues : m.issues.length = m.failed
  keys : (m.health.map Prod.fst).Nodup

theorem Balanced.record {total : Option ν} {m : Metrics ν} (h : m.Balanced total) (target : Option String)
    (o : Outcome ν) : (m.record target o).Balanced total where
  targets := by cases o <;> exact h.targets
  errors := by
    cases o with
    | refreshed file n => exact h.errors
    | skipped file => exact h.errors
    | failed file error => exact congrArg (· + 1) h.errors
  issues := by
    cases o with
    | refreshed file n => exact h.issues
    | skipped file => exact h.issues
    | failed file error => exact (List.length_append ..).trans (congrArg (· + 1) h.issues)
  keys := by
    rw [health_record]
    exact Keyed.nodup_keys_put target _ h.keys

end Report.Metrics

namespace Run

open Report (Metrics Outcome)

theorem key_inj {f : Family} {v w : String} : key f v = key f w ↔ v = w := by
  rw [key, key, String.append_right_inj]

section Recording

variable {f : Family}

theorem balanced_recordAll (versions : List String) (outcomes : List (Outcome Int)) {total : Option Int}
    {m : Metrics Int} (h : m.Balanced total) : (recordAll f versions outcomes m).Balanced total := by
  induction versions generalizing outcomes m with
  | nil => exact h
  | cons v rest ih =>
    cases outcomes with
    | nil => exact h
    | cons o outcomes => exact ih outcomes (h.record (some (key f v)) o)

theorem recordAll_append {before : List String} {outcomes : List (Outcome Int)}
    (h : outcomes.length = before.length) (after : List String) (others : List (Outcome Int)) (m : Metrics Int) :
    recordAll f (before ++ after) (outcomes ++ others) m =
      recordAll f after others (recordAll f before outcomes m) := by
  induction before generalizing outcomes m with
  | nil =>
    obtain rfl := List.length_eq_zero_iff.mp h
    rfl
  | cons v rest ih =>
    obtain ⟨o, outcomes, rfl⟩ := List.exists_cons_of_length_eq_add_one h
    exact ih (by simpa using h) _

theorem definitions_recordAll {versions : List String} {outcomes : List (Outcome Int)}
    (h : outcomes.length = versions.length) (m : Metrics Int) :
    (recordAll f versions outcomes m).definitions =
      m.definitions + (outcomes.map (·.health.definitions)).sum := by
  induction versions generalizing outcomes m with
  | nil =>
    obtain rfl := List.length_eq_zero_iff.mp h
    exact (Int.add_zero _).symm
  | cons v rest ih =>
    obtain ⟨o, outcomes, rfl⟩ := List.exists_cons_of_length_eq_add_one h
    rw [recordAll, ih (by simpa using h), Metrics.definitions_record, List.map_cons, List.sum_cons,
      Int.add_assoc]

theorem mem_keys_recordAll {versions : List String} {outcomes : List (Outcome Int)}
    (h : outcomes.length = versions.length) (m : Metrics Int) (k : Option String) :
    k ∈ (recordAll f versions outcomes m).health.map Prod.fst ↔
      k ∈ m.health.map Prod.fst ∨ ∃ v ∈ versions, k = some (key f v) := by
  induction versions generalizing outcomes m with
  | nil =>
    obtain rfl := List.length_eq_zero_iff.mp h
    simp [recordAll]
  | cons v rest ih =>
    obtain ⟨o, outcomes, rfl⟩ := List.exists_cons_of_length_eq_add_one h
    rw [recordAll, ih (by simpa using h), Metrics.health_record, Keyed.mem_keys_put, or_assoc,
      List.exists_mem_cons_iff]

theorem find?_recordAll_of_notMem {versions : List String} {v : String} (hv : v ∉ versions)
    (outcomes : List (Outcome Int)) (m : Metrics Int) :
    Keyed.find? (some (key f v)) (recordAll f versions outcomes m).health =
      Keyed.find? (some (key f v)) m.health := by
  induction versions generalizing outcomes m with
  | nil => rfl
  | cons w rest ih =>
    obtain ⟨hvw, hrest⟩ := not_or.mp (mt List.mem_cons.mpr hv)
    cases outcomes with
    | nil => rfl
    | cons o outcomes =>
      have hkey : some (key f w) ≠ some (key f v) := by
        rw [ne_eq, Option.some.injEq, key_inj]
        exact Ne.symm hvw
      rw [recordAll, ih hrest, Metrics.health_record, Keyed.find?_put, if_neg hkey]

end Recording

section Visits

variable {f : Family} {feeds : Value} {server : Server} {s : Store} {trees : List DefinitionTree}

def stored (f : Family) (feeds : Value) (server : Server) (v : String) (s : Store) : Int :=
  match Feed.Target.build f feeds v with
  | .error _ => 0
  | .ok t =>
    match Feed.fetch server t with
    | .error _ => 0
    | .ok x =>
      match (s.insertOval f x.root x.file).1 with
      | .ok true => x.root.definitions.length
      | _ => 0

theorem definitions_visit (v : String) (s : Store) :
    (visit f feeds server v s).1.health.definitions = stored f feeds server v s := by
  unfold visit stored
  cases Feed.Target.build f feeds v with
  | error e => rfl
  | ok t =>
    dsimp only
    cases Feed.fetch server t with
    | error e => rfl
    | ok x =>
      dsimp only
      unfold receive
      rcases s.insertOval f x.root x.file with ⟨e | ⟨⟨⟩⟩, u⟩ <;> rfl

theorem definitions_visitAll (versions : List String) (s : Store) :
    (visitAll f feeds server versions s).1.map (·.health.definitions) =
      versions.zipIdx.map fun p =>
        stored f feeds server p.1 (visitAll f feeds server (versions.take p.2) s).2 := by
  induction versions generalizing s with
  | nil => rfl
  | cons v rest ih =>
    rw [visitAll_cons, List.map_cons, definitions_visit, ih, List.zipIdx_cons, List.map_cons, List.zipIdx_succ,
      List.map_map]
    rfl

theorem entries_visit_of_ne (h : s.Holds trees) {v w : String} (hne : v ≠ w) :
    (visit f feeds server w s).2.dictionary.entries f.name v = s.dictionary.entries f.name v := by
  rcases visit_spec h w with ⟨_, hs⟩ | ⟨_, x, t, grown, hx, hg⟩
  · rw [hs]
  · -- A document that is read for `w` says that it is for `w`.
    rw [hg.dictionary h]
    refine if_neg fun he => hne ?_
    exact he.2.trans (offer?_spec hx).2.1

theorem entries_visitAll_of_notMem (h : s.Holds trees) {v : String} {versions : List String} (hv : v ∉ versions) :
    (visitAll f feeds server versions s).2.dictionary.entries f.name v = s.dictionary.entries f.name v := by
  induction versions generalizing s trees with
  | nil => rfl
  | cons w rest ih =>
    obtain ⟨hvw, hrest⟩ := not_or.mp (mt List.mem_cons.mpr hv)
    obtain ⟨_, h'⟩ := (visit_dictionary f feeds server h w).1
    rw [visitAll_cons, ih h' hrest, entries_visit_of_ne h hvw]

theorem entries_visit_of_refreshed (h : s.Holds trees) {v : String}
    (hv : (visit f feeds server v s).1.health.status = .refreshed) :
    ∃ definitions, (visit f feeds server v s).2.dictionary.entries f.name v = some definitions ∧
      (visit f feeds server v s).1.health.definitions = definitions.length := by
  rcases visit_cases f feeds server v with ⟨_, o, hstatus, ho⟩ | ⟨t, y, x, hoffer, hx, hreceive⟩
  · rw [ho s] at hv
    cases hstatus.symm.trans hv
  · obtain ⟨hfamily, hversion, _⟩ := offer?_spec hoffer
    rw [hreceive] at hv ⊢
    unfold receive at hv ⊢
    rw [Store.insertOval_of_ok hx] at hv ⊢
    have hr := h.refresh x
    rcases hy : s.refresh x with ⟨e | ⟨⟨⟩⟩, u⟩ <;> rw [hy] at hr hv
    · cases hv
    · cases hv
    · obtain ⟨_, time, grown, _, hg⟩ := hr
      refine ⟨x.definitions.map Definition.content, ?_, ?_⟩
      · change u.dictionary.entries f.name v = _
        rw [hg.dictionary h]
        exact if_pos ⟨hfamily ▸ rfl, hversion.symm⟩
      · rw [List.length_map, (Snapshot.of_ok hx).2.definitions]
        rfl

def refreshedVersions (versions : List String) (outcomes : List (Outcome Int)) : List String :=
  ((versions.zip outcomes).filter fun p => p.2.health.status = .refreshed).map Prod.fst

theorem nodup_refreshedVersions {versions : List String} {outcomes : List (Outcome Int)}
    (h : outcomes.length = versions.length) (hnodup : versions.Nodup) :
    (refreshedVersions versions outcomes).Nodup := by
  have hzip : (versions.zip outcomes).map Prod.fst = versions := List.map_fst_zip (Nat.le_of_eq h.symm)
  exact (hzip ▸ hnodup).sublist (List.filter_sublist.map Prod.fst)

theorem definitions_refreshed (f : Family) (feeds : Value) (server : Server) (h : s.Holds trees)
    {versions : List String} (hnodup : versions.Nodup) :
    let run := visitAll f feeds server versions s
    (∀ v ∈ refreshedVersions versions run.1, run.2.dictionary.entries f.name v ≠ none) ∧
      (run.1.map (·.health.definitions)).sum = (((refreshedVersions versions run.1).map fun v =>
        ((run.2.dictionary.entries f.name v).getD []).length).sum : Nat) := by
  induction versions generalizing s trees with
  | nil => exact ⟨nofun, rfl⟩
  | cons v rest ih =>
    -- The rest of the run stores other versions only, so what `v` brought in stays.
    obtain ⟨hv, hrest⟩ := List.nodup_cons.mp hnodup
    obtain ⟨_, h'⟩ := (visit_dictionary f feeds server h v).1
    obtain ⟨hin, hsum⟩ := ih h' hrest
    have hkept : (visitAll f feeds server rest (visit f feeds server v s).2).2.dictionary.entries f.name v =
        (visit f feeds server v s).2.dictionary.entries f.name v := entries_visitAll_of_notMem h' hv
    simp only [visitAll_cons, refreshedVersions, List.zip_cons_cons, List.map_cons, List.sum_cons] at hin hsum ⊢
    by_cases hrefreshed : (visit f feeds server v s).1.health.status = .refreshed
    · obtain ⟨definitions, hentry, hcount⟩ := entries_visit_of_refreshed h hrefreshed
      rw [List.filter_cons_of_pos (by simpa using hrefreshed), List.map_cons, List.forall_mem_cons, List.map_cons,
        List.sum_cons, hkept, hentry, hcount, hsum]
      exact ⟨⟨nofun, hin⟩, rfl⟩
    · have hnone : (visit f feeds server v s).1.health.definitions = 0 := by
        cases ho : (visit f feeds server v s).1 <;> rw [ho] at hrefreshed
        · exact absurd rfl hrefreshed
        · rfl
        · rfl
      rw [List.filter_cons_of_neg (by simpa using hrefreshed), hnone, hsum, Int.zero_add]
      exact ⟨hin, rfl⟩

end Visits

structure Accounts (f : Family) (feeds : Value) (server : Server) (versions : List String) (s : Store)
    (m : Metrics Int) : Prop where
  targets : m.targets = some (versions.length : Int)
  counts : ∀ status, m.count status = (visitAll f feeds server versions s).1.countP (·.health.status = status)
  total : m.refreshed + m.skipped + m.failed = versions.length
  errors : m.errors = m.failed
  issues : m.issues.length = m.failed
  definitions : m.definitions = (versions.zipIdx.map fun p =>
    stored f feeds server p.1 (visitAll f feeds server (versions.take p.2) s).2).sum
  keys : ∀ k, k ∈ m.health.map Prod.fst ↔ ∃ v ∈ versions, k = some (key f v)
  nodup_keys : (m.health.map Prod.fst).Nodup
  last : ∀ before v after, versions = before ++ v :: after → v ∉ after →
    Keyed.find? (some (key f v)) m.health =
      some (visit f feeds server v (visitAll f feeds server before s).2).1.health
  rows : versions.Nodup → m.definitions =
    ((visitAll f feeds server versions s).2.countUnder fun v => v.1 == f.name &&
      (refreshedVersions versions (visitAll f feeds server versions s).1).contains v.2 : Nat)

variable {f : Family} {feeds : Value} {server : Server} {s : Store} {trees : List DefinitionTree}

theorem countP_statuses (outcomes : List (Outcome Int)) :
    outcomes.countP (·.health.status = .refreshed) + outcomes.countP (·.health.status = .skipped) +
      outcomes.countP (·.health.status = .failed) = outcomes.length := by
  induction outcomes with
  | nil => rfl
  | cons o outcomes ih =>
    simp only [List.countP_cons, List.length_cons, decide_eq_true_eq]
    generalize o.health.status = status
    cases status <;> simp <;> omega

theorem find?_visitAll (f : Family) (feeds : Value) (server : Server) (before : List String) {v : String}
    {after : List String} (hv : v ∉ after) (s : Store) (m : Metrics Int) :
    Keyed.find? (some (key f v)) (recordAll f (before ++ v :: after)
        (visitAll f feeds server (before ++ v :: after) s).1 m).health =
      some (visit f feeds server v (visitAll f feeds server before s).2).1.health := by
  rw [visitAll_append, recordAll_append (length_visitAll before s), visitAll_cons, recordAll,
    find?_recordAll_of_notMem hv, Metrics.health_record, Keyed.find?_put, if_pos rfl]

theorem accounts_metrics (h : s.Holds trees) (f : Family) (feeds : Value) (server : Server) (t : Times)
    (versions : List String) :
    Accounts f feeds server versions s (metrics f t versions (visitAll f feeds server versions s).1) := by
  let start : Metrics Int := .start (some (runId t)) ⟨t.started, none⟩ (some (versions.length : Int))
  have hlength : (visitAll f feeds server versions s).1.length = versions.length := length_visitAll versions s
  have hbalanced : (recordAll f versions (visitAll f feeds server versions s).1 start).Balanced
      (some (versions.length : Int)) := balanced_recordAll _ _ ⟨rfl, rfl, rfl, .nil⟩
  have hdefinitions := (definitions_recordAll (f := f) hlength start).trans (Int.zero_add _)
  have hcount := count_metrics f t hlength
  exact {
    targets := hbalanced.targets
    counts := hcount
    total := by
      have hsum := countP_statuses (visitAll f feeds server versions s).1
      rw [hlength, ← hcount, ← hcount, ← hcount] at hsum
      exact hsum
    errors := hbalanced.errors
    issues := hbalanced.issues
    definitions := by
      rw [← definitions_visitAll]
      exact hdefinitions
    keys := fun k => (mem_keys_recordAll (f := f) hlength start k).trans (or_iff_right nofun)
    nodup_keys := hbalanced.keys
    last := by
      rintro before v after rfl hv
      exact find?_visitAll f feeds server before hv s start
    rows := fun hnodup => by
      obtain ⟨hin, hsum⟩ := definitions_refreshed f feeds server h hnodup
      obtain ⟨_, h'⟩ := (visitAll_dictionary f feeds server h versions).1
      rw [h'.countUnder_versions f.name (nodup_refreshedVersions hlength hnodup) hin, ← hsum]
      exact hdefinitions }

theorem exitCode_fetch_eq_zero_iff (x : Surroundings) (family : String) (versions : List String) (c : Catalog) :
    (Session.fetch x family versions c).exitCode = 0 ↔
      ∃ r, (c.refresh x.disk x.server x.times family versions).1 = .ok r ∧ r.metrics.failed = 0 := by
  unfold Session.fetch
  rcases c.refresh x.disk x.server x.times family versions with ⟨e | r, c'⟩
  · simp [Session.failed]
  · by_cases hfailed : r.metrics.failed = 0 <;> simp [hfailed]

theorem metrics_of_answer {c : Catalog} {f : Family} {t : Times} {versions : List String}
    {run : List (Outcome Int) × Store} {r : Catalog.RunResult} (h : c.answer f t versions run = .ok r) :
    r.metrics = metrics f t versions run.1 := by
  unfold Catalog.answer at h
  split at h <;> cases h
  rfl

/-- A run gives a true account of itself, whatever state calls have led to and whether the catalog is open yet
or not. Its answer has the metrics of its outcomes, which reconcile with the outcomes and with the tables that it
leaves; and a command line that makes the run exits with 0 just if there is an answer and no version failed. -/
theorem accounts_of_run (calls : List Call) (indexes : List String) (c : Catalog) (x : Surroundings) (f : Family)
    (versions : List String) (h : c.connect x.disk = .ok ⟨Store.reached calls, indexes⟩) :
    let s := Store.reached calls
    let run := visitAll f c.config.feeds x.server versions s
    let m := metrics f x.times versions run.1
    let result := c.refresh x.disk x.server x.times f.name versions
    result.1 = c.answer f x.times versions run ∧ (∀ r, result.1 = .ok r → r.metrics = m) ∧
      result.2.database.map (·.store) = some run.2 ∧
      Accounts f c.config.feeds x.server versions s m ∧
      ∀ a, Session.catalogOf x a.config = .ok c → a.command = .fetch f.name versions →
        ((Session.carryOut x a).exitCode = 0 ↔ (∃ r, result.1 = .ok r) ∧ m.failed = 0) := by
  intro s run m result
  have hresult : result = (c.answer f x.times versions run,
      c.on { (⟨s, indexes⟩ : Database).migrated [] with store := run.2 }) := by
    rw [← c.refresh_on ⟨s, indexes⟩ x.disk x.server]
    exact c.refresh_of_connect h x.server x.times f.name versions
  have hmetrics : ∀ r, result.1 = .ok r → r.metrics = m := by
    intro r hr
    rw [hresult] at hr
    exact metrics_of_answer hr
  obtain ⟨trees, hs⟩ := Store.reached_holds calls
  refine ⟨by rw [hresult], hmetrics, by rw [hresult]; rfl, accounts_metrics hs f _ _ _ versions, ?_⟩
  intro a hcatalog hcommand
  have hexit : (Session.carryOut x a).exitCode = 0 ↔ ∃ r, result.1 = .ok r ∧ r.metrics.failed = 0 := by
    rw [← exitCode_fetch_eq_zero_iff, Session.carryOut, hcatalog]
    dsimp only
    rw [hcommand]
  rw [hexit]
  constructor
  · rintro ⟨r, hr, hfailed⟩
    rw [hmetrics r hr] at hfailed
    exact ⟨⟨r, hr⟩, hfailed⟩
  · rintro ⟨⟨r, hr⟩, hfailed⟩
    rw [← hmetrics r hr] at hfailed
    exact ⟨r, hr, hfailed⟩

def leapSettings : Value :=
  .map [("database", .map [("path", .text ":memory:")]),
    ("feeds", .map [("opensuse.leap", .map [("url_template", .text "http://h/\x7bversion\x7d.xml")])]),
    ("http", .map []), ("reports", .map [])]

def leapCatalog : Catalog where
  config := ⟨.text ":memory:", .map [("opensuse.leap", .map [("url_template", .text "http://h/\x7bversion\x7d.xml")])],
    .map [], .map []⟩
  settingsPath := "config.yaml"
  reportDirectory := "output"

def leapSurroundings : Surroundings where
  settings _ := .ok leapSettings
  disk _ := none
  server url :=
    if url = "http://h/42.3.xml" then
      .ok ("<d><generator><timestamp>2099-01-01T00:00:00</timestamp></generator>" ++
        "<definitions><definition id=\"x\"/></definitions></d>").toUTF8.toList
    else .error ("cannot reach " ++ url)
  times := .ofClock fun _ => { date := ⟨2024, 3, 9⟩ }

theorem accounts_of_leap_run :
    let x := leapSurroundings
    let a : Arguments := { command := .fetch "opensuse.leap" ["42.3", "15.0"] }
    let m := metrics .opensuseLeap x.times ["42.3", "15.0"]
      (visitAll .opensuseLeap leapCatalog.config.feeds x.server ["42.3", "15.0"] (Store.reached [])).1
    leapCatalog.connect x.disk = .ok ⟨Store.reached [], []⟩ ∧ Session.catalogOf x a.config = .ok leapCatalog ∧
      Accounts .opensuseLeap leapCatalog.config.feeds x.server ["42.3", "15.0"] (Store.reached []) m ∧
      m.failed = 1 ∧ m.definitions = 1 ∧ (Session.carryOut x a).exitCode ≠ 0 := by
  intro x a m
  have hreached : Store.reached [] = .empty := by
    rw [Store.reached, Store.store_fresh]
    rfl
  have hconnect : leapCatalog.connect x.disk = .ok ⟨Store.reached [], []⟩ := by
    have hmemory : ":memory:".startsWith ":memory:" = true := by decide +kernel
    simp only [leapCatalog, Catalog.connect, openDatabase, Location.ofPath?, hmemory, or_true, if_true, hreached]
    rfl
  have hcatalog : Session.catalogOf x a.config = .ok leapCatalog := by
    rfl
  have hcounts : m.failed = 1 ∧ m.definitions = 1 := by
    simp only [m, hreached]
    decide +kernel
  obtain ⟨_, _, _, haccounts, hexit⟩ :=
    accounts_of_run [] [] leapCatalog x .opensuseLeap ["42.3", "15.0"] hconnect
  refine ⟨hconnect, hcatalog, haccounts, hcounts.1, hcounts.2, fun h => ?_⟩
  have hnone := ((hexit a hcatalog rfl).mp h).2
  cases hnone.symm.trans hcounts.1

end Run

end OvalCatalog
