import OvalCatalog.Proofs.Oval.Storable
import OvalCatalog.Proofs.Run.Offers
import OvalCatalog.Run

/-! Which versions of a run are in the store when it ends. The log knows files and the store knows versions,
so that a version is passed over if another one had the same file and the same time just before. -/

namespace OvalCatalog

namespace Run

def Reads (f : Family) (feeds : Value) (server : Server) (osVersion : String) (d : Oval.Document) : Prop :=
  ∃ t bytes plain, Feed.Target.build f feeds osVersion = .ok t ∧ server t.url = .ok bytes ∧
    Feed.unpack (ε := String) t bytes = .ok plain ∧ Oval.Document.parse ⟨f.name, osVersion⟩ plain = .ok d

def offer? (f : Family) (feeds : Value) (server : Server) (osVersion : String) : Option Snapshot :=
  match Feed.Target.build f feeds osVersion with
  | .error _ => none
  | .ok t =>
    match Feed.fetch server t with
    | .error _ => none
    | .ok x => (Snapshot.of f x.root x.file).toOption

variable {f : Family} {feeds : Value} {server : Server}

theorem build_ok {osVersion : String} {t : Feed.Target} (h : Feed.Target.build f feeds osVersion = .ok t) :
    t.family = f.name ∧ t.osVersion = osVersion := by
  simp only [Feed.Target.build, bind, Except.bind] at h
  repeat' split at h
  all_goals cases h
  exact ⟨rfl, rfl⟩

theorem fetch_ok {t : Feed.Target} {x : Feed.Fetched} (h : Feed.fetch server t = .ok x) :
    ∃ bytes plain d, server t.url = .ok bytes ∧ Feed.unpack (ε := String) t bytes = .ok plain ∧
      Oval.Document.parse ⟨t.family, t.osVersion⟩ plain = .ok d ∧ x = Feed.Fetched.of t d := by
  simp only [Feed.fetch, bind, Except.bind] at h
  cases hb : server t.url with
  | error e => simp [hb, Except.mapError] at h
  | ok bytes =>
    simp only [hb, Except.mapError] at h
    cases hp : Feed.unpack (ε := String) t bytes with
    | error e => simp [hp] at h
    | ok plain =>
      simp only [hp] at h
      cases hd : Oval.Document.parse ⟨t.family, t.osVersion⟩ plain with
      | error e => simp [hd] at h
      | ok d =>
        simp only [hd] at h
        cases h
        exact ⟨bytes, plain, d, rfl, hp, hd, rfl⟩

theorem file_of {f : Family} {t : Feed.Target} {d : Oval.Document} {x : Snapshot}
    (h : Snapshot.of f (Feed.Fetched.of t d).root (Feed.Fetched.of t d).file = .ok x) :
    x.fileName = t.fileName ∧ x.moment = ⟨d.timestamp, none⟩ := by
  have hfile := (Snapshot.of_ok h).2.file
  exact ⟨(Option.some.inj (congrArg FetchMeta.fileName hfile)).symm,
    (Stamp.moment.inj (congrArg FetchMeta.timestamp hfile)).symm⟩

theorem note_of {f : Family} {t : Feed.Target} {d : Oval.Document} {x : Snapshot}
    (hd : ∀ e ∈ d.definitions, e.Storable)
    (h : Snapshot.of f (Feed.Fetched.of t d).root (Feed.Fetched.of t d).file = .ok x) :
    x.note = .ok x.moment.clock := by
  have hnone : x.definitions.findSome? Definition.lacks? = none := by
    rw [List.findSome?_eq_none_iff, (Snapshot.of_ok h).2.definitions]
    exact hd
  rw [Snapshot.note, hnone, Snapshot.fetchMeta, (file_of h).2]
  rfl

theorem offer?_ok {osVersion : String} {x : Snapshot} (h : offer? f feeds server osVersion = some x) :
    ∃ t bytes plain d, Feed.Target.build f feeds osVersion = .ok t ∧ server t.url = .ok bytes ∧
      Feed.unpack (ε := String) t bytes = .ok plain ∧
      Oval.Document.parse ⟨f.name, osVersion⟩ plain = .ok d ∧
      Snapshot.of f (Feed.Fetched.of t d).root (Feed.Fetched.of t d).file = .ok x := by
  unfold offer? at h
  split at h
  · cases h
  · next t ht =>
    split at h
    · cases h
    · next y hy =>
      obtain ⟨bytes, plain, d, hb, hp, hd, rfl⟩ := fetch_ok hy
      obtain ⟨hfamily, hversion⟩ := build_ok ht
      rw [hfamily, hversion] at hd
      exact ⟨t, bytes, plain, d, ht, hb, hp, hd, eq_ok_of_toOption h⟩

theorem offer?_spec {osVersion : String} {x : Snapshot} (h : offer? f feeds server osVersion = some x) :
    x.family = f ∧ x.osVersion = osVersion ∧ x.note = .ok x.moment.clock ∧
      ∃ d, Reads f feeds server osVersion d ∧ x.definitions = d.definitions := by
  obtain ⟨t, bytes, plain, d, ht, hb, hp, hd, hs⟩ := offer?_ok h
  obtain ⟨_, hx⟩ := Snapshot.of_ok hs
  have hversion : x.osVersion = t.osVersion := (Option.some.inj hx.osVersion).symm
  exact ⟨hx.family, hversion.trans (build_ok ht).2, note_of (Oval.Document.storable hd) hs, d,
    ⟨t, bytes, plain, ht, hb, hp, hd⟩, hx.definitions⟩

variable {s : Store} {trees : List DefinitionTree}

theorem receive_insertOval (f : Family) (t : Feed.Target) (x : Feed.Fetched) (s : Store) :
    (receive f t x s).2 = (s.insertOval f x.root x.file).2 ∧
      (receive f t x s).1.health.status = Dictionary.statusOf (s.insertOval f x.root x.file).1 := by
  unfold receive
  rcases s.insertOval f x.root x.file with ⟨e | ⟨⟨⟩⟩, u⟩ <;> exact ⟨rfl, rfl⟩

theorem visit_dictionary (f : Family) (feeds : Value) (server : Server) (h : s.Holds trees)
    (osVersion : String) :
    (∃ trees', (visit f feeds server osVersion s).2.Holds trees') ∧
      ((visit f feeds server osVersion s).1.health.status, (visit f feeds server osVersion s).2.dictionary) =
        s.dictionary.receive (offer? f feeds server osVersion) := by
  unfold visit offer?
  cases Feed.Target.build f feeds osVersion with
  | error e => exact ⟨⟨trees, h⟩, rfl⟩
  | ok t =>
    dsimp only
    cases hx : Feed.fetch server t with
    | error e => exact ⟨⟨trees, h⟩, rfl⟩
    | ok x =>
      obtain ⟨_, _, d, _, _, hd, rfl⟩ := fetch_ok hx
      obtain ⟨hstore, hstatus⟩ := receive_insertOval f t (Feed.Fetched.of t d) s
      have hnote := Dictionary.insertOval_of_note
        (fun y hy => note_of (f := f) (t := t) (x := y) (Oval.Document.storable hd) hy) s.dictionary
      rw [h.insertOval_dictionary, ← hstatus, ← hstore] at hnote
      refine ⟨?_, hnote⟩
      dsimp only
      rw [hstore]
      exact (h.perform (.insertOval f (Feed.Fetched.of t d).root (Feed.Fetched.of t d).file)).2

theorem visitAll_dictionary (f : Family) (feeds : Value) (server : Server) (h : s.Holds trees)
    (versions : List String) :
    (∃ trees', (visitAll f feeds server versions s).2.Holds trees') ∧
      ((visitAll f feeds server versions s).1.map (·.health.status),
        (visitAll f feeds server versions s).2.dictionary) =
        s.dictionary.receiveAll (offer? f feeds server) versions := by
  induction versions generalizing s trees with
  | nil => exact ⟨⟨trees, h⟩, rfl⟩
  | cons v rest ih =>
    obtain ⟨⟨_, h'⟩, hv⟩ := visit_dictionary f feeds server h v
    obtain ⟨hholds, hrest⟩ := ih h'
    refine ⟨hholds, ?_⟩
    rw [Dictionary.receiveAll, ← hv, ← hrest]
    rfl

theorem length_visitAll (versions : List String) (s : Store) :
    (visitAll f feeds server versions s).1.length = versions.length := by
  induction versions generalizing s with
  | nil => rfl
  | cons v rest ih => exact congrArg (· + 1) (ih _)

def Covered (f : Family) (feeds : Value) (server : Server) (versions : List String)
    (run : List (Report.Outcome Int) × Store) : Prop :=
  ∀ p ∈ versions.zip run.1, p.2.health.status ≠ .failed →
    ∃ d, Reads f feeds server p.1 d ∧
      run.2.dictionary.entries f.name p.1 = some (d.definitions.map Definition.content)

theorem visitAll_fresh (f : Family) (feeds : Value) (server : Server) (versions : List String) :
    let run := visitAll f feeds server versions Database.fresh.store
    Dictionary.Follows (offer? f feeds server) f versions run.2.dictionary ∧
      ∀ p ∈ versions.zip run.1, (p.2.health.status = .failed ↔ offer? f feeds server p.1 = none) ∧
        (p.2.health.status = .refreshed → ∃ x, offer? f feeds server p.1 = some x ∧
          Dictionary.HasNews (offer? f feeds server) versions p.1 x) := by
  obtain ⟨_, hrun⟩ := visitAll_dictionary f feeds server Store.Holds.empty versions
  obtain ⟨hfollows, hzip⟩ := Dictionary.Follows.receiveAll
    (fun h => ⟨(offer?_spec h).1, (offer?_spec h).2.1⟩)
    (Dictionary.follows_empty (offer? f feeds server) f) versions
  rw [Store.dictionary_empty] at hrun
  rw [← hrun] at hfollows hzip
  rw [Store.store_fresh]
  refine ⟨hfollows, fun p hp => hzip (p.1, p.2.health.status) ?_⟩
  rw [List.zip_map_right]
  exact List.mem_map_of_mem hp

theorem covered_of_news {versions : List String} {v : String} {x : Snapshot}
    (hx : offer? f feeds server v = some x)
    (hn : Dictionary.HasNews (offer? f feeds server) versions v x) :
    ∃ d, Reads f feeds server v d ∧
      (visitAll f feeds server versions Database.fresh.store).2.dictionary.entries f.name v =
        some (d.definitions.map Definition.content) := by
  obtain ⟨_, _, _, d, hd, hx'⟩ := offer?_spec hx
  exact ⟨d, hd, hx' ▸ (visitAll_fresh f feeds server versions).1.new v x hx hn⟩

/-- When a run ends, the versions that it refreshed are in the store. Those that it skipped are there too
just if every version that can be read comes, at some place of the run, with another time than its file
has in the log. -/
theorem covered_iff (f : Family) (feeds : Value) (server : Server) (versions : List String) :
    let run := visitAll f feeds server versions Database.fresh.store
    (∀ p ∈ versions.zip run.1, p.2.health.status = .refreshed → ∃ d, Reads f feeds server p.1 d ∧
        run.2.dictionary.entries f.name p.1 = some (d.definitions.map Definition.content)) ∧
      (Covered f feeds server versions run ↔ ∀ v ∈ versions, ∀ x, offer? f feeds server v = some x →
        Dictionary.HasNews (offer? f feeds server) versions v x) := by
  intro run
  obtain ⟨hfollows, hzip⟩ := visitAll_fresh f feeds server versions
  refine ⟨fun p hp hstatus => ?_, fun hcovered v hv x hx => ?_, fun hnews p hp hstatus => ?_⟩
  · obtain ⟨x, hx, hn⟩ := (hzip p hp).2 hstatus
    exact covered_of_news hx hn
  · by_contra hn
    have hfst : (versions.zip run.1).map Prod.fst = versions :=
      List.map_fst_zip (Nat.le_of_eq (length_visitAll versions _).symm)
    obtain ⟨p, hp, rfl⟩ := List.mem_map.mp (hfst ▸ hv)
    have hstatus : p.2.health.status ≠ .failed := by
      rw [ne_eq, (hzip p hp).1, hx]
      nofun
    obtain ⟨d, _, hd⟩ := hcovered p hp hstatus
    cases (hfollows.old p.1 x hx hn).symm.trans hd
  · obtain ⟨x, hx⟩ := Option.ne_none_iff_exists'.mp fun hnone => hstatus ((hzip p hp).1.mpr hnone)
    exact covered_of_news hx (hnews p.1 (List.of_mem_zip hp).1 x hx)

def stretchServer : Server := fun url =>
  if url = "https://www.debian.org/security/oval/oval-definitions-stretch.xml" then
    .ok ("<d><generator><timestamp>2099-01-01T00:00:00</timestamp></generator>" ++
      "<definitions><definition id=\"x\"/></definitions></d>").toUTF8.toList
  else .error ("cannot reach " ++ url)

theorem skipped_without_root :
    let run := visitAll .debian .null stretchServer ["9", "9.4"] Database.fresh.store
    ∃ p ∈ ["9", "9.4"].zip run.1, p.2.health.status = .skipped ∧
      ∀ r ∈ run.2.roots.rows, ¬(r.family = Family.debian.name ∧ r.osVersion = p.1) := by
  rw [Store.store_fresh]
  decide +kernel

theorem covered_of_distinct_files {versions : List String}
    (hfiles : ∀ v ∈ versions, ∀ w ∈ versions, ∀ x y, offer? f feeds server v = some x →
      offer? f feeds server w = some y → x.fileName = y.fileName → v = w) :
    Covered f feeds server versions (visitAll f feeds server versions Database.fresh.store) := by
  intro p hp hstatus
  have hzip := (visitAll_fresh f feeds server versions).2 p hp
  obtain ⟨x, hx⟩ := Option.ne_none_iff_exists'.mp fun hnone => hstatus (hzip.1.mpr hnone)
  have hp := (List.of_mem_zip hp).1
  obtain ⟨before, after, he, hfirst⟩ := List.eq_append_cons_of_mem hp
  refine covered_of_news hx ⟨before, after, he, fun hlogged => ?_⟩
  obtain ⟨w, hw, y, hy, hname, _⟩ := Dictionary.exists_of_logged hlogged
  have hwv : w = p.1 := hfiles w (he ▸ List.mem_append_left _ hw) p.1 hp y x hy hx hname
  exact hfirst (hwv ▸ hw)

end Run

end OvalCatalog
