import OvalCatalog.Proofs.Catalog
import OvalCatalog.Proofs.Run.Visits

/-! Runs that are repeated on feeds that have not changed. The second run is idle if the log still has the
time of every file that the first one read, and it has it unless two files of one name differ in their times. -/

namespace OvalCatalog

def Report.Status.again : Report.Status → Report.Status
  | .failed => .failed
  | _ => .skipped

namespace Dictionary

variable (offer : String → Option Snapshot)

def Settled (versions : List String) (d : Dictionary) : Prop :=
  ∀ v ∈ versions, ∀ x, offer v = some x → d.times x.fileName = some x.moment.clock

def OneTimePerFile (versions : List String) : Prop :=
  ∀ v ∈ versions, ∀ w ∈ versions, ∀ x y, offer v = some x → offer w = some y → x.fileName = y.fileName →
    x.moment.clock = y.moment.clock

def idleStatus (v : String) : Report.Status :=
  if (offer v).isSome then .skipped else .failed

variable {offer} {versions : List String} {d : Dictionary}

theorem again_receive (v : String) (d : Dictionary) : (d.receive (offer v)).1.again = idleStatus offer v := by
  unfold Dictionary.receive idleStatus
  cases offer v with
  | none => rfl
  | some x =>
    dsimp only
    split <;> rfl

theorem again_receiveAll (versions : List String) (d : Dictionary) :
    (d.receiveAll offer versions).1.map Report.Status.again = versions.map (idleStatus offer) := by
  induction versions generalizing d with
  | nil => rfl
  | cons v rest ih => rw [receiveAll, List.map_cons, again_receive, ih, List.map_cons]

theorem receiveAll_of_settled (h : d.Settled offer versions) :
    d.receiveAll offer versions = (versions.map (idleStatus offer), d) := by
  induction versions with
  | nil => rfl
  | cons v rest ih =>
    obtain ⟨hv, hrest⟩ := List.forall_mem_cons.mp h
    have hreceive : d.receive (offer v) = (idleStatus offer v, d) := by
      unfold Dictionary.receive idleStatus
      cases hx : offer v with
      | none => rfl
      | some x => simp [hv x hx]
    rw [receiveAll, hreceive, ih hrest]
    rfl

theorem settled_of_not_refreshed (h : .refreshed ∉ (d.receiveAll offer versions).1) :
    d.Settled offer versions := by
  induction versions with
  | nil => simp [Settled]
  | cons v rest ih =>
    rw [receiveAll, List.mem_cons, not_or] at h
    have hv : (d.receive (offer v)).2 = d ∧ ∀ x, offer v = some x →
        d.times x.fileName = some x.moment.clock := by
      cases hx : offer v with
      | none => simp [Dictionary.receive]
      | some x =>
        by_cases ht : d.times x.fileName = some x.moment.clock
        · simp [Dictionary.receive, ht]
        · exact absurd (by simp [Dictionary.receive, hx, ht]) h.1
    rw [hv.1] at h
    exact List.forall_mem_cons.mpr ⟨hv.2, ih h.2⟩

theorem refreshed_notMem_idle (versions : List String) : .refreshed ∉ versions.map (idleStatus offer) := by
  intro h
  obtain ⟨v, _, hv⟩ := List.mem_map.mp h
  revert hv
  unfold idleStatus
  split <;> nofun

theorem refreshed_notMem_iff :
    .refreshed ∉ (d.receiveAll offer versions).1 ↔ d.Settled offer versions := by
  refine ⟨settled_of_not_refreshed, fun h => ?_⟩
  rw [receiveAll_of_settled h]
  exact refreshed_notMem_idle versions

theorem receiveAll_idle_iff :
    (d.receiveAll offer versions).1 = versions.map (idleStatus offer) ↔ d.Settled offer versions := by
  constructor
  · intro h
    rw [← refreshed_notMem_iff, h]
    exact refreshed_notMem_idle versions
  · intro h
    rw [receiveAll_of_settled h]

theorem settled_iff (hd : ∀ name, d.times name = logged offer name versions) :
    d.Settled offer versions ↔ OneTimePerFile offer versions := by
  constructor
  · intro h v hv w hw x y hx hy he
    have htime := h v hv x hx
    rw [he, h w hw y hy] at htime
    exact (Option.some.inj htime).symm
  · intro h v hv x hx
    obtain ⟨t, ht⟩ := Option.ne_none_iff_exists'.mp (logged_ne_none hv hx)
    obtain ⟨w, hw, y, hy, he, rfl⟩ := exists_of_logged ht
    rw [hd, ht, h w hw v hv y x hy hx he]

end Dictionary

namespace Run

variable {s : Store} {trees : List DefinitionTree}

theorem statuses_visitAll (f : Family) (feeds : Value) (server : Server) (h : s.Holds trees)
    (versions : List String) :
    statuses (visitAll f feeds server versions s).1 =
      (s.dictionary.receiveAll (offer? f feeds server) versions).1 :=
  congrArg Prod.fst (visitAll_dictionary f feeds server h versions).2

theorem statuses_twice (f : Family) (feeds : Value) (server : Server) (h : s.Holds trees)
    (versions : List String) :
    let first := visitAll f feeds server versions s
    let second := visitAll f feeds server versions first.2
    let once := s.dictionary.receiveAll (offer? f feeds server) versions
    statuses first.1 = once.1 ∧ statuses second.1 = (once.2.receiveAll (offer? f feeds server) versions).1 ∧
      (first.2.SameRows second.2 ↔ .refreshed ∉ statuses second.1) := by
  obtain ⟨⟨_, h'⟩, hfirst⟩ := visitAll_dictionary f feeds server h versions
  refine ⟨statuses_visitAll f feeds server h versions, ?_, sameRows_visitAll_iff h' versions⟩
  rw [← hfirst]
  exact statuses_visitAll f feeds server h' versions

theorem settled_visitAll (f : Family) (feeds : Value) (server : Server) (h : s.Holds trees)
    (versions : List String) :
    let run := visitAll f feeds server versions s
    let settled := s.dictionary.Settled (offer? f feeds server) versions
    (statuses run.1 = versions.map (Dictionary.idleStatus (offer? f feeds server)) ↔ settled) ∧
      (s.SameRows run.2 ↔ settled) ∧ (settled → run.2 = s) := by
  intro run settled
  have hstatuses := statuses_visitAll f feeds server h versions
  have hsettled : .refreshed ∉ statuses run.1 ↔ settled := by
    rw [hstatuses]
    exact Dictionary.refreshed_notMem_iff
  refine ⟨?_, (sameRows_visitAll_iff h versions).trans hsettled, ?_⟩
  · rw [hstatuses]
    exact Dictionary.receiveAll_idle_iff
  · exact fun hs => visitAll_of_not_refreshed h (hsettled.mpr hs)

/-- Runs that are repeated at once. When the first one starts from empty tables, the second one is idle (what
did not fail is skipped, the rest fails again) just if the versions that can be read have one time for each
name of a file. Else it refreshes some of them once more, which changes rows. -/
theorem rerun_idle_iff (c : Catalog) (disk : Disk) (server : Server) (t u : Times) (f : Family)
    (versions : List String) :
    let first := visitAll f c.config.feeds server versions Database.fresh.store
    let second := visitAll f c.config.feeds server versions first.2
    let oneTime := Dictionary.OneTimePerFile (offer? f c.config.feeds server) versions
    (c.on Database.fresh).refresh disk server t f.name versions =
        (c.answer f t versions first, c.on { Database.fresh with store := first.2 }) ∧
      (c.on { Database.fresh with store := first.2 }).refresh disk server u f.name versions =
        (c.answer f u versions second, c.on { Database.fresh with store := second.2 }) ∧
      (statuses second.1 = (statuses first.1).map Report.Status.again ↔ oneTime) ∧
      (first.2.SameRows second.2 ↔ oneTime) ∧ (oneTime → second.2 = first.2) := by
  intro first second oneTime
  obtain ⟨hfirst, hsecond⟩ := c.refresh_twice Database.current_fresh disk server t u f versions
  have hempty : Database.fresh.store.Holds [] := Store.store_fresh ▸ Store.Holds.empty
  obtain ⟨trees, h⟩ := (visitAll_dictionary f c.config.feeds server hempty versions).1
  have hagain : (statuses first.1).map Report.Status.again =
      versions.map (Dictionary.idleStatus (offer? f c.config.feeds server)) := by
    rw [statuses_visitAll f c.config.feeds server hempty versions, Dictionary.again_receiveAll]
  have hsettled := settled_visitAll f c.config.feeds server h versions
  rw [Dictionary.settled_iff (visitAll_fresh f c.config.feeds server versions).1.times] at hsettled
  rw [hagain]
  exact ⟨hfirst, hsecond, hsettled⟩

def releaseFeeds : Value :=
  .map [("opensuse", .map [("url_template", .text "http://h/\x7bversion\x7d/oval.xml")])]

def releaseDocument (timestamp : String) : List UInt8 :=
  ("<d><generator><timestamp>" ++ timestamp ++ "</timestamp></generator></d>").toUTF8.toList

def releaseServer : Server := fun url =>
  if url = "http://h/1/oval.xml" then .ok (releaseDocument "2099-01-01T00:00:00")
  else if url = "http://h/2/oval.xml" then .ok (releaseDocument "2099-01-02T00:00:00")
  else .error ("cannot reach " ++ url)

theorem refreshed_again :
    let first := visitAll .opensuse releaseFeeds releaseServer ["1", "2"] Database.fresh.store
    let second := visitAll .opensuse releaseFeeds releaseServer ["1", "2"] first.2
    statuses first.1 = [.refreshed, .refreshed] ∧ statuses second.1 = [.refreshed, .refreshed] ∧
      ¬first.2.SameRows second.2 := by
  rw [Store.store_fresh]
  have htwice := statuses_twice .opensuse releaseFeeds releaseServer Store.Holds.empty ["1", "2"]
  rw [Store.dictionary_empty] at htwice
  obtain ⟨hfirst, hsecond, hrows⟩ := htwice
  have hstatuses :
      let once := Dictionary.empty.receiveAll (offer? .opensuse releaseFeeds releaseServer) ["1", "2"]
      once.1 = [.refreshed, .refreshed] ∧
        (once.2.receiveAll (offer? .opensuse releaseFeeds releaseServer) ["1", "2"]).1 =
          [.refreshed, .refreshed] := by
    decide +kernel
  rw [hstatuses.1] at hfirst
  rw [hstatuses.2] at hsecond
  refine ⟨hfirst, hsecond, fun hsame => ?_⟩
  have hnone := hrows.mp hsame
  rw [hsecond] at hnone
  exact hnone List.mem_cons_self

theorem unpack_of_url {ε : Type} {t u : Feed.Target} (h : t.url = u.url) (bytes : List UInt8) :
    Feed.unpack (ε := ε) t bytes = Feed.unpack u bytes := by
  unfold Feed.unpack Feed.Target.isArchive
  rw [h]

theorem oneTime_of_addresses (f : Family) (feeds : Value) (server : Server) {versions : List String}
    (hurl : ∀ v ∈ versions, ∀ w ∈ versions, ∀ t u, Feed.Target.build f feeds v = .ok t →
      Feed.Target.build f feeds w = .ok u → t.fileName = u.fileName → t.url = u.url) :
    Dictionary.OneTimePerFile (offer? f feeds server) versions := by
  intro v hv w hw x y hx hy he
  obtain ⟨t, bytes, plain, d, ht, hb, hp, hd, hs⟩ := offer?_ok hx
  obtain ⟨u, bytes', plain', e, hu, hb', hp', hd', hs'⟩ := offer?_ok hy
  obtain ⟨hname, hmoment⟩ := file_of hs
  obtain ⟨hname', hmoment'⟩ := file_of hs'
  have hsame : t.url = u.url := hurl v hv w hw t u ht hu (by rw [← hname, ← hname', he])
  obtain rfl : bytes = bytes' := Except.ok.inj (by rw [← hb, ← hb', hsame])
  obtain rfl : plain = plain' := Except.ok.inj (by rw [← hp, ← hp', unpack_of_url hsame])
  rw [hmoment, hmoment']
  exact Oval.Document.timestamp_eq hd hd'

end Run

end OvalCatalog
