import Mathlib.Data.List.Basic
import OvalCatalog.Proofs.Dictionary
import OvalCatalog.Report.Metrics

/-! Offers: the snapshots that the versions of a run bring to the dictionary, one after the other. The
dictionary takes an offer unless the log has its very time for its file. -/

namespace OvalCatalog

namespace Dictionary

def receive (offer : Option Snapshot) (d : Dictionary) : Report.Status × Dictionary :=
  match offer with
  | none => (.failed, d)
  | some x =>
    if d.times x.fileName = some x.moment.clock then (.skipped, d)
    else (.refreshed, (d.setEntry x.family.name x.osVersion (x.definitions.map Definition.content)).setTime
      x.fileName x.moment.clock)

def receiveAll (offer : String → Option Snapshot) : List String → Dictionary → List Report.Status × Dictionary
  | [], d => ([], d)
  | v :: rest, d =>
    ((d.receive (offer v)).1 :: ((d.receive (offer v)).2.receiveAll offer rest).1,
      ((d.receive (offer v)).2.receiveAll offer rest).2)

section Offers

variable (offer : String → Option Snapshot)

def logged (name : String) (versions : List String) : Option Time.Timestamp :=
  ((versions.filterMap offer).reverse.find? (·.fileName == name)).map (·.moment.clock)

/-- At some place among the versions, this one comes with another time than its file has in the log. -/
def HasNews (versions : List String) (osVersion : String) (x : Snapshot) : Prop :=
  ∃ before after, versions = before ++ osVersion :: after ∧
    logged offer x.fileName before ≠ some x.moment.clock

structure Follows (f : Family) (versions : List String) (d : Dictionary) : Prop where
  times : ∀ name, d.times name = logged offer name versions
  new : ∀ v x, offer v = some x → HasNews offer versions v x →
    d.entries f.name v = some (x.definitions.map Definition.content)
  old : ∀ v x, offer v = some x → ¬HasNews offer versions v x → d.entries f.name v = none

variable {offer} {f : Family} {versions : List String} {d : Dictionary}

theorem logged_snoc (name : String) (versions : List String) (v : String) :
    logged offer name (versions ++ [v]) =
      match offer v with
      | none => logged offer name versions
      | some x => if name = x.fileName then some x.moment.clock else logged offer name versions := by
  unfold logged
  rw [List.filterMap_append, List.reverse_append, List.find?_append]
  cases hv : offer v with
  | none => simp [hv]
  | some x =>
    by_cases hn : name = x.fileName
    · simp [hv, hn]
    · simp [hv, hn, Ne.symm hn]

theorem exists_of_logged {name : String} {t : Time.Timestamp} (h : logged offer name versions = some t) :
    ∃ v ∈ versions, ∃ x, offer v = some x ∧ x.fileName = name ∧ x.moment.clock = t := by
  obtain ⟨x, hx, ht⟩ := Option.map_eq_some_iff.mp h
  obtain ⟨v, hv, hvx⟩ := List.mem_filterMap.mp (List.mem_reverse.mp (List.mem_of_find?_eq_some hx))
  exact ⟨v, hv, x, hvx, by simpa using List.find?_some hx, ht⟩

theorem logged_ne_none {v : String} {x : Snapshot} (hv : v ∈ versions) (hx : offer v = some x) :
    logged offer x.fileName versions ≠ none := by
  intro h
  rw [logged, Option.map_eq_none_iff, List.find?_eq_none] at h
  exact h x (List.mem_reverse.mpr (List.mem_filterMap.mpr ⟨v, hv, hx⟩)) (beq_self_eq_true _)

theorem hasNews_snoc (versions : List String) (w v : String) (x : Snapshot) :
    HasNews offer (versions ++ [w]) v x ↔ HasNews offer versions v x ∨
      (v = w ∧ logged offer x.fileName versions ≠ some x.moment.clock) := by
  constructor
  · rintro ⟨before, after, he, hl⟩
    rcases List.eq_nil_or_concat after with rfl | ⟨after, u, rfl⟩
    · obtain ⟨rfl, hw⟩ := List.append_inj' he rfl
      exact .inr ⟨(List.cons.inj hw).1.symm, hl⟩
    · rw [List.concat_eq_append, ← List.cons_append, ← List.append_assoc] at he
      exact .inl ⟨before, after, (List.append_inj' he rfl).1, hl⟩
  · rintro (⟨before, after, rfl, hl⟩ | ⟨rfl, hl⟩)
    · exact ⟨before, after ++ [w], by simp, hl⟩
    · exact ⟨versions, [], rfl, hl⟩

theorem follows_empty (offer : String → Option Snapshot) (f : Family) : Follows offer f [] empty := by
  refine ⟨fun _ => rfl, ?_, fun _ _ _ _ => rfl⟩
  rintro v x _ ⟨before, after, he, _⟩
  simp at he

theorem Follows.failed (h : Follows offer f versions d) {w : String} (hw : offer w = none) :
    Follows offer f (versions ++ [w]) d := by
  have hnews {v : String} {x : Snapshot} (hv : offer v = some x) :
      HasNews offer (versions ++ [w]) v x ↔ HasNews offer versions v x := by
    rw [hasNews_snoc, or_iff_left]
    rintro ⟨rfl, _⟩
    cases hw.symm.trans hv
  refine ⟨fun name => ?_, fun v x hv hn => h.new v x hv ((hnews hv).mp hn),
    fun v x hv hn => h.old v x hv fun hn' => hn ((hnews hv).mpr hn')⟩
  rw [logged_snoc, hw]
  exact h.times name

theorem Follows.skipped (h : Follows offer f versions d) {w : String} {y : Snapshot} (hw : offer w = some y)
    (ht : d.times y.fileName = some y.moment.clock) : Follows offer f (versions ++ [w]) d := by
  have hnews {v : String} {x : Snapshot} (hv : offer v = some x) :
      HasNews offer (versions ++ [w]) v x ↔ HasNews offer versions v x := by
    rw [hasNews_snoc, or_iff_left]
    rintro ⟨rfl, hl⟩
    obtain rfl : y = x := Option.some.inj (hw.symm.trans hv)
    exact hl ((h.times _).symm.trans ht)
  refine ⟨fun name => ?_, fun v x hv hn => h.new v x hv ((hnews hv).mp hn),
    fun v x hv hn => h.old v x hv fun hn' => hn ((hnews hv).mpr hn')⟩
  rw [logged_snoc, hw, h.times]
  dsimp only
  split
  · next hname => rw [hname, ← h.times, ht]
  · rfl

theorem Follows.refreshed (h : Follows offer f versions d) {y : Snapshot} (hw : offer y.osVersion = some y)
    (hf : y.family = f) (ht : d.times y.fileName ≠ some y.moment.clock) :
    Follows offer f (versions ++ [y.osVersion])
      ((d.setEntry y.family.name y.osVersion (y.definitions.map Definition.content)).setTime y.fileName
        y.moment.clock) := by
  subst hf
  have hself : HasNews offer (versions ++ [y.osVersion]) y.osVersion y :=
    (hasNews_snoc ..).mpr (.inr ⟨rfl, h.times _ ▸ ht⟩)
  have hothers {v : String} (hv : v ≠ y.osVersion) (x : Snapshot) :
      HasNews offer (versions ++ [y.osVersion]) v x ↔ HasNews offer versions v x := by
    rw [hasNews_snoc, or_iff_left fun he => hv he.1]
  have hentries (v : String) : ((d.setEntry y.family.name y.osVersion (y.definitions.map
      Definition.content)).setTime y.fileName y.moment.clock).entries y.family.name v =
        if v = y.osVersion then some (y.definitions.map Definition.content)
        else d.entries y.family.name v := by
    simp only [setEntry, setTime, true_and]
  refine ⟨fun name => ?_, fun v x hv hn => ?_, fun v x hv hn => ?_⟩
  · rw [logged_snoc, hw, ← h.times]
    rfl
  · rw [hentries]
    by_cases hvw : v = y.osVersion
    · subst hvw
      obtain rfl : y = x := Option.some.inj (hw.symm.trans hv)
      exact if_pos rfl
    · rw [if_neg hvw]
      exact h.new v x hv ((hothers hvw x).mp hn)
  · rw [hentries]
    by_cases hvw : v = y.osVersion
    · subst hvw
      obtain rfl : y = x := Option.some.inj (hw.symm.trans hv)
      exact absurd hself hn
    · rw [if_neg hvw]
      exact h.old v x hv fun hn' => hn ((hothers hvw x).mpr hn')

theorem Follows.receive (h : Follows offer f versions d)
    (hoffer : ∀ {v x}, offer v = some x → x.family = f ∧ x.osVersion = v) (w : String) :
    Follows offer f (versions ++ [w]) (d.receive (offer w)).2 := by
  cases hw : offer w with
  | none => exact h.failed hw
  | some y =>
    obtain ⟨hf, rfl⟩ := hoffer hw
    by_cases ht : d.times y.fileName = some y.moment.clock
    · simpa only [Dictionary.receive, if_pos ht] using h.skipped hw ht
    · simpa only [Dictionary.receive, if_neg ht] using h.refreshed hw hf ht

theorem Follows.receiveAll (hoffer : ∀ {v x}, offer v = some x → x.family = f ∧ x.osVersion = v)
    {before : List String} (h : Follows offer f before d) (versions : List String) :
    Follows offer f (before ++ versions) (d.receiveAll offer versions).2 ∧
      ∀ p ∈ versions.zip (d.receiveAll offer versions).1, (p.2 = .failed ↔ offer p.1 = none) ∧
        (p.2 = .refreshed → ∃ x, offer p.1 = some x ∧ HasNews offer (before ++ versions) p.1 x) := by
  -- what came before stays general: the log of the next step holds the version of this one
  induction versions generalizing before d with
  | nil => exact ⟨by simpa [Dictionary.receiveAll] using h, by simp⟩
  | cons w rest ih =>
    obtain ⟨hrest, hzip⟩ := ih (h.receive hoffer w)
    rw [List.append_assoc, List.singleton_append] at hrest hzip
    refine ⟨hrest, ?_⟩
    rw [Dictionary.receiveAll, List.zip_cons_cons, List.forall_mem_cons]
    refine ⟨?_, hzip⟩
    cases hw : offer w with
    | none => simp [Dictionary.receive]
    | some y =>
      by_cases ht : d.times y.fileName = some y.moment.clock
      · simp [Dictionary.receive, ht]
      · simp only [Dictionary.receive, if_neg ht]
        refine ⟨by simp, fun _ => ⟨y, rfl, before, rest, rfl, ?_⟩⟩
        rwa [← h.times]

end Offers

theorem refresh_of_note {x : Snapshot} (hn : x.note = .ok x.moment.clock) (d : Dictionary) :
    d.refresh x =
      (.ok (decide (d.times x.fileName ≠ some x.moment.clock)), (d.receive (some x)).2) := by
  have hfetched : d.isFetched x.fetchMeta = .ok (decide (d.times x.fileName = some x.moment.clock)) := by
    rw [isFetched, show x.fetchMeta.fileName.bind d.times = d.times x.fileName from rfl, (Store.note_ok hn).2]
    cases d.times x.fileName with
    | none => simp
    | some t => simp [Except.map, beq_eq_decide]
  unfold refresh receive
  rw [hfetched, hn]
  by_cases ht : d.times x.fileName = some x.moment.clock <;> simp [ht]

def statusOf : Except RefreshError Bool → Report.Status
  | .error _ => .failed
  | .ok true => .refreshed
  | .ok false => .skipped

theorem insertOval_of_note {family : Family} {root : Root} {file : FetchMeta}
    (hn : ∀ x, Snapshot.of family root file = .ok x → x.note = .ok x.moment.clock) (d : Dictionary) :
    (statusOf (d.insertOval family root file).1, (d.insertOval family root file).2) =
      d.receive (Snapshot.of family root file).toOption := by
  unfold insertOval
  cases hs : Snapshot.of family root file with
  | error m => rfl
  | ok x =>
    dsimp only [Except.toOption]
    rw [refresh_of_note (hn x hs)]
    unfold receive
    by_cases ht : d.times x.fileName = some x.moment.clock <;> simp [ht, statusOf]

end Dictionary

end OvalCatalog
