import OvalCatalog.Proofs.Store.Calls
import OvalCatalog.Proofs.Store.Snapshot
import OvalCatalog.Proofs.Time.Calendar

namespace OvalCatalog

def Definition.HasNull (d : Definition) : Prop :=
  (∃ p ∈ d.packages, p.name = none) ∨ ∃ a ∈ d.advisory, ∃ c ∈ a.cves, c.cveId = none

theorem Definition.lacks?_ne_none_iff (d : Definition) : d.lacks? ≠ none ↔ d.HasNull := by
  rw [ne_eq, lacks?_eq_none_iff, HasNull, not_and_or]
  simp only [not_forall, ne_eq, not_not, exists_prop]

def Stamp.LeavesYears (stamp : Stamp) : Prop :=
  ∃ m, stamp = .moment m ∧ ¬m.InYears

theorem Stamp.normalize_moment (m : Time.Moment) :
    (∃ cause, Stamp.normalize (.moment m) = .error cause) ↔ Stamp.LeavesYears (.moment m) := by
  simp only [LeavesYears, Stamp.moment.injEq, exists_eq_left', ← Time.Moment.normalize?_eq_none_iff, normalize]
  cases m.normalize? <;> simp

theorem Snapshot.note_error_iff (x : Snapshot) :
    (∃ cause, x.note = .error cause) ↔
      (∃ cause, x.fetchMeta.timestamp.normalize = .error cause) ∨ ∃ d ∈ x.definitions, d.HasNull := by
  unfold note
  split
  · next c hc =>
    obtain ⟨d, hd, hl⟩ := List.exists_of_findSome?_eq_some hc
    have hnull : d.HasNull := d.lacks?_ne_none_iff.mp (by simp [hl])
    exact iff_of_true ⟨_, rfl⟩ (.inr ⟨d, hd, hnull⟩)
  · next hnone =>
    rw [List.findSome?_eq_none_iff] at hnone
    have hfull : ¬∃ d ∈ x.definitions, d.HasNull := by
      rintro ⟨d, hd, hnull⟩
      exact d.lacks?_ne_none_iff.mpr hnull (hnone d hd)
    rw [or_iff_left hfull]

namespace Store

variable {s : Store} {trees : List DefinitionTree}

theorem isFetched_error {file : FetchMeta} {cause : StoreFailure} (h : s.isFetched file = .error cause) :
    file.timestamp.normalize = .error cause := by
  rw [isFetched_eq] at h
  cases ht : file.fileName.bind s.timeOf with
  | none =>
    rw [ht] at h
    cases h
  | some t =>
    rw [ht] at h
    cases hn : file.timestamp.normalize with
    | error e =>
      rw [hn] at h
      cases h
      rfl
    | ok u =>
      rw [hn] at h
      cases h

theorem Holds.refresh_error (h : s.Holds trees) {x : Snapshot} {e : RefreshError}
    (he : (s.refresh x).1 = .error e) :
    (∃ cause, e = .refresh cause x.subject) ∧ s.SameRows (s.refresh x).2 := by
  have hr := h.refresh x
  rcases hy : s.refresh x with ⟨e' | _, u⟩ <;> rw [hy] at hr he
  · cases he
    obtain ⟨_, hrows, cause, hcause, _⟩ := hr
    exact ⟨⟨cause, hcause⟩, hrows⟩
  · cases he

theorem Holds.insertFetchMeta_error (h : s.Holds trees) {family : Family} {file : FetchMeta} {e : RefreshError}
    (he : (s.insertFetchMeta family file).1 = .error e) : s.SameRows (s.insertFetchMeta family file).2 := by
  have hr := h.insertFetchMeta family file
  rcases hy : s.insertFetchMeta family file with ⟨e' | _, u⟩ <;> rw [hy] at hr he
  · exact hr.2.1
  · cases he

theorem Holds.refresh_error_iff (h : s.Holds trees) (x : Snapshot) :
    (∃ cause, (s.refresh x).1 = .error (.refresh cause x.subject)) ↔
      x.fetchMeta.timestamp.LeavesYears ∨
        s.isFetched x.fetchMeta ≠ .ok true ∧ ∃ d ∈ x.definitions, d.HasNull := by
  have hr := h.refresh x
  have htime := Stamp.normalize_moment x.moment
  have hnote := x.note_error_iff
  change (∃ cause, x.fetchMeta.timestamp.normalize = .error cause) ↔ x.fetchMeta.timestamp.LeavesYears at htime
  rw [htime] at hnote
  rcases hy : s.refresh x with ⟨e | ⟨⟨⟩⟩, u⟩ <;> rw [hy] at hr
  · obtain ⟨_, _, cause, rfl, hf | ⟨hf, hn⟩⟩ := hr
    · exact iff_of_true ⟨cause, rfl⟩ (.inl (htime.mp ⟨cause, isFetched_error hf⟩))
    · refine iff_of_true ⟨cause, rfl⟩ ((hnote.mp ⟨cause, hn⟩).imp_right fun hnull => ⟨?_, hnull⟩)
      rw [hf]
      nofun
  · obtain ⟨hf, -⟩ := hr
    obtain ⟨n, t, _, hn, _⟩ := (isFetched_eq_true_iff _ _).mp hf
    refine iff_of_false (by simp) ?_
    rintro (hleaves | ⟨hskip, _⟩)
    · obtain ⟨cause, he⟩ := htime.mpr hleaves
      cases hn.symm.trans he
    · exact hskip hf
  · obtain ⟨hf, t, grown, hn, _⟩ := hr
    refine iff_of_false (by simp) ?_
    intro hfails
    obtain ⟨cause, he⟩ := hnote.mpr (hfails.imp_right And.right)
    cases hn.symm.trans he

/-- Refreshes fail exactly when they must, and leave no trace when they do. In every state that calls lead
to, a root or a file that is not complete is malformed, even where it would be skipped; a complete one
fails just if its time leaves the years of the calendar, or if it is not skipped and a package or a CVE
lacks its name. Whichever call fails, and wherever in its work, no row of any table changes. -/
theorem refresh_atomic (calls : List Call) (family : Family) (root : Root) (file : FetchMeta) :
    ((∃ m, ((reached calls).insertOval family root file).1 = .error (.malformed m)) ↔
      ¬Complete family root file) ∧
    ((∃ cause subject, ((reached calls).insertOval family root file).1 = .error (.refresh cause subject)) ↔
      Complete family root file ∧ (file.timestamp.LeavesYears ∨
        (reached calls).isFetched file ≠ .ok true ∧ ∃ d ∈ root.definitions, d.HasNull)) ∧
    (∀ e, ((reached calls).insertOval family root file).1 = .error e →
      ((∃ m, e = .malformed m) ∨ ∃ cause subject, e = .refresh cause subject) ∧
        (reached calls).SameRows ((reached calls).insertOval family root file).2) ∧
    ∀ e, ((reached calls).insertFetchMeta family file).1 = .error e →
      (reached calls).SameRows ((reached calls).insertFetchMeta family file).2 := by
  obtain ⟨trees, h⟩ := reached_holds calls
  generalize reached calls = s at *
  cases hx : Snapshot.of family root file with
  | error m =>
    have hc := Snapshot.of_error hx
    simp only [insertOval_of_error hx]
    refine ⟨iff_of_true ⟨m, rfl⟩ hc, iff_of_false (by simp) fun hfails => hc hfails.1, ?_,
      fun _ => h.insertFetchMeta_error⟩
    rintro e ⟨⟩
    exact ⟨.inl ⟨m, rfl⟩, rfl, rfl, rfl, rfl, rfl, rfl, rfl, rfl, rfl, rfl⟩
  | ok x =>
    obtain ⟨hc, hx'⟩ := Snapshot.of_ok hx
    obtain rfl := hx'.file
    simp only [insertOval_of_ok hx, ← hx'.definitions]
    refine ⟨iff_of_false ?_ (not_not.mpr hc), ?_, ?_, fun _ => h.insertFetchMeta_error⟩
    · rintro ⟨m, he⟩
      obtain ⟨cause, hcause⟩ := (h.refresh_error he).1
      cases hcause
    · rw [and_iff_right hc, ← h.refresh_error_iff x]
      constructor
      · rintro ⟨cause, subject, he⟩
        obtain ⟨cause', hcause⟩ := (h.refresh_error he).1
        exact ⟨cause', he.trans (congrArg _ hcause)⟩
      · rintro ⟨cause, he⟩
        exact ⟨cause, _, he⟩
    · intro e he
      obtain ⟨⟨cause, hcause⟩, hrows⟩ := h.refresh_error he
      exact ⟨.inr ⟨cause, x.subject, hcause⟩, hrows⟩

end Store

end OvalCatalog
