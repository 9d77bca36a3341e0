import OvalCatalog.Proofs.Run.Coverage

namespace OvalCatalog

namespace Run

variable {f : Family} {feeds : Value} {server : Server} {s : Store} {trees : List DefinitionTree}

theorem visit_cases (f : Family) (feeds : Value) (server : Server) (v : String) :
    (offer? f feeds server v = none ∧ ∃ o : Report.Outcome Int, o.health.status = .failed ∧
        ∀ s, visit f feeds server v s = (o, s)) ∨
      ∃ t y x, offer? f feeds server v = some x ∧ Snapshot.of f y.root y.file = .ok x ∧
        ∀ s, visit f feeds server v s = receive f t y s := by
  unfold offer? visit
  cases Feed.Target.build f feeds v with
  | error e => exact .inl ⟨rfl, _, rfl, fun _ => rfl⟩
  | ok t =>
    dsimp only
    cases Feed.fetch server t with
    | error e => exact .inl ⟨rfl, _, rfl, fun _ => rfl⟩
    | ok y =>
      dsimp only
      cases hx : Snapshot.of f y.root y.file with
      | ok x => exact .inr ⟨t, y, x, rfl, hx, fun _ => rfl⟩
      | error m =>
        refine .inl ⟨rfl, .failed (some t.fileName) (some (RefreshError.malformed m).message), rfl,
          fun s => ?_⟩
        simp only [receive, Store.insertOval_of_error hx]

theorem status_visit (h : s.Holds trees) (v : String) :
    (visit f feeds server v s).1.health.status = (s.dictionary.receive (offer? f feeds server v)).1 :=
  congrArg Prod.fst (visit_dictionary f feeds server h v).2

theorem failed_visit_iff (h : s.Holds trees) (v : String) :
    (visit f feeds server v s).1.health.status = .failed ↔ offer? f feeds server v = none := by
  rw [status_visit h]
  cases offer? f feeds server v with
  | none => simp [Dictionary.receive]
  | some x =>
    unfold Dictionary.receive
    dsimp only
    split <;> simp

theorem visit_of_failed (h : s.Holds trees) {v : String}
    (hv : (visit f feeds server v s).1.health.status = .failed) (u : Store) :
    visit f feeds server v u = ((visit f feeds server v s).1, u) := by
  rcases visit_cases f feeds server v with ⟨_, o, _, ho⟩ | ⟨t, y, x, hx, _⟩
  · rw [ho s, ho u]
  · cases ((failed_visit_iff h v).mp hv).symm.trans hx

theorem visit_spec (h : s.Holds trees) (v : String) :
    ((visit f feeds server v s).1.health.status ≠ .refreshed ∧ (visit f feeds server v s).2 = s) ∨
      (visit f feeds server v s).1.health.status = .refreshed ∧
        ∃ x t grown, offer? f feeds server v = some x ∧
          s.Replaced trees x t (visit f feeds server v s).2 grown := by
  by_cases hfailed : (visit f feeds server v s).1.health.status = .failed
  · rw [visit_of_failed h hfailed, hfailed]
    exact .inl ⟨nofun, rfl⟩
  · rcases visit_cases f feeds server v with ⟨_, o, hstatus, ho⟩ | ⟨t, y, x, hoffer, hx, hreceive⟩
    · rw [ho s] at hfailed
      exact absurd hstatus hfailed
    · obtain ⟨hstore, hstatus⟩ := receive_insertOval f t y s
      rw [hreceive, hstatus, Store.insertOval_of_ok hx] at hfailed ⊢
      rw [hstore, Store.insertOval_of_ok hx]
      have hr := h.refresh x
      rcases hy : s.refresh x with ⟨e | ⟨⟨⟩⟩, u⟩ <;> rw [hy] at hr hfailed
      · exact absurd rfl hfailed
      · exact .inl ⟨nofun, hr.2⟩
      · obtain ⟨_, t, grown, _, hg⟩ := hr
        exact .inr ⟨rfl, x, t, grown, hoffer, hg⟩

theorem later_visit (h : s.Holds trees) (v : String) : s.Later (visit f feeds server v s).2 := by
  rcases visit_spec h v with ⟨_, hs⟩ | ⟨_, x, t, grown, _, hg⟩
  · rw [hs]
    exact .refl s
  · exact hg.later

theorem visitAll_cons (v : String) (rest : List String) (s : Store) :
    visitAll f feeds server (v :: rest) s =
      ((visit f feeds server v s).1 :: (visitAll f feeds server rest (visit f feeds server v s).2).1,
        (visitAll f feeds server rest (visit f feeds server v s).2).2) :=
  rfl

theorem visitAll_append (before after : List String) (s : Store) :
    visitAll f feeds server (before ++ after) s =
      ((visitAll f feeds server before s).1 ++
          (visitAll f feeds server after (visitAll f feeds server before s).2).1,
        (visitAll f feeds server after (visitAll f feeds server before s).2).2) := by
  induction before generalizing s with
  | nil => rfl
  | cons v rest ih => rw [List.cons_append, visitAll_cons, ih, visitAll_cons, List.cons_append]

def statuses (outcomes : List (Report.Outcome Int)) : List Report.Status :=
  outcomes.map (·.health.status)

theorem visitAll_of_not_refreshed (h : s.Holds trees) {versions : List String}
    (hv : .refreshed ∉ statuses (visitAll f feeds server versions s).1) :
    (visitAll f feeds server versions s).2 = s := by
  induction versions with
  | nil => rfl
  | cons v rest ih =>
    rw [visitAll_cons, statuses, List.map_cons, List.mem_cons, not_or] at hv
    rcases visit_spec h v with ⟨_, hs⟩ | ⟨hstatus, _⟩
    · rw [hs] at hv
      rw [visitAll_cons, hs]
      exact ih hv.2
    · exact absurd hstatus.symm hv.1

theorem exists_new_root (h : s.Holds trees) {versions : List String}
    (hv : .refreshed ∈ statuses (visitAll f feeds server versions s).1) :
    ∃ r ∈ (visitAll f feeds server versions s).2.roots.rows, s.roots.next ≤ r.id := by
  induction versions generalizing s trees with
  | nil => cases hv
  | cons v rest ih =>
    obtain ⟨_, h'⟩ := (visit_dictionary f feeds server h v).1
    rw [visitAll_cons] at hv ⊢
    by_cases hrest : .refreshed ∈ statuses (visitAll f feeds server rest (visit f feeds server v s).2).1
    · obtain ⟨r, hr, hle⟩ := ih h' hrest
      exact ⟨r, hr, Int.le_trans (later_visit h v).roots hle⟩
    · -- this version was the last one that was refreshed, and its root is still there
      rw [visitAll_of_not_refreshed h' hrest]
      rcases visit_spec h v with ⟨hnot, _⟩ | ⟨_, x, t, grown, _, hg⟩
      · exact absurd ((List.mem_cons.mp hv).resolve_right hrest).symm hnot
      · refine ⟨⟨s.roots.next, x.family.name, x.osVersion⟩, ?_, Int.le_refl _⟩
        rw [hg.roots]
        simp

theorem sameRows_visitAll_iff (h : s.Holds trees) (versions : List String) :
    s.SameRows (visitAll f feeds server versions s).2 ↔
      .refreshed ∉ statuses (visitAll f feeds server versions s).1 := by
  constructor
  · intro hsame hrefreshed
    obtain ⟨r, hr, hle⟩ := exists_new_root h hrefreshed
    rw [← hsame.2.1] at hr
    exact absurd (h.numbered.roots.below r hr) (Int.not_lt.mpr hle)
  · intro hv
    rw [visitAll_of_not_refreshed h hv]
    exact .refl s

end Run

end OvalCatalog
