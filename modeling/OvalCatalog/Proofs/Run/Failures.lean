import OvalCatalog.Proofs.Catalog
import OvalCatalog.Proofs.Run.Visits

/-! Versions that fail leave no trace: without them a run has the same outcomes and ends in the same store. -/

namespace OvalCatalog

namespace Report.Metrics

def count {ν : Type} (m : Metrics ν) : Status → Nat
  | .refreshed => m.refreshed
  | .skipped => m.skipped
  | .failed => m.failed

theorem count_record {ν : Type} [Count ν] (m : Metrics ν) (target : Option String) (o : Outcome ν) (st : Status) :
    (m.record target o).count st = m.count st + if o.health.status = st then 1 else 0 := by
  cases o <;> cases st <;> rfl

end Report.Metrics

namespace Run

variable {f : Family} {feeds : Value} {server : Server} {s : Store} {trees : List DefinitionTree}

theorem count_recordAll (f : Family) (versions : List String) (outcomes : List (Report.Outcome Int))
    (h : outcomes.length = versions.length) (m : Report.Metrics Int) (st : Report.Status) :
    (recordAll f versions outcomes m).count st = m.count st + outcomes.countP (·.health.status = st) := by
  induction versions generalizing outcomes m with
  | nil =>
    obtain rfl := List.length_eq_zero_iff.mp h
    rfl
  | cons v rest ih =>
    obtain ⟨o, outcomes, rfl⟩ := List.exists_cons_of_length_eq_add_one h
    rw [recordAll, ih outcomes (by simpa using h), Report.Metrics.count_record, List.countP_cons]
    simp only [decide_eq_true_eq]
    omega

theorem count_metrics (f : Family) (t : Times) {versions : List String} {outcomes : List (Report.Outcome Int)}
    (h : outcomes.length = versions.length) (st : Report.Status) :
    (metrics f t versions outcomes).count st = outcomes.countP (·.health.status = st) := by
  have hcount := count_recordAll f versions outcomes h
    (.start (some (runId t)) ⟨t.started, none⟩ (some (versions.length : Int))) st
  cases st <;> simpa [metrics, Report.Metrics.count, Report.Metrics.start] using hcount

def kept (versions : List String) (outcomes : List (Report.Outcome Int)) : List (String × Report.Outcome Int) :=
  (versions.zip outcomes).filter fun p => p.2.health.status ≠ .failed

theorem getElem?_visitAll (before after : List String) (v : String) (s : Store) :
    (visitAll f feeds server (before ++ v :: after) s).1[before.length]? =
      some (visit f feeds server v (visitAll f feeds server before s).2).1 := by
  rw [visitAll_append, visitAll_cons, List.getElem?_append_right (Nat.le_of_eq (length_visitAll before s)),
    length_visitAll, Nat.sub_self]
  rfl

theorem visitAll_of_failed (h : s.Holds trees) (versions : List String) :
    ∀ p ∈ versions.zip (visitAll f feeds server versions s).1, p.2.health.status = .failed →
      ∀ u, visit f feeds server p.1 u = (p.2, u) := by
  induction versions generalizing s trees with
  | nil => simp
  | cons v rest ih =>
    obtain ⟨_, h'⟩ := (visit_dictionary f feeds server h v).1
    rw [visitAll_cons, List.zip_cons_cons, List.forall_mem_cons]
    exact ⟨visit_of_failed h, ih h'⟩

theorem visitAll_kept (h : s.Holds trees) (versions : List String) :
    let run := visitAll f feeds server versions s
    visitAll f feeds server ((kept versions run.1).map Prod.fst) s = ((kept versions run.1).map Prod.snd, run.2) := by
  induction versions generalizing s trees with
  | nil => rfl
  | cons v rest ih =>
    obtain ⟨_, h'⟩ := (visit_dictionary f feeds server h v).1
    have hrest := ih h'
    simp only [visitAll_cons, kept, List.zip_cons_cons] at hrest ⊢
    by_cases hv : (visit f feeds server v s).1.health.status = .failed
    · rw [List.filter_cons_of_neg (by simpa using hv)]
      rw [visit_of_failed h hv] at hrest ⊢
      exact hrest
    · rw [List.filter_cons_of_pos (by simpa using hv), List.map_cons, List.map_cons, visitAll_cons, hrest]

/-- Whatever state calls lead to, a run stops at no version, and has one outcome for each of its places, in
their order. A version that fails does so in every store and leaves it alone: the versions that did not fail
make a run of their own with the outcomes that they had, which ends in the very same store. -/
theorem failures_leave_no_trace (calls : List Call) (indexes : List String) (c : Catalog) (disk : Disk)
    (server : Server) (t u : Times) (f : Family) (versions : List String) :
    let d : Database := ⟨Store.reached calls, indexes⟩
    let run := visitAll f c.config.feeds server versions d.store
    let rest := kept versions run.1
    (c.on d).refresh disk server t f.name versions =
        (c.answer f t versions run, c.on { d.migrated [] with store := run.2 }) ∧
      run.1.length = versions.length ∧
      (∀ before v after, versions = before ++ v :: after → run.1[before.length]? =
        some (visit f c.config.feeds server v (visitAll f c.config.feeds server before d.store).2).1) ∧
      (∀ st, (metrics f t versions run.1).count st = run.1.countP (·.health.status = st)) ∧
      (∀ p ∈ versions.zip run.1, p.2.health.status = .failed →
        ∀ s, visit f c.config.feeds server p.1 s = (p.2, s)) ∧
      (c.on d).refresh disk server u f.name (rest.map Prod.fst) =
        (c.answer f u (rest.map Prod.fst) (rest.map Prod.snd, run.2),
          c.on { d.migrated [] with store := run.2 }) := by
  intro d run rest
  obtain ⟨trees, h⟩ := Store.reached_holds calls
  have hlength : run.1.length = versions.length := length_visitAll versions d.store
  refine ⟨c.refresh_on d disk server t f versions, hlength, ?_, count_metrics f t hlength,
    visitAll_of_failed h versions, ?_⟩
  · rintro before v after he
    rw [← getElem?_visitAll before after v d.store, ← he]
  · have hrest := c.refresh_on d disk server u f (rest.map Prod.fst)
    rwa [visitAll_kept h versions] at hrest

end Run

end OvalCatalog
