import Mathlib.Algebra.BigOperators.Group.List.Basic
import OvalCatalog.Proofs.Run.Accounting

/-! The health of targets against the counts of a run. A version has one entry, which is its last outcome, while the
counts add up all outcomes; so they exceed the entries by the outcomes that later ones replace. -/

namespace OvalCatalog

theorem Keyed.put_perm {κ α : Type} [DecidableEq κ] (key : κ) (a : α) {entries : List (κ × α)}
    (h : (entries.map Prod.fst).Nodup) :
    (put key a entries).Perm ((key, a) :: entries.filter fun e => e.1 ≠ key) := by
  induction entries with
  | nil => exact .refl _
  | cons e rest ih =>
    obtain ⟨l, b⟩ := e
    obtain ⟨hl, hrest⟩ := List.nodup_cons.mp h
    by_cases hkey : l = key
    · subst hkey
      have hothers : ∀ e ∈ rest, e.1 ≠ l := by
        intro e he hkey
        exact hl (List.mem_map.mpr ⟨e, he, hkey⟩)
      rw [put, if_pos rfl, List.filter_cons_of_neg (by simp), List.filter_eq_self.mpr (by simpa using hothers)]
    · rw [put, if_neg hkey, List.filter_cons_of_pos (by simpa using hkey)]
      exact ((ih hrest).cons _).trans (.swap _ _ _)

namespace Run

open Report (Metrics Outcome)

def lastOutcomes : List String → List (Outcome Int) → List (String × Outcome Int)
  | v :: versions, o :: outcomes =>
    if v ∈ versions then lastOutcomes versions outcomes else (v, o) :: lastOutcomes versions outcomes
  | _, _ => []

def replacedOutcomes : List String → List (Outcome Int) → List (Outcome Int)
  | v :: versions, o :: outcomes =>
    if v ∈ versions then o :: replacedOutcomes versions outcomes else replacedOutcomes versions outcomes
  | _, _ => []

section Outcomes

variable {versions : List String} {outcomes : List (Outcome Int)}

theorem outcomes_perm (h : outcomes.length = versions.length) :
    outcomes.Perm ((lastOutcomes versions outcomes).map Prod.snd ++ replacedOutcomes versions outcomes) := by
  induction versions generalizing outcomes with
  | nil =>
    obtain rfl := List.length_eq_zero_iff.mp h
    exact .refl _
  | cons v rest ih =>
    obtain ⟨o, outcomes, rfl⟩ := List.exists_cons_of_length_eq_add_one h
    have hrest := ih (Nat.succ.inj h)
    rw [lastOutcomes, replacedOutcomes]
    split
    · exact (hrest.cons o).trans List.perm_middle.symm
    · exact hrest.cons o

theorem replacedOutcomes_eq_nil_iff (h : outcomes.length = versions.length) :
    replacedOutcomes versions outcomes = [] ↔ versions.Nodup := by
  induction versions generalizing outcomes with
  | nil => exact iff_of_true rfl .nil
  | cons v rest ih =>
    obtain ⟨o, outcomes, rfl⟩ := List.exists_cons_of_length_eq_add_one h
    rw [replacedOutcomes, List.nodup_cons]
    split
    · next hv => exact iff_of_false nofun fun hnodup => hnodup.1 hv
    · next hv => rw [ih (Nat.succ.inj h), and_iff_right hv]

theorem health_recordAll_perm (f : Family) (h : outcomes.length = versions.length) {total : Option Int}
    {m : Metrics Int} (hm : m.Balanced total) :
    (recordAll f versions outcomes m).health.Perm
      ((lastOutcomes versions outcomes).map (fun p => (some (key f p.1), p.2.health)) ++
        m.health.filter fun e => ∀ v ∈ versions, e.1 ≠ some (key f v)) := by
  induction versions generalizing outcomes m with
  | nil =>
    obtain rfl := List.length_eq_zero_iff.mp h
    simp [recordAll, lastOutcomes]
  | cons v rest ih =>
    obtain ⟨o, outcomes, rfl⟩ := List.exists_cons_of_length_eq_add_one h
    have hrest := ih (Nat.succ.inj h) (hm.record (some (key f v)) o)
    have hput := (Keyed.put_perm (some (key f v)) o.health hm.keys).filter
      fun e => ∀ w ∈ rest, e.1 ≠ some (key f w)
    have hothers : (m.health.filter fun e => e.1 ≠ some (key f v)).filter
        (fun e => ∀ w ∈ rest, e.1 ≠ some (key f w)) =
          m.health.filter fun e => ∀ w ∈ v :: rest, e.1 ≠ some (key f w) := by
      rw [List.filter_filter]
      apply List.filter_congr
      intro e _
      simp only [List.forall_mem_cons, Bool.decide_and, Bool.and_comm]
    rw [← Metrics.health_record] at hput
    refine (hrest.trans (hput.append_left _)).trans ?_
    rw [lastOutcomes]
    by_cases hv : v ∈ rest
    · have hagain : ¬∀ w ∈ rest, some (key f v) ≠ some (key f w) := fun hne => hne v hv rfl
      rw [List.filter_cons_of_neg (by simpa using hagain), hothers, if_pos hv]
    · have honce : ∀ w ∈ rest, some (key f v) ≠ some (key f w) := by
        rintro w hw hkey
        exact hv (key_inj.mp (Option.some.inj hkey) ▸ hw)
      rw [List.filter_cons_of_pos (by simpa using honce), hothers, if_neg hv]
      exact List.perm_middle

theorem health_metrics_perm (f : Family) (t : Times) (h : outcomes.length = versions.length) :
    (metrics f t versions outcomes).health.Perm
      ((lastOutcomes versions outcomes).map fun p => (some (key f p.1), p.2.health)) := by
  let start : Metrics Int := .start (some (runId t)) ⟨t.started, none⟩ (some (versions.length : Int))
  have hstart : start.Balanced (some (versions.length : Int)) := ⟨rfl, rfl, rfl, .nil⟩
  have hperm := health_recordAll_perm f h hstart
  rwa [show start.health = [] from rfl, List.filter_nil, List.append_nil] at hperm

theorem count_eq_shown_add_replaced (f : Family) (t : Times) (h : outcomes.length = versions.length)
    (status : Report.Status) :
    (metrics f t versions outcomes).count status =
      (metrics f t versions outcomes).health.countP (·.2.status = status) +
        (replacedOutcomes versions outcomes).countP (·.health.status = status) := by
  rw [count_metrics f t h, (outcomes_perm h).countP_eq, List.countP_append, List.countP_map,
    (health_metrics_perm f t h).countP_eq, List.countP_map]
  rfl

theorem definitions_eq_shown_add_replaced (f : Family) (t : Times) (h : outcomes.length = versions.length) :
    (metrics f t versions outcomes).definitions =
      ((metrics f t versions outcomes).health.map (·.2.definitions)).sum +
        ((replacedOutcomes versions outcomes).map (·.health.definitions)).sum := by
  have hall : (metrics f t versions outcomes).definitions = (outcomes.map (·.health.definitions)).sum :=
    (definitions_recordAll (f := f) h _).trans (Int.zero_add _)
  rw [hall, ((outcomes_perm h).map _).sum_eq, List.map_append, List.sum_append, List.map_map,
    ((health_metrics_perm f t h).map _).sum_eq, List.map_map]
  rfl

theorem nodup_of_counts_shown (f : Family) (t : Times) (h : outcomes.length = versions.length)
    (hshown : ∀ status, (metrics f t versions outcomes).health.countP (·.2.status = status) =
      (metrics f t versions outcomes).count status) : versions.Nodup := by
  have hnone (status : Report.Status) :
      (replacedOutcomes versions outcomes).countP (·.health.status = status) = 0 := by
    have hcount := count_eq_shown_add_replaced f t h status
    have hstatus := hshown status
    omega
  have hlength := countP_statuses (replacedOutcomes versions outcomes)
  rw [hnone, hnone, hnone] at hlength
  exact (replacedOutcomes_eq_nil_iff h).mp (List.length_eq_zero_iff.mp hlength.symm)

end Outcomes

/-- The entries of the targets and the counts of a run differ by the outcomes that later ones of the same version
replace, whatever the database holds. They agree in all counts just if no version comes twice. -/
theorem health_reconciles (c : Catalog) (d : Database) (x : Surroundings) (f : Family) (versions : List String)
    (h : c.connect x.disk = .ok d) :
    let run := visitAll f c.config.feeds x.server versions d.store
    let m := metrics f x.times versions run.1
    let result := c.refresh x.disk x.server x.times f.name versions
    let replaced := replacedOutcomes versions run.1
    result.1 = c.answer f x.times versions run ∧ (∀ r, result.1 = .ok r → r.metrics = m) ∧
      (∀ status, m.count status =
        m.health.countP (·.2.status = status) + replaced.countP (·.health.status = status)) ∧
      m.definitions = (m.health.map (·.2.definitions)).sum + (replaced.map (·.health.definitions)).sum ∧
      ((∀ status, m.health.countP (·.2.status = status) = m.count status) ↔ versions.Nodup) ∧
      (versions.Nodup → (m.health.map (·.2.definitions)).sum = m.definitions) := by
  intro run m result replaced
  have hanswer : result.1 = c.answer f x.times versions run := by
    rw [show result = _ from c.refresh_of_connect h x.server x.times f.name versions, c.refresh_on d]
  have hlength : run.1.length = versions.length := length_visitAll versions d.store
  have hcounts := count_eq_shown_add_replaced f x.times hlength
  have hdefinitions := definitions_eq_shown_add_replaced f x.times hlength
  refine ⟨hanswer, fun r hr => metrics_of_answer (hanswer.symm.trans hr), hcounts, hdefinitions,
    ⟨nodup_of_counts_shown f x.times hlength, fun hnodup status => ?_⟩, fun hnodup => ?_⟩
  · rw [hcounts, (replacedOutcomes_eq_nil_iff hlength).mpr hnodup, List.countP_nil, Nat.add_zero]
  · rw [(replacedOutcomes_eq_nil_iff hlength).mpr hnodup, List.map_nil, List.sum_nil, Int.add_zero] at hdefinitions
    exact hdefinitions.symm

theorem health_reconciles_on_leap_run :
    let x := leapSurroundings
    let c := leapCatalog.on .fresh
    let m := metrics .opensuseLeap x.times ["42.3", "15.0"]
      (visitAll .opensuseLeap c.config.feeds x.server ["42.3", "15.0"] Database.fresh.store).1
    c.connect x.disk = .ok .fresh ∧ (∀ status, m.health.countP (·.2.status = status) = m.count status) ∧
      (m.health.map (·.2.definitions)).sum = m.definitions ∧ m.refreshed = 1 ∧ m.failed = 1 ∧ m.definitions = 1 := by
  intro x c m
  have hconnect : c.connect x.disk = .ok .fresh := rfl
  obtain ⟨-, -, -, -, hcounts, hdefinitions⟩ :=
    health_reconciles c .fresh x .opensuseLeap ["42.3", "15.0"] hconnect
  have hnodup : ["42.3", "15.0"].Nodup := by decide
  refine ⟨hconnect, hcounts.mpr hnodup, hdefinitions hnodup, ?_⟩
  simp only [m, Store.store_fresh]
  decide +kernel

theorem refreshed_version_shown_as_skipped :
    let x := leapSurroundings
    let c := leapCatalog.on .fresh
    let m := metrics .opensuseLeap x.times ["42.3", "42.3"]
      (visitAll .opensuseLeap c.config.feeds x.server ["42.3", "42.3"] Database.fresh.store).1
    c.connect x.disk = .ok .fresh ∧
      (∃ r, (c.refresh x.disk x.server x.times Family.opensuseLeap.name ["42.3", "42.3"]).1 = .ok r ∧ r.metrics = m) ∧
      m.health = [(some "opensuse.leap 42.3", ⟨.skipped, some "42.3.xml", 0, none⟩)] ∧
      (m.refreshed = 1 ∧ m.skipped = 1 ∧ m.definitions = 1) ∧
      ¬(∀ status, m.health.countP (·.2.status = status) = m.count status) ∧
      (m.health.map (·.2.definitions)).sum ≠ m.definitions := by
  intro x c m
  have hrun : m.health = [(some "opensuse.leap 42.3", ⟨.skipped, some "42.3.xml", 0, none⟩)] ∧
      m.refreshed = 1 ∧ m.skipped = 1 ∧ m.definitions = 1 := by
    simp only [m, Store.store_fresh]
    decide +kernel
  have hplace : (Report.makeDirectory leapCatalog.isFile leapCatalog.reportDirectory).toOption = some "output" := by
    decide +kernel
  have hanswer := congrArg Prod.fst
    (leapCatalog.refresh_on .fresh x.disk x.server x.times .opensuseLeap ["42.3", "42.3"])
  rw [Catalog.answer, eq_ok_of_toOption hplace] at hanswer
  refine ⟨rfl, ⟨_, hanswer, rfl⟩, hrun.1, hrun.2, fun hcounts => ?_, ?_⟩
  · have hrefreshed := hcounts .refreshed
    rw [hrun.1, Report.Metrics.count, hrun.2.1] at hrefreshed
    cases hrefreshed
  · rw [hrun.1, hrun.2.2.2]
    decide

end Run

end OvalCatalog
