import Mathlib.Data.List.DropRight
import Mathlib.Data.List.Induction
import OvalCatalog.Http.Breaker

namespace OvalCatalog.Http

inductive Event (τ : Type) where
  | failure
  | success
  | advance (span : τ)

namespace Event

variable {τ : Type}

def isFailure : Event τ → Bool
  | failure => true
  | _ => false

def isSuccess : Event τ → Bool
  | success => true
  | _ => false

end Event

variable {τ : Type}

def sinceSuccess (events : List (Event τ)) : List (Event τ) :=
  events.rtakeWhile fun e => !e.isSuccess

def failuresSince (events : List (Event τ)) : Nat :=
  (sinceSuccess events).countP Event.isFailure

theorem failuresSince_snoc (events : List (Event τ)) (e : Event τ) :
    failuresSince (events ++ [e]) =
      match e with
      | .failure => failuresSince events + 1
      | .success => 0
      | .advance _ => failuresSince events := by
  cases e <;> simp [failuresSince, sinceSuccess, Event.isSuccess, Event.isFailure]

theorem failuresSince_eq_countP {events : List (Event τ)} (h : ∀ e ∈ events, e.isSuccess = false) :
    failuresSince events = events.countP Event.isFailure := by
  have hall : sinceSuccess events = events :=
    List.rtakeWhile_eq_self_iff.mpr fun e he => by simp [h e he]
  rw [failuresSince, hall]

theorem eq_of_snoc {α : Type} {xs before after : List α} {x y : α} (h : xs ++ [x] = before ++ y :: after) :
    (before = xs ∧ x = y) ∨ ∃ rest, after = rest ++ [x] ∧ xs = before ++ y :: rest := by
  rcases List.eq_nil_or_concat after with rfl | ⟨rest, z, rfl⟩
  · obtain ⟨hxs, hx⟩ := List.append_inj' h rfl
    exact .inl ⟨hxs.symm, (List.cons.inj hx).1⟩
  · rw [List.concat_eq_append, ← List.cons_append, ← List.append_assoc] at h
    obtain ⟨hxs, hx⟩ := List.append_inj' h rfl
    obtain rfl := (List.cons.inj hx).1
    exact .inr ⟨rest, List.concat_eq_append, hxs⟩

section Clock

variable [Add τ]

def clockAfter (now : τ) : List (Event τ) → τ
  | [] => now
  | .advance span :: rest => clockAfter (now + span) rest
  | _ :: rest => clockAfter now rest

def LastFailure (start : τ) (events : List (Event τ)) (t : τ) : Prop :=
  ∃ before after, events = before ++ .failure :: after ∧ (∀ e ∈ after, e.isFailure = false) ∧
    clockAfter start before = t

theorem not_lastFailure_nil (start t : τ) : ¬LastFailure start [] t := by
  rintro ⟨before, after, he, _⟩
  simp at he

theorem lastFailure_snoc_failure (start t : τ) (events : List (Event τ)) :
    LastFailure start (events ++ [.failure]) t ↔ clockAfter start events = t := by
  constructor
  · rintro ⟨before, after, he, hnone, ht⟩
    rcases eq_of_snoc he with ⟨rfl, _⟩ | ⟨rest, rfl, _⟩
    · exact ht
    · cases hnone .failure (by simp)
  · intro ht
    exact ⟨events, [], rfl, nofun, ht⟩

theorem lastFailure_snoc (start t : τ) (events : List (Event τ)) {e : Event τ} (he : e.isFailure = false) :
    LastFailure start (events ++ [e]) t ↔ LastFailure start events t := by
  constructor
  · rintro ⟨before, after, hevents, hnone, ht⟩
    rcases eq_of_snoc hevents with ⟨_, rfl⟩ | ⟨rest, rfl, rfl⟩
    · cases he
    · exact ⟨before, rest, rfl, fun d hd => hnone d (List.mem_append_left _ hd), ht⟩
  · rintro ⟨before, after, rfl, hnone, ht⟩
    refine ⟨before, after ++ [e], by simp, ?_, ht⟩
    rw [List.forall_mem_append]
    exact ⟨hnone, List.forall_mem_singleton.mpr he⟩

end Clock

namespace Breaker

def fresh (threshold : Int) (openTime : τ) : Breaker τ :=
  { threshold, openTime }

theorem canAttempt_eq_false_iff [Sub τ] [LE τ] [DecidableRel (α := τ) (· ≤ ·)] (now : τ) (b : Breaker τ) :
    b.canAttempt now = false ↔ ∃ t, b.openedAt = some t ∧ ¬b.openTime ≤ now - t := by
  unfold canAttempt
  cases b.openedAt <;> simp

variable [Add τ]

def after (b : Breaker τ) (now : τ) : List (Event τ) → Breaker τ
  | [] => b
  | .failure :: rest => (b.recordFailure now).after now rest
  | .success :: rest => b.recordSuccess.after now rest
  | .advance span :: rest => b.after (now + span) rest

theorem after_append (b : Breaker τ) (now : τ) (before rest : List (Event τ)) :
    b.after now (before ++ rest) = (b.after now before).after (clockAfter now before) rest := by
  induction before generalizing b now with
  | nil => rfl
  | cons e tail ih => cases e <;> exact ih ..

structure Standing (threshold : Int) (openTime start : τ) (events : List (Event τ)) (b : Breaker τ) : Prop where
  threshold_eq : b.threshold = threshold
  openTime_eq : b.openTime = openTime
  failures_eq : b.failures = failuresSince events
  openedAt_iff : ∀ t, b.openedAt = some t ↔
    1 ≤ failuresSince events ∧ threshold ≤ failuresSince events ∧ LastFailure start events t

variable {threshold : Int} {openTime start : τ} {events : List (Event τ)} {b : Breaker τ}

theorem Standing.failure (h : Standing threshold openTime start events b) :
    Standing threshold openTime start (events ++ [.failure]) (b.recordFailure (clockAfter start events)) := by
  refine ⟨h.threshold_eq, h.openTime_eq, ?_, fun t => ?_⟩
  · rw [failuresSince_snoc, ← h.failures_eq]
    rfl
  · rw [failuresSince_snoc, lastFailure_snoc_failure]
    dsimp only [recordFailure]
    rw [h.threshold_eq, h.failures_eq]
    split
    · next hopens =>
      rw [Option.some.injEq, and_iff_right (Nat.le_add_left 1 _), and_iff_right (by exact_mod_cast hopens)]
    · next hopens =>
      refine iff_of_false (fun hopen => ?_) fun hopen => hopens (by exact_mod_cast hopen.2.1)
      have hbefore := ((h.openedAt_iff t).mp hopen).2.1
      omega

theorem Standing.success (h : Standing threshold openTime start events b) :
    Standing threshold openTime start (events ++ [.success]) b.recordSuccess := by
  refine ⟨h.threshold_eq, h.openTime_eq, ?_, fun t => ?_⟩
  · rw [failuresSince_snoc]
    rfl
  · rw [failuresSince_snoc]
    exact iff_of_false nofun fun hopen => Nat.not_succ_le_zero 0 hopen.1

theorem Standing.advance (h : Standing threshold openTime start events b) (span : τ) :
    Standing threshold openTime start (events ++ [.advance span]) b := by
  have hfailures : failuresSince (events ++ [.advance span]) = failuresSince events := failuresSince_snoc ..
  refine ⟨h.threshold_eq, h.openTime_eq, hfailures ▸ h.failures_eq, fun t => ?_⟩
  rw [hfailures, lastFailure_snoc start t events rfl]
  exact h.openedAt_iff t

theorem standing_after (threshold : Int) (openTime start : τ) (events : List (Event τ)) :
    Standing threshold openTime start events ((fresh threshold openTime).after start events) := by
  induction events using List.reverseRecOn with
  | nil => exact ⟨rfl, rfl, rfl, fun t => iff_of_false nofun fun hopen => not_lastFailure_nil start t hopen.2.2⟩
  | append_singleton events e ih =>
    rw [after_append]
    cases e with
    | failure => exact ih.failure
    | success => exact ih.success
    | advance span => exact ih.advance span

theorem canAttempt_after [Sub τ] [LE τ] [DecidableRel (α := τ) (· ≤ ·)] (threshold : Int) (openTime start : τ)
    (events : List (Event τ)) (now : τ) :
    ((fresh threshold openTime).after start events).canAttempt now = false ↔
      1 ≤ failuresSince events ∧ threshold ≤ failuresSince events ∧
        ∃ t, LastFailure start events t ∧ ¬openTime ≤ now - t := by
  have h := standing_after threshold openTime start events
  simp only [canAttempt_eq_false_iff, h.openedAt_iff, h.openTime_eq, and_assoc, exists_and_left]

theorem after_success (threshold : Int) (openTime start : τ) (past recent : List (Event τ)) :
    (fresh threshold openTime).after start (past ++ .success :: recent) =
      (fresh threshold openTime).after (clockAfter start past) recent := by
  have h := standing_after threshold openTime start past
  rw [after_append, after, recordSuccess, h.threshold_eq, h.openTime_eq, fresh]

end Breaker

end OvalCatalog.Http
