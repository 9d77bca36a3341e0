import OvalCatalog.Proofs.Http.Retries

/-! Which answers of a server are taken for what was asked for. A status of 400 and more is an error, but those of
600 and more are taken all the same, and the breaker is as after a success. -/

namespace OvalCatalog.Http

namespace Client

variable {τ α : Type} [Duration α] [Sub τ] [LE τ] [DecidableRel (α := τ) (· ≤ ·)]

def lastMet (c : Client τ α) (s : Scene τ α) : Option Outcome :=
  match (c.get s).requests with
  | 0 => none
  | n + 1 => some (s.outcome n)

/-- Only the body of a response that is no error is returned, and a call whose last response is an error gives one
and does not make the breaker forget a failure. -/
structure TellsErrors (c : Client τ α) (s : Scene τ α) : Prop where
  body : ∀ bytes, (c.get s).answer = .ok bytes →
    ∃ r, c.lastMet s = some (.response r) ∧ r.body = bytes ∧ r.status < 400
  error : ∀ r, c.lastMet s = some (.response r) → 400 ≤ r.status →
    (∃ e, (c.get s).answer = .error e) ∧ c.breaker.failures ≤ (c.get s).breaker.failures

theorem get_end (c : Client τ α) (s : Scene τ α) :
    c.lastMet s = none ∧ (∃ e, (c.get s).answer = .error e) ∨
      ∃ o, c.lastMet s = some o ∧
        ((∃ clock, ((c.get s).answer, (c.get s).breaker) = finish s.url clock o c.breaker) ∨
          mayRetry o = true ∧ (c.get s).breaker = c.breaker ∧ ∃ e, (c.get s).answer = .error e) := by
  by_cases hopen : c.breaker.canAttempt s.start = true
  · rcases Int.lt_or_le c.config.maxRetries 0 with hretries | hretries
    · rw [lastMet, get_without_try hopen hretries]
      exact .inl ⟨rfl, _, rfl⟩
    · obtain ⟨k, -, hrequests, -, hend⟩ := get_ends hopen hretries
      refine .inr ⟨s.outcome k, by rw [lastMet, hrequests], ?_⟩
      rcases hend with ⟨-, -, hfinish⟩ | ⟨-, hretry, -, hbreaker, e, he, -⟩
      · exact .inl ⟨_, hfinish⟩
      · exact .inr ⟨hretry, hbreaker, e, he⟩
  · have hget := get_refused (Bool.not_eq_true _ ▸ hopen)
    rw [lastMet, hget]
    exact .inl ⟨rfl, _, rfl⟩

theorem status_of_mayRetry {r : Response} (h : mayRetry (.response r) = true) :
    400 ≤ r.status ∧ r.status < 600 := by
  have hmem : r.status ∈ [429, 500, 502, 503, 504] := by
    simpa [mayRetry, Response.isRetryable] using h
  simp only [List.mem_cons, List.not_mem_nil, or_false] at hmem
  omega

variable {c : Client τ α} {s : Scene τ α} {r : Response}

theorem answer_of_response (hmet : c.lastMet s = some (.response r)) (hstatus : r.status < 600) :
    r.status < 400 ∧ (c.get s).answer = .ok r.body ∨
      400 ≤ r.status ∧ (∃ e, (c.get s).answer = .error e) ∧ c.breaker.failures ≤ (c.get s).breaker.failures := by
  rcases get_end c s with ⟨hnone, _⟩ | ⟨o, ho, hend⟩
  · cases hnone.symm.trans hmet
  · obtain rfl : o = .response r := Option.some.inj (ho.symm.trans hmet)
    rcases hend with ⟨clock, hfinish⟩ | ⟨hretry, hbreaker, herror⟩
    · rw [finish_response hstatus] at hfinish
      split at hfinish
      · next hlow => exact .inl ⟨hlow, congrArg Prod.fst hfinish⟩
      · next hhigh =>
        have hbreaker : (c.get s).breaker = c.breaker.recordFailure clock := congrArg Prod.snd hfinish
        refine .inr ⟨by omega, ⟨_, congrArg Prod.fst hfinish⟩, ?_⟩
        rw [hbreaker]
        exact Nat.le_succ _
    · exact .inr ⟨(status_of_mayRetry hretry).1, herror, Nat.le_of_eq (congrArg Breaker.failures hbreaker.symm)⟩

theorem answer_of_strange (hmet : c.lastMet s = some (.response r)) (hstatus : 600 ≤ r.status) :
    (c.get s).answer = .ok r.body ∧ (c.get s).breaker.failures = 0 := by
  rcases get_end c s with ⟨hnone, _⟩ | ⟨o, ho, hend⟩
  · cases hnone.symm.trans hmet
  · obtain rfl : o = .response r := Option.some.inj (ho.symm.trans hmet)
    rcases hend with ⟨clock, hfinish⟩ | ⟨hretry, _⟩
    · rw [finish_strange hstatus] at hfinish
      have hbreaker : (c.get s).breaker = c.breaker.recordSuccess := congrArg Prod.snd hfinish
      rw [hbreaker]
      exact ⟨congrArg Prod.fst hfinish, rfl⟩
    · have hbelow := (status_of_mayRetry hretry).2
      omega

theorem exists_response_of_ok {bytes : List UInt8} (hok : (c.get s).answer = .ok bytes) :
    ∃ r, c.lastMet s = some (.response r) ∧ r.body = bytes := by
  rcases get_end c s with ⟨_, e, herror⟩ | ⟨o, ho, ⟨clock, hfinish⟩ | ⟨_, _, e, herror⟩⟩
  · cases hok.symm.trans herror
  · have hanswer : (c.get s).answer = (finish s.url clock o c.breaker).1 := congrArg Prod.fst hfinish
    rw [hok] at hanswer
    cases o with
    | fault kind message => cases hanswer
    | response r =>
      refine ⟨r, ho, ?_⟩
      rcases Int.lt_or_le r.status 600 with hstatus | hstatus
      · rw [finish_response hstatus] at hanswer
        split at hanswer
        · exact (Except.ok.inj hanswer).symm
        · cases hanswer
      · rw [finish_strange hstatus] at hanswer
        exact (Except.ok.inj hanswer).symm
  · cases hok.symm.trans herror

/-- Errors are told just if the last response, if there is one, has a status below 600. With any other status the
body of the error is returned, and the breaker forgets all failures. -/
theorem tellsErrors_iff (c : Client τ α) (s : Scene τ α) :
    (c.TellsErrors s ↔ ∀ r, c.lastMet s = some (.response r) → r.status < 600) ∧
      ∀ r, c.lastMet s = some (.response r) → 600 ≤ r.status →
        (c.get s).answer = .ok r.body ∧ (c.get s).breaker.failures = 0 := by
  refine ⟨⟨fun h r hmet => ?_, fun hstatus => ⟨fun bytes hok => ?_, fun r hmet hhigh => ?_⟩⟩,
    fun _ => answer_of_strange⟩
  · apply Int.lt_of_not_ge
    intro hstrange
    obtain ⟨e, herror⟩ := (h.error r hmet (by omega)).1
    cases herror.symm.trans (answer_of_strange hmet hstrange).1
  · obtain ⟨r, hmet, hbody⟩ := exists_response_of_ok hok
    rcases answer_of_response hmet (hstatus r hmet) with ⟨hlow, _⟩ | ⟨_, ⟨e, herror⟩, _⟩
    · exact ⟨r, hmet, hbody, hlow⟩
    · cases hok.symm.trans herror
  · rcases answer_of_response hmet (hstatus r hmet) with ⟨hlow, _⟩ | ⟨_, htold⟩
    · omega
    · exact htold

end Client

def strange : Scene Int Number.Amount where
  url := "http://h/oval.xml"
  start := 0
  clock _ := 0
  now _ := 0
  draw _ := .whole 0
  outcome _ := .response { status := 600, body := [120] }
  interruption _ := none

def onceFailed : Client Int Number.Amount :=
  { oneRetry with breaker := oneRetry.breaker.recordFailure 0 }

theorem strange_status_taken :
    onceFailed.get strange = ⟨.ok [120], 1, [], .fresh 5 300⟩ ∧ onceFailed.breaker.failures = 1 ∧
      ¬onceFailed.TellsErrors strange := by
  have hget : onceFailed.get strange = ⟨.ok [120], 1, [], .fresh 5 300⟩ := by
    rw [Client.get_attempted rfl (by decide)]
    rfl
  have hmet : onceFailed.lastMet strange = some (.response { status := 600, body := [120] }) := by
    rw [Client.lastMet, hget]
    rfl
  refine ⟨hget, rfl, fun h => ?_⟩
  obtain ⟨e, herror⟩ := (h.error _ hmet (by decide)).1
  rw [hget] at herror
  cases herror

end OvalCatalog.Http
