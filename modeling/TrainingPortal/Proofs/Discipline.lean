import Mathlib.Data.List.Nodup
import TrainingPortal.Proofs.Broker

/-!
# Login, work, return

The discipline of a broker, for every operation, every network and every script of replies.

* `calls_carryOut`: the calls of an operation are none, or the one for a token, or that one, the
  work and the return of the token, and which of the three is decided by the credentials and the
  login alone.
* `carryOut_congr`: what comes of an operation, and which calls it makes, does not depend on what
  the portal says to the return of the token.
-/

namespace TrainingPortal.Broker

open Http PortalM

variable {α : Type}

/-! ## The calls of an operation -/

theorem trace_carryOut (b : Broker) (o : Operation α) (n : Network) :
    (∃ e, b.logIn.outcome n = .error e ∧ (b.carryOut o).trace n = b.logIn.trace n) ∨
    ∃ l, b.logIn.outcome n = .ok l ∧ ∃ log : List LogEntry, (∀ e ∈ log, e.Neutral) ∧
      (b.carryOut o).trace n = b.logIn.trace n ++ ((b.work o l).trace (b.logIn.left n) ++
        ((attempt l.revokeCall ((b.work o l).left (b.logIn.left n))).trace ++
          log.map .logged)) := by
  obtain ⟨log, neutral, eq⟩ := carryOut_eq o
  rw [eq, trace, run_withLogin]
  cases h : b.logIn.outcome n with
  | error e => exact .inl ⟨e, rfl, rfl⟩
  | ok l =>
    obtain ⟨e, he, revoked⟩ := l.run_revoke ((b.work o l).left (b.logIn.left n))
    refine .inr ⟨l, rfl, e :: log, List.forall_mem_cons.2 ⟨he, neutral⟩, ?_⟩
    simp only [revoked, List.map_cons, List.append_assoc, List.singleton_append]

theorem calls_eq (b : Broker) (o : Operation α) (n : Network) :
    Traced.calls ((b.carryOut o).trace n) = Traced.calls (b.logIn.trace n) ++
      match b.logIn.outcome n with
      | .ok l => Traced.calls ((b.work o l).trace (b.logIn.left n)) ++ [l.revokeCall]
      | .error _ => [] := by
  rcases b.trace_carryOut o n with ⟨e, h, eq⟩ | ⟨l, h, log, -, eq⟩
  · rw [eq, h, List.append_nil]
  · simp [eq, h]

/-- The three courses that an operation can take. -/
inductive Course (b : Broker) (o : Operation α) (n : Network) (calls : List Call) : Prop
  | refused (e : PortalError) (invalid : b.credentials.validate = .error e)
      (login : b.logIn.outcome n = .error e) (none : calls = [])
  | turnedAway (e : PortalError) (valid : b.credentials.validate = .ok ())
      (login : b.logIn.outcome n = .error e)
      (one : calls = [Login.tokenCall b.base b.credentials])
  | carriedOut (l : Login) (work : List Call) (valid : b.credentials.validate = .ok ())
      (login : b.logIn.outcome n = .ok l) (does : o.Work l work)
      (all : calls = Login.tokenCall b.base b.credentials :: (work ++ [l.revokeCall]))

theorem course (b : Broker) (o : Operation α) (n : Network) :
    b.Course o n (Traced.calls ((b.carryOut o).trace n)) := by
  rw [calls_eq, Login.calls_start]
  cases valid : b.credentials.validate with
  | error e =>
    have login : b.logIn.outcome n = .error e :=
      (Login.quiet_start valid b.base).outcome_eq n
    exact .refused e valid login (by rw [login]; rfl)
  | ok =>
    cases login : b.logIn.outcome n with
    | error e => exact .turnedAway e valid login rfl
    | ok l => exact .carriedOut l _ valid login (b.calls_work o l _) rfl

/-- The calls of an operation are told apart by their method and their landmarks. -/
theorem nodup_of_work {o : Operation α} {l : Login} {work : List Call} (h : o.Work l work)
    (base : String) (c : Credentials) :
    (Login.tokenCall base c :: (work ++ [l.revokeCall])).Nodup := by
  refine List.Nodup.of_map (fun c : Call => (c.method, c.isRevocation, c.isSessionRequest)) ?_
  have token : (Login.tokenCall base c).method = .post := rfl
  have revoke : l.revokeCall.method = .post := rfl
  have catalog : l.catalogCall.method = .get := rfl
  have request (r : SessionRequest) : (l.requestCall r).method = .post := rfl
  have terminate (s : String) : (l.terminateCall s).method = .get := rfl
  cases o with
  | request r =>
    obtain ⟨_, _, rfl, rfl | rfl, rfl | ⟨environment, rfl⟩⟩ := h <;>
      simp [token, revoke, catalog, request]
  | terminate session =>
    obtain rfl := h
    simp [token, revoke, terminate]
  | list =>
    obtain rfl := h
    simp [token, revoke, catalog]

/-- **The calls of an operation.** There are none exactly if the credentials cannot be right; only
the one for a token exactly if they may be and the login fails; and otherwise, exactly if it
succeeds, that one, the work of the operation and last the return of the token. No call is
repeated. -/
theorem calls_carryOut (b : Broker) (o : Operation α) (n : Network) :
    let calls := Traced.calls ((b.carryOut o).trace n)
    let token := Login.tokenCall b.base b.credentials
    (calls = [] ↔ ∃ e, b.credentials.validate = .error e) ∧
    (calls = [token] ↔ b.credentials.validate = .ok () ∧ ∃ e, b.logIn.outcome n = .error e) ∧
    ((∃ l work, o.Work l work ∧ calls = token :: (work ++ [l.revokeCall])) ↔
      ∃ l, b.logIn.outcome n = .ok l) ∧
    (∀ l, b.logIn.outcome n = .ok l →
      (∃ work, o.Work l work ∧ calls = token :: (work ++ [l.revokeCall])) ∧
      l.revokeCall.method = .post ∧ l.revokeCall.address = Endpoint.revoke b.base ∧
      l.revokeCall.authorization = .bearer l.token.accessToken) ∧
    calls.Nodup := by
  intro calls token
  have course : b.Course o n calls := b.course o n
  cases course with
  | refused e invalid login none =>
    rw [invalid, login, none]
    exact ⟨by simp, by simp, by simp, by simp, List.nodup_nil⟩
  | turnedAway e valid login one =>
    rw [valid, login, one]
    exact ⟨by simp, by simp [token], by simp, by simp, List.nodup_singleton _⟩
  | carriedOut l work valid login does all =>
    obtain ⟨made, rfl⟩ := Login.eq_ofToken_of_start login
    rw [valid, login, all]
    refine ⟨by simp, by simp [token], ⟨fun _ => ⟨_, rfl⟩, fun _ => ⟨_, work, does, rfl⟩⟩, ?_,
      nodup_of_work does _ _⟩
    rintro l ⟨⟩
    exact ⟨⟨work, does, rfl⟩, rfl, rfl, rfl⟩

/-! ## What the return of the token cannot change -/

/-- What happens before the first call that hands a token back. -/
def beforeRevocation (trace : List Event) : List Event :=
  trace.takeWhile fun event => !event.call?.any Call.isRevocation

theorem beforeRevocation_append {s : List Event}
    (h : ∀ c ∈ Traced.calls s, c.isRevocation = false) (t : List Event) :
    beforeRevocation (s ++ t) = s ++ beforeRevocation t := by
  refine List.takeWhile_append_of_pos fun event mem => ?_
  cases event with
  | called c => simpa [Event.call?] using h c (List.mem_filterMap.2 ⟨_, mem, rfl⟩)
  | _ => rfl

/-- The login and the work of an operation. -/
def beforeReturn (b : Broker) (o : Operation α) : PortalM α := b.logIn >>= b.work o

theorem causal_beforeReturn (b : Broker) (o : Operation α) : Causal (b.beforeReturn o) :=
  (Login.causal_start _ _).bind (b.causal_work o)

/-- At most three replies are taken before the return of the token. -/
theorem length_requests_beforeReturn (b : Broker) (o : Operation α) (n : Network) :
    (Traced.requests ((b.beforeReturn o).trace n)).length ≤ 3 := by
  have login := Login.length_requests_start b.base b.credentials n
  rw [beforeReturn, trace_bind, Traced.requests_append, List.length_append]
  cases b.logIn.outcome n with
  | error e => exact Nat.add_le_add login (Nat.zero_le 2)
  | ok l => exact Nat.add_le_add login (b.length_requests_work o l _)

theorem outcome_carryOut (b : Broker) (o : Operation α) (n : Network) :
    (b.carryOut o).outcome n = (b.beforeReturn o).outcome n := by
  obtain ⟨log, -, eq⟩ := carryOut_eq o
  rw [eq, outcome_withLogin, beforeReturn, outcome_bind]

/-- An operation makes the calls of its login and its work, and last the return of the token. -/
theorem calls_eq_append (b : Broker) (o : Operation α) (n : Network) :
    Traced.calls ((b.carryOut o).trace n) = Traced.calls ((b.beforeReturn o).trace n) ++
      match b.logIn.outcome n with
      | .ok l => [l.revokeCall]
      | .error _ => [] := by
  rw [calls_eq, beforeReturn, calls_bind]
  cases b.logIn.outcome n with
  | ok l => exact (List.append_assoc _ _ _).symm
  | error e => exact (List.append_nil _).symm

theorem mem_calls {c : Call} {trace : List Event} : c ∈ Traced.calls trace ↔ .called c ∈ trace := by
  simp only [Traced.calls, List.mem_filterMap]
  refine ⟨?_, fun h => ⟨_, h, rfl⟩⟩
  rintro ⟨event, mem, eq⟩
  cases event with
  | called _ => exact Option.some.inj eq ▸ mem
  | _ => cases eq

theorem isRevocation_of_mem_calls_logIn {b : Broker} {n : Network} {c : Call}
    (h : c ∈ Traced.calls (b.logIn.trace n)) : c.isRevocation = false := by
  rw [Login.calls_start] at h
  cases valid : b.credentials.validate with
  | error e =>
    rw [valid] at h
    cases h
  | ok =>
    rw [valid] at h
    obtain rfl := List.mem_singleton.1 h
    exact Login.isRevocation_tokenCall _ _

theorem isRevocation_of_mem_calls_beforeReturn {b : Broker} {o : Operation α} {n : Network}
    {c : Call} (h : c ∈ Traced.calls ((b.beforeReturn o).trace n)) : c.isRevocation = false := by
  rw [beforeReturn, calls_bind, List.mem_append] at h
  rcases h with h | h
  · exact isRevocation_of_mem_calls_logIn h
  · cases login : b.logIn.outcome n with
    | error e =>
      rw [login] at h
      cases h
    | ok l =>
      rw [login] at h
      exact b.shows_work o l _ _ (mem_calls.1 h)

/-- The return of the token begins where the login and the work end. -/
theorem beforeRevocation_carryOut (b : Broker) (o : Operation α) (n : Network) :
    beforeRevocation ((b.carryOut o).trace n) = (b.beforeReturn o).trace n := by
  rcases b.trace_carryOut o n with ⟨e, login, eq⟩ | ⟨l, login, log, -, eq⟩
  · have all := beforeRevocation_append
      (fun c (h : c ∈ Traced.calls (b.logIn.trace n)) => isRevocation_of_mem_calls_logIn h) []
    rw [eq, beforeReturn, trace_bind, login]
    rwa [List.append_nil] at all
  · have before : (b.beforeReturn o).trace n =
        b.logIn.trace n ++ (b.work o l).trace (b.logIn.left n) := by
      rw [beforeReturn, trace_bind, login]
    rw [eq, ← List.append_assoc, ← before,
      beforeRevocation_append fun c h => isRevocation_of_mem_calls_beforeReturn h]
    -- what follows begins with the call that hands the token back
    obtain ⟨sent, revoked⟩ := trace_attempt l.revokeCall ((b.work o l).left (b.logIn.left n))
    simp [revoked, beforeRevocation, Event.call?]

/-- **The return of the token changes nothing.** Two networks that agree on the replies to all
requests before the return of the token let the same come of an operation and see the same calls,
whatever they reply from then on. -/
theorem carryOut_congr (b : Broker) (o : Operation α) {n n' : Network}
    (h : n.Agree (Traced.requests (beforeRevocation ((b.carryOut o).trace n))).length n') :
    (b.carryOut o).outcome n' = (b.carryOut o).outcome n ∧
      Traced.calls ((b.carryOut o).trace n') = Traced.calls ((b.carryOut o).trace n) := by
  rw [beforeRevocation_carryOut] at h
  obtain ⟨same, sameTrace⟩ := (b.causal_beforeReturn o).congr h
  have login : b.logIn.outcome n' = b.logIn.outcome n := by
    refine ((Login.causal_start _ _).congr (h.mono ?_)).1
    rw [beforeReturn, trace_bind, Traced.requests_append, List.length_append]
    exact Nat.le_add_right _ _
  exact ⟨by rw [outcome_carryOut, outcome_carryOut, same],
    by rw [calls_eq_append, calls_eq_append, sameTrace, login]⟩

/-- What comes of a request is the same whether the token is taken back or the connection breaks. -/
theorem requestWorkshop_broken_return :
    let b : Broker := ⟨"http://p", ⟨"http://p", "c", "s", "u", "p", []⟩⟩
    let o := Operation.request { workshop := "w" }
    let before := [.answer 200 "[\"t\"]".toUTF8.toList,
      .answer 200 "[[[\"e\",\"RUNNING\",[\"w\"]]]]".toUTF8.toList, .truncated 200]
    let n : Network := ⟨true, before ++ [.answer 200 []]⟩
    let n' : Network := ⟨true, before ++ [.broken]⟩
    n.Agree (Traced.requests (beforeRevocation ((b.carryOut o).trace n))).length n' ∧
      (b.carryOut o).outcome n' = (b.carryOut o).outcome n ∧
      Traced.calls ((b.carryOut o).trace n') = Traced.calls ((b.carryOut o).trace n) := by
  intro b o before n n'
  have agree : n.Agree 3 n' := .append true before _ _
  have h : n.Agree (Traced.requests (beforeRevocation ((b.carryOut o).trace n))).length n' := by
    rw [beforeRevocation_carryOut]
    exact agree.mono (b.length_requests_beforeReturn o n)
  exact ⟨h, carryOut_congr b o h⟩

end TrainingPortal.Broker
