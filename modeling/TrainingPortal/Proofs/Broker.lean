import TrainingPortal.Portal.Broker
import TrainingPortal.Proofs.Operations

/-!
# What an operation of a broker does

Every operation of a broker is some work between a login and the return of its token
(`run_withLogin`). The three kinds of work are put together from exchanges, so each is causal
(`causal_work`), makes the calls that belong to it and no others (`calls_work`), and lets nothing
show that tells of a login (`shows_work`).
-/

namespace TrainingPortal

open Http

namespace PortalM

variable {α β : Type}

/-- A computation over the network that cannot fail, before an operation. -/
theorem run_lift_bind (x : NetworkM α) (f : α → PortalM β) (n : Network) :
    ((ExceptT.lift x : PortalM α) >>= f) n =
      ⟨(f (x n).value.1 (x n).value.2).value,
        (x n).trace ++ (f (x n).value.1 (x n).value.2).trace⟩ := by
  have ho : outcome (ExceptT.lift x) n = .ok (x n).value.1 := rfl
  have hl : left (ExceptT.lift x) n = (x n).value.2 := rfl
  have ht : trace (ExceptT.lift x) n = (x n).trace := List.append_nil _
  rw [run_bind, ho, hl, ht]

end PortalM

open PortalM

namespace Broker

variable {α : Type}

/-- The login with which every operation begins. -/
abbrev logIn (b : Broker) : PortalM Login := Login.start b.base b.credentials

/-- **What an operation does**: nothing but the login if that fails, else the work, the return of
the token and a last entry of the log. -/
theorem run_withLogin (b : Broker) (work : Login → PortalM α) (finished : Traced Unit)
    (n : Network) :
    b.withLogin work finished n =
      match b.logIn.outcome n with
      | .error e => ⟨(.error e, b.logIn.left n), b.logIn.trace n⟩
      | .ok l =>
        let done := l.revoke ((work l).left (b.logIn.left n))
        ⟨((work l).outcome (b.logIn.left n), done.value.2),
          b.logIn.trace n ++
            ((work l).trace (b.logIn.left n) ++ (done.trace ++ finished.trace))⟩ := by
  rw [withLogin, run_bind]
  cases b.logIn.outcome n with
  | error e => rfl
  | ok l =>
    have hrevoke : (liftM l.revoke : PortalM Unit) = ExceptT.lift l.revoke := rfl
    have hfinished : (liftM finished : PortalM Unit) = ExceptT.lift (liftM finished) := rfl
    have hlogged (m : Network) : (liftM finished : NetworkM Unit) m =
        ⟨((), m), finished.trace ++ []⟩ := rfl
    have hreturn (o : Except PortalError α) (m : Network) :
        (ExceptT.mk (pure o) : PortalM α) m = ⟨(o, m), []⟩ := rfl
    simp only [run_lift_bind, hrevoke, hfinished, hlogged, hreturn, List.append_nil]
    rfl

theorem outcome_withLogin (b : Broker) (work : Login → PortalM α) (finished : Traced Unit)
    (n : Network) :
    (b.withLogin work finished).outcome n =
      b.logIn.outcome n >>= fun l => (work l).outcome (b.logIn.left n) := by
  rw [outcome, run_withLogin]
  cases b.logIn.outcome n <;> rfl

/-! ## Requesting a session -/

section Request

open LogEntry Login

/-- Whether it takes a call to find out where a session is to be requested. -/
def AsksCatalog (b : Broker) (r : SessionRequest) : Prop :=
  r.environment = "" ∨ b.credentials.workshops = []

instance (b : Broker) (r : SessionRequest) : Decidable (b.AsksCatalog r) :=
  inferInstanceAs (Decidable (_ ∨ _))

/-- The environment of a request with the workshops that it is known to serve, given what comes back
from the catalog. -/
def resolution (b : Broker) (r : SessionRequest) (back : Except TransportFailure Response) :
    Except PortalError (String × List String) :=
  if r.environment = "" then
    catalogVerdict back >>= offer r.workshop >>= fun found =>
      .ok (found.name, found.workshops.getD [])
  else if b.credentials.workshops = [] then
    catalogVerdict back >>= fun es =>
      .ok (r.environment, Environment.workshopsOf es r.environment)
  else .ok (r.environment, b.credentials.workshops)

/-- The environment of a resolution, if it is known to serve the workshop. -/
def admitted (workshop : String) (found : String × List String) : Except PortalError String :=
  if workshop ∈ found.2 then .ok found.1 else .error (.unknownWorkshop workshop)

/-- The environment in which a session is requested, given what comes back from the catalog. -/
def target (b : Broker) (r : SessionRequest) (back : Except TransportFailure Response) :
    Except PortalError String :=
  b.resolution r back >>= admitted r.workshop

/-- The call for a session, if there is an environment in which to request it. -/
def sessionCalls (r : SessionRequest) (l : Login) : Except PortalError String → List Call
  | .ok environment => [l.requestCall { r with environment }]
  | .error _ => []

theorem mem_sessionCalls_iff {r : SessionRequest} {l : Login} {goal : Except PortalError String}
    {c : Call} : c ∈ sessionCalls r l goal ↔
      ∃ environment, goal = .ok environment ∧ c = l.requestCall { r with environment } := by
  cases goal <;> simp [sessionCalls]

variable {b : Broker} {r : SessionRequest}

theorem quiet_resolve (h : ¬ b.AsksCatalog r) (l : Login)
    (back : Except TransportFailure Response) :
    Quiet Neutral (b.resolve r l) (b.resolution r back) := by
  obtain ⟨named, registered⟩ := not_or.1 h
  rw [resolution, if_neg named, if_neg registered]
  refine (quiet_findEnvironment named l r.workshop).bind_ok ?_
  rw [knownWorkshops, if_pos (by simpa using registered)]
  exact (Quiet.pure _).bind_ok (.pure _)

theorem exchange_resolve (h : b.AsksCatalog r) (l : Login) :
    Exchange Neutral (b.resolve r l) l.catalogCall (b.resolution r) := by
  unfold resolution
  by_cases unnamed : r.environment = ""
  · simp only [if_pos unnamed]
    rw [resolve, unnamed]
    refine (l.exchange_findEnvironment r.workshop).bind_of fun back found offered => ?_
    obtain ⟨es, -, offered⟩ := bind_eq_ok_iff.1 offered
    obtain ⟨workshops, said⟩ := listed_of_offer offered
    rw [knownWorkshops, said]
    exact (Quiet.pure _).bind_ok (.pure _)
  · have registered := h.resolve_left unnamed
    simp only [if_neg unnamed, if_pos registered]
    refine (quiet_findEnvironment unnamed l r.workshop).bind_exchange ?_
    have known : Exchange Neutral (b.knownWorkshops l ⟨r.environment, none⟩) l.catalogCall
        fun back => catalogVerdict back >>= fun es =>
          .ok (Environment.workshopsOf es r.environment) := by
      rw [knownWorkshops, if_neg (by simpa using registered)]
      exact (Quiet.log ⟨rfl, rfl⟩).bind_exchange (l.exchange_listEnvironments.bind fun _ => .pure _)
    refine (known.bind fun _ => .pure _).congr fun back => ?_
    cases catalogVerdict back <;> rfl

theorem plain_resolve (b : Broker) (r : SessionRequest) (l : Login) : Plain (b.resolve r l) := by
  by_cases asks : b.AsksCatalog r
  · exact .exchange (exchange_resolve asks l) l.isRevocation_catalogCall
  · exact .quiet (quiet_resolve asks l (.error .invalidHeader))

theorem run_requestSession (known : List String) (l : Login) (n : Network) :
    Traced.calls ((l.requestSession r (some known)).trace n) =
      (if r.workshop ∈ known then [l.requestCall r] else []) ∧
    (l.requestSession r (some known)).outcome n =
      if r.workshop ∈ known then sessionVerdict (attempt (l.requestCall r) n).value.1
      else .error (.unknownWorkshop r.workshop) := by
  split
  case isTrue mem =>
    have request : Exchange Neutral (l.requestSession r (some known)) _ _ :=
      exchange_requestSession (fun _ h => Option.some.inj h ▸ mem) l
    exact ⟨request.calls_eq n, request.outcome_eq n⟩
  case isFalse mem =>
    have refused := quiet_requestSession mem l
    exact ⟨refused.calls_eq n, refused.outcome_eq n⟩

/-- The network when it is known where a session is to be requested. -/
def resolved (b : Broker) (r : SessionRequest) (l : Login) (n : Network) : Network :=
  if b.AsksCatalog r then (attempt l.catalogCall n).value.2 else n

theorem run_resolve (l : Login) (n : Network) :
    Traced.calls ((b.resolve r l).trace n) =
      (if b.AsksCatalog r then [l.catalogCall] else []) ∧
    (b.resolve r l).outcome n = b.resolution r (attempt l.catalogCall n).value.1 ∧
    (b.resolve r l).left n = b.resolved r l n := by
  unfold resolved
  split
  case isTrue asks =>
    have resolves := exchange_resolve asks l
    exact ⟨resolves.calls_eq n, resolves.outcome_eq n, resolves.left_eq n⟩
  case isFalse asks =>
    have resolves := quiet_resolve asks l (attempt l.catalogCall n).value.1
    exact ⟨resolves.calls_eq n, resolves.outcome_eq n, resolves.left_eq n⟩

/-- **The work of a request**: the catalog is asked where that is needed, and a session is requested
where that leads to an environment. -/
theorem run_requestWith (b : Broker) (r : SessionRequest) (l : Login) (n : Network) :
    Traced.calls ((b.requestWith r l).trace n) =
      (if b.AsksCatalog r then [l.catalogCall] else []) ++
        sessionCalls r l (b.target r (attempt l.catalogCall n).value.1) ∧
    (b.requestWith r l).outcome n =
      b.target r (attempt l.catalogCall n).value.1 >>= fun environment =>
        sessionVerdict
          (attempt (l.requestCall { r with environment }) (b.resolved r l n)).value.1 := by
  obtain ⟨hcalls, houtcome, hleft⟩ := run_resolve (b := b) (r := r) l n
  rw [requestWith, calls_bind, outcome_bind, hcalls, houtcome, hleft, target]
  cases b.resolution r (attempt l.catalogCall n).value.1 with
  | error e => exact ⟨rfl, rfl⟩
  | ok found =>
    obtain ⟨environment, known⟩ := found
    obtain ⟨hc, ho⟩ := run_requestSession (r := { r with environment }) known l (b.resolved r l n)
    change _ ++ Traced.calls ((l.requestSession { r with environment } (some known)).trace _) = _ ∧
      (l.requestSession { r with environment } (some known)).outcome _ = _
    rw [hc, ho]
    by_cases mem : r.workshop ∈ known
    · have goes : (.ok (environment, known) >>= admitted r.workshop) = .ok environment := if_pos mem
      rw [goes, if_pos mem, if_pos mem]
      exact ⟨rfl, rfl⟩
    · have stays : (.ok (environment, known) >>= admitted r.workshop) =
          .error (.unknownWorkshop r.workshop) := if_neg mem
      rw [stays, if_neg mem, if_neg mem]
      exact ⟨rfl, rfl⟩

end Request

/-! ## The operations -/

/-- An operation of a broker with its arguments, by what it returns. -/
inductive Operation : Type → Type 1
  | request (r : SessionRequest) : Operation Session
  | terminate (session : String) : Operation SessionStatus
  | list : Operation (List Environment)

/-- Carries out an operation. -/
def carryOut (b : Broker) : {α : Type} → Operation α → PortalM α
  | _, .request r => b.requestWorkshop r
  | _, .terminate session => b.terminateSession session
  | _, .list => b.listEnvironments

/-- What an operation does with the login. -/
def work (b : Broker) : {α : Type} → Operation α → Login → PortalM α
  | _, .request r, l => b.requestWith r l
  | _, .terminate session, l => l.terminateSession session
  | _, .list, l => l.listEnvironments

/-- The calls that may be the work of an operation: for a request at most the catalog and then at
most one session, for the others exactly one call. -/
def Operation.Work (l : Login) : {α : Type} → Operation α → List Call → Prop
  | _, .request r, calls => ∃ catalog session, calls = catalog ++ session ∧
      (catalog = [] ∨ catalog = [l.catalogCall]) ∧
      (session = [] ∨ ∃ environment, session = [l.requestCall { r with environment }])
  | _, .terminate session, calls => calls = [l.terminateCall session]
  | _, .list, calls => calls = [l.catalogCall]

variable {α : Type}

theorem carryOut_eq (o : Operation α) :
    ∃ log : List LogEntry, (∀ e ∈ log, e.Neutral) ∧
      ∀ b : Broker, b.carryOut o = b.withLogin (b.work o) ⟨(), log.map .logged⟩ := by
  cases o with
  | request r =>
    exact ⟨[⟨.debug, .broker, "Session request finished, token revoked"⟩], by
      simp [LogEntry.Neutral, LogEntry.isGreeting, LogEntry.isDropWarning], fun _ => rfl⟩
  | terminate session =>
    exact ⟨[⟨.debug, .broker, "Session termination finished, token revoked"⟩], by
      simp [LogEntry.Neutral, LogEntry.isGreeting, LogEntry.isDropWarning], fun _ => rfl⟩
  | list => exact ⟨[], by simp, fun _ => rfl⟩

theorem calls_work (b : Broker) (o : Operation α) (l : Login) (n : Network) :
    o.Work l (Traced.calls ((b.work o l).trace n)) := by
  cases o with
  | request r =>
    refine ⟨_, _, (run_requestWith b r l n).1, ?_, ?_⟩
    · by_cases asks : b.AsksCatalog r
      · exact .inr (if_pos asks)
      · exact .inl (if_neg asks)
    · cases b.target r (attempt l.catalogCall n).value.1 with
      | ok environment => exact .inr ⟨environment, rfl⟩
      | error e => exact .inl rfl
  | terminate session => exact (l.exchange_terminateSession session).calls_eq n
  | list => exact l.exchange_listEnvironments.calls_eq n

/-- The work of an operation sees no replies but those it takes. -/
theorem causal_work (b : Broker) (o : Operation α) (l : Login) : Causal (b.work o l) := by
  cases o with
  | request r =>
    exact (b.plain_resolve r l).causal.bind fun _ => (l.plain_requestSession _ _).causal
  | terminate session => exact (l.plain_terminateSession session).causal
  | list => exact l.plain_listEnvironments.causal

/-- The work of an operation takes at most two replies. -/
theorem length_requests_work (b : Broker) (o : Operation α) (l : Login) (n : Network) :
    (Traced.requests ((b.work o l).trace n)).length ≤ 2 := by
  cases o with
  | request r =>
    have resolves := (b.plain_resolve r l).length_requests n
    change (Traced.requests ((b.resolve r l >>= _).trace n)).length ≤ 2
    rw [trace_bind, Traced.requests_append, List.length_append]
    cases (b.resolve r l).outcome n with
    | error e => exact Nat.add_le_add resolves (Nat.zero_le 1)
    | ok found =>
      exact Nat.add_le_add resolves ((l.plain_requestSession _ _).length_requests _)
  | terminate session =>
    exact Nat.le_succ_of_le ((l.plain_terminateSession session).length_requests n)
  | list => exact Nat.le_succ_of_le (l.plain_listEnvironments.length_requests n)

/-- What all plain operations show is what the work of an operation shows. -/
theorem shows_work_of {Q : Event → Prop} (plain : ∀ {β : Type} {x : PortalM β}, Plain x → Shows Q x)
    (b : Broker) (o : Operation α) (l : Login) : Shows Q (b.work o l) := by
  cases o with
  | request r =>
    exact (plain (b.plain_resolve r l)).bind fun _ => plain (l.plain_requestSession _ _)
  | terminate session => exact plain (l.plain_terminateSession session)
  | list => exact plain l.plain_listEnvironments

/-- The work of an operation neither begins nor ends a login. -/
theorem shows_work (b : Broker) (o : Operation α) (l : Login) :
    Shows Event.Neutral (b.work o l) :=
  shows_work_of Plain.shows b o l

end Broker

end TrainingPortal
