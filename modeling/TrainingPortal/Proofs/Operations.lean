import TrainingPortal.Proofs.Exchange
import TrainingPortal.Proofs.Landmarks

/-!
# The operations of a login as exchanges

Each operation on a portal makes one call, or none if it can be refused or answered here; the lemma
`exchange_…` or `quiet_…` of an operation names the call and says what comes of it. What an answer
stands for is said by `Portal.expected` (is the status 200?) and `Portal.decoded` (does the body
hold a value?), which know nothing of the network. None of these operations logs an entry that
greets a login or warns of one given up (`PortalM.Plain`); only `Login.start` does, after its
exchange (`start_of_valid`).
-/

namespace TrainingPortal

open Http PortalM

/-! ## Answers -/

namespace Portal

/-- The body of an answer. -/
def received (context : String) (r : Response) : Except PortalError String :=
  match r.text? with
  | some body => .ok body
  | none => .error (.network s!"{context} (reading response)" .bodyBroken)

/-- What an answer stands for where only status 200 will do. -/
def expected (operation : String) (r : Response) : Except PortalError Unit :=
  if r.status = 200 then .ok ()
  else received operation r >>= fun body => .error (.protocol operation r.status body)

/-- The value that the body of an answer stands for. -/
def decoded {α : Type} (record : Record) (ofJson? : Json → Option α) (context : String)
    (r : Response) : Except PortalError α :=
  received context r >>= fun body =>
    match (Json.parse? body).bind ofJson? with
    | some value => .ok value
    | none => .error (.decode ⟨context, some ⟨record, body⟩⟩)

/-- What comes of a call whose answer must have status 200 and hold a value. -/
def verdict {α : Type} (record : Record) (ofJson? : Json → Option α)
    (context operation : String) (back : Except TransportFailure Response) :
    Except PortalError α :=
  back.mapError (.network context) >>= fun r =>
    expected operation r >>= fun () =>
      decoded record ofJson? "failed to decode response from training portal" r

variable {α : Type} {P : LogEntry → Prop} {record : Record}

theorem expected_eq_ok_iff {operation : String} {r : Response} {u : Unit} :
    expected operation r = .ok u ↔ r.status = 200 := by
  unfold expected
  split
  case isTrue ok => exact ⟨fun _ => ok, fun _ => rfl⟩
  case isFalse other =>
    refine ⟨fun h => ?_, fun ok => absurd ok other⟩
    obtain ⟨body, -, h⟩ := bind_eq_ok_iff.1 h
    cases h

theorem received_eq_ok_iff {context : String} {r : Response} {text : String} :
    received context r = .ok text ↔ r.text? = some text := by
  unfold received
  cases r.text? <;> simp

theorem decoded_eq_ok_iff {ofJson? : Json → Option α} {context : String} {r : Response} {a : α} :
    decoded record ofJson? context r = .ok a ↔
      ∃ text, r.text? = some text ∧ (Json.parse? text).bind ofJson? = some a := by
  rw [decoded, bind_eq_ok_iff]
  refine exists_congr fun text => and_congr received_eq_ok_iff ?_
  cases (Json.parse? text).bind ofJson? <;> simp

theorem verdict_eq_ok_iff {ofJson? : Json → Option α} {context operation : String}
    {back : Except TransportFailure Response} {a : α} :
    verdict record ofJson? context operation back = .ok a ↔
      ∃ r text, back = .ok r ∧ r.status = 200 ∧ r.text? = some text ∧
        (Json.parse? text).bind ofJson? = some a := by
  simp only [verdict, bind_eq_ok_iff, mapError_eq_ok_iff, expected_eq_ok_iff, decoded_eq_ok_iff,
    exists_const, exists_and_left]

/-- An answer without a value is no sign that something was not found. -/
theorem verdict_ne_notFound {ofJson? : Json → Option α} {context operation : String}
    {back : Except TransportFailure Response} (what : String) :
    verdict record ofJson? context operation back ≠ .error (.notFound what) := by
  have read (context : String) (r : Response) : received context r ≠ .error (.notFound what) := by
    unfold received
    cases r.text? <;> simp
  intro h
  rcases bind_eq_error_iff.1 h with h | ⟨r, -, h⟩
  · cases back <;> cases h
  · rcases bind_eq_error_iff.1 h with h | ⟨_, -, h⟩
    · unfold expected at h
      split at h
      · cases h
      · rcases bind_eq_error_iff.1 h with h | ⟨body, -, h⟩
        · exact read _ _ h
        · cases h
    · rcases bind_eq_error_iff.1 h with h | ⟨text, -, h⟩
      · exact read _ _ h
      · cases hv : (Json.parse? text).bind ofJson? <;> rw [hv] at h <;> cases h

theorem quiet_readBody (context : String) (r : Response) :
    Quiet P (readBody context r) (received context r) := by
  unfold readBody received
  cases r.text? with
  | some body => exact .pure body
  | none => exact .throw _

theorem quiet_expectOk (h : ∀ text, P ⟨.debug, .calls, text⟩) (operation : String) (r : Response) :
    Quiet P (expectOk operation r) (expected operation r) := by
  unfold expectOk expected
  refine (Quiet.log (h _)).bind_ok ?_
  by_cases ok : r.status = 200
  · rw [if_pos ok, if_neg (not_not.2 ok)]
    exact .pure ()
  · rw [if_neg ok, if_pos ok]
    exact (quiet_readBody operation r).bind fun body => .throw _

theorem quiet_decodeBody (record : Record) (ofJson? : Json → Option α) (context : String)
    (r : Response) :
    Quiet P (decodeBody record ofJson? context r) (decoded record ofJson? context r) := by
  refine (quiet_readBody context r).bind fun body => ?_
  cases (Json.parse? body).bind ofJson? with
  | some value => exact .pure value
  | none => exact .throw _

end Portal

/-! ## Plain operations -/

namespace PortalM

/-- `x` makes at most one call, and nothing about it begins or ends a login. -/
inductive Plain {α : Type} (x : PortalM α) : Prop
  | quiet {r : Except PortalError α} (h : Quiet LogEntry.Neutral x r)
  | exchange {c : Call} {judge : Except TransportFailure Response → Except PortalError α}
      (h : Exchange LogEntry.Neutral x c judge) (kept : c.isRevocation = false)

namespace Plain

variable {α : Type} {x : PortalM α}

theorem causal : Plain x → Causal x
  | .quiet h => h.causal
  | .exchange h _ => h.causal

theorem length_requests (n : Network) : Plain x → (Traced.requests (x.trace n)).length ≤ 1
  | .quiet h => by simp [h.requests_eq n]
  | .exchange h _ => h.length_requests n

/-- Whatever holds of neutral entries, of calls that hand no token back and of requests holds of
all that a plain operation shows. -/
theorem shows_of {Q : Event → Prop} (logged : ∀ e : LogEntry, e.Neutral → Q (.logged e))
    (called : ∀ c : Call, c.isRevocation = false → Q (.called c)) (sent : ∀ r, Q (.sent r)) :
    Plain x → Shows Q x
  | .quiet h => h.shows logged
  | .exchange h kept => h.shows logged (called _ kept) sent

theorem shows (h : Plain x) : Shows Event.Neutral x :=
  h.shows_of (fun _ he => he) (fun _ kept => kept) fun _ => trivial

end Plain

end PortalM

theorem Credentials.validate_eq_ok_iff {c : Credentials} :
    c.validate = .ok () ↔ (Text.trim c.url).isEmpty = false ∧ c.username.isEmpty = false ∧
      c.password.isEmpty = false := by
  unfold validate
  cases (Text.trim c.url).isEmpty <;> cases c.username.isEmpty <;> cases c.password.isEmpty <;>
    simp

/-! ## Operations -/

namespace Login

open Portal LogEntry

/-- What comes of asking for a token. -/
def tokenVerdict (back : Except TransportFailure Response) : Except PortalError Token :=
  back.mapError (.network "cannot connect to training portal") >>= fun r =>
    if r.status = 200 then decoded .token Token.ofJson? "cannot decode auth details" r
    else .error (.auth r.status)

theorem exchange_requestToken (base : String) (c : Credentials) :
    Exchange Neutral (requestToken base c) (tokenCall base c) tokenVerdict := by
  have greets : isGreeting ⟨.info, .login,
      s!"Logging in to training portal {base} as {c.username}"⟩ = false := by
    simp [isGreeting, toString, List.isPrefixOf]
  refine (Quiet.log ⟨greets, rfl⟩).bind_exchange ((Exchange.call _ _).bind fun r => ?_)
  refine (Quiet.log ⟨rfl, rfl⟩).bind_ok ?_
  by_cases ok : r.status = 200
  · rw [if_pos ok, if_neg (not_not.2 ok)]
    exact quiet_decodeBody _ _ _ _
  · rw [if_neg ok, if_pos ok]
    exact (Quiet.throw _).bind_error

/-- The login that a token makes. -/
def ofToken (base : String) (c : Credentials) (token : Token) : Login :=
  { base, token, clientId := c.clientId, clientSecret := c.clientSecret }

/-- Credentials that cannot be right are refused before any call. -/
theorem quiet_start {c : Credentials} {e : PortalError} (h : c.validate = .error e)
    (base : String) : Quiet Neutral (start base c) (.error e) := by
  have refused : Quiet Neutral (c.validate : PortalM Unit) (.error e) :=
    ⟨[], by simp, fun n => by rw [h]; rfl⟩
  exact refused.bind_error

theorem start_of_valid {c : Credentials} (h : c.validate = .ok ()) (base : String) :
    start base c = requestToken base c >>= fun token => do
      Traced.log .info .login s!"Logged in to training portal {base}"
      return ofToken base c token := by
  have checked : (liftM (.ok () : Except PortalError Unit) : PortalM Unit) = pure () := rfl
  rw [start, h, checked, pure_bind]
  rfl

theorem exchange_start {c : Credentials} (h : c.validate = .ok ()) (base : String) :
    Exchange (fun _ => True) (start base c) (tokenCall base c) fun back =>
      tokenVerdict back >>= fun token => .ok (ofToken base c token) := by
  rw [start_of_valid h]
  exact (Exchange.mono (exchange_requestToken base c) fun _ _ => trivial).bind fun token =>
    (Quiet.log trivial).bind_ok (.pure _)

/-- A login calls the portal exactly if the credentials may be right. -/
theorem calls_start (base : String) (c : Credentials) (n : Network) :
    Traced.calls ((start base c).trace n) =
      match c.validate with
      | .ok () => [tokenCall base c]
      | .error _ => [] := by
  cases h : c.validate with
  | ok => exact (exchange_start h base).calls_eq n
  | error e => exact (quiet_start h base).calls_eq n

theorem causal_start (base : String) (c : Credentials) : Causal (start base c) := by
  cases h : c.validate with
  | ok => exact (exchange_start h base).causal
  | error e => exact (quiet_start h base).causal

theorem length_requests_start (base : String) (c : Credentials) (n : Network) :
    (Traced.requests ((start base c).trace n)).length ≤ 1 := by
  cases h : c.validate with
  | ok => exact (exchange_start h base).length_requests n
  | error e => simp [(quiet_start h base).requests_eq n]

/-- A portal that answers the call for a token with one lets in whoever may be right. -/
theorem start_of_answer {base : String} {c : Credentials} {n : Network} {r : Request}
    {body : List UInt8} {token : Token} (valid : c.validate = .ok ())
    (departs : (tokenCall base c).departure n.connected = .ok r)
    (answered : n.replyAt 0 = .answer 200 body)
    (decodes : decoded .token Token.ofJson? "cannot decode auth details" ⟨200, some body⟩ =
      .ok token) :
    (start base c).outcome n = .ok (ofToken base c token) := by
  rw [(exchange_start valid base).outcome_eq, attempt_of_departure departs, answered]
  change (decoded .token Token.ofJson? "cannot decode auth details" ⟨200, some body⟩ >>= _) = _
  rw [decodes]
  rfl

theorem validate_of_start {base : String} {c : Credentials} {n : Network} {l : Login}
    (h : (start base c).outcome n = .ok l) : c.validate = .ok () := by
  cases hv : c.validate with
  | ok => rfl
  | error e =>
    rw [(quiet_start hv base).outcome_eq] at h
    cases h

/-- A login belongs to the portal and the client for which it was made. -/
theorem eq_ofToken_of_start {base : String} {c : Credentials} {n : Network} {l : Login}
    (h : (start base c).outcome n = .ok l) : ∃ token, l = ofToken base c token := by
  rw [(exchange_start (validate_of_start h) base).outcome_eq] at h
  obtain ⟨token, -, h⟩ := bind_eq_ok_iff.1 h
  exact ⟨token, (Except.ok.inj h).symm⟩

/-- What comes of asking for the catalog. -/
def catalogVerdict : Except TransportFailure Response → Except PortalError (List Environment) :=
  verdict .catalog Environment.listingOfJson? "failed to request catalog from training portal"
    "request for catalog from training portal"

theorem exchange_listEnvironments (l : Login) :
    Exchange Neutral l.listEnvironments l.catalogCall catalogVerdict := by
  refine (Quiet.log ⟨rfl, rfl⟩).bind_exchange ((Exchange.call _ _).bind fun r => ?_)
  refine (quiet_expectOk (fun _ => ⟨rfl, rfl⟩) _ _).bind fun () => ?_
  exact (quiet_decodeBody _ _ _ _).bind_keep fun es => (Quiet.log ⟨rfl, rfl⟩).bind_ok (.pure es)

theorem plain_listEnvironments (l : Login) : Plain l.listEnvironments :=
  .exchange l.exchange_listEnvironments l.isRevocation_catalogCall

/-- What the catalog offers for a workshop. -/
def offer (workshop : String) (es : List Environment) : Except PortalError FoundEnvironment :=
  match Environment.select? es workshop with
  | none => .error (.noEnvironment workshop)
  | some e => .ok ⟨e.name, some (Environment.workshopsOf es e.name)⟩

/-- An environment that is named is taken as it is. -/
theorem quiet_findEnvironment {named : String} (h : named ≠ "") (l : Login) (workshop : String) :
    Quiet Neutral (l.findEnvironment workshop named) (.ok ⟨named, none⟩) := by
  rw [findEnvironment, if_pos (by simpa using h)]
  exact (Quiet.log ⟨rfl, rfl⟩).bind_ok (.pure _)

theorem exchange_findEnvironment (l : Login) (workshop : String) :
    Exchange Neutral (l.findEnvironment workshop "") l.catalogCall fun back =>
      catalogVerdict back >>= offer workshop := by
  rw [findEnvironment, if_neg (by simp)]
  refine (exchange_listEnvironments l).bind fun es => ?_
  unfold offer
  cases Environment.select? es workshop with
  | none => exact .throw _
  | some e => exact (Quiet.log ⟨rfl, rfl⟩).bind_ok (.pure _)

theorem plain_findEnvironment (l : Login) (workshop named : String) :
    Plain (l.findEnvironment workshop named) := by
  by_cases h : named = ""
  · subst h
    exact .exchange (l.exchange_findEnvironment workshop) l.isRevocation_catalogCall
  · exact .quiet (quiet_findEnvironment h l workshop)

/-- What the catalog offers comes with the workshops that it lists. -/
theorem listed_of_offer {workshop : String} {es : List Environment} {found : FoundEnvironment}
    (h : offer workshop es = .ok found) : ∃ workshops, found.workshops = some workshops := by
  unfold offer at h
  cases chosen : Environment.select? es workshop with
  | none =>
    rw [chosen] at h
    cases h
  | some e =>
    rw [chosen] at h
    cases h
    exact ⟨_, rfl⟩

/-- What comes of requesting a session. -/
def sessionVerdict : Except TransportFailure Response → Except PortalError Session :=
  verdict .session Session.ofJson? "failed to request workshop from training portal"
    "request for workshop from training portal"

/-- A workshop that is not among those known is refused before any call. -/
theorem quiet_requestSession {r : SessionRequest} {known : List String} (h : r.workshop ∉ known)
    (l : Login) :
    Quiet Neutral (l.requestSession r (some known)) (.error (.unknownWorkshop r.workshop)) := by
  rw [requestSession, if_pos (by simpa using h)]
  exact (Quiet.throw _).bind_error

theorem exchange_requestSession {r : SessionRequest} {known : Option (List String)}
    (h : ∀ workshops, known = some workshops → r.workshop ∈ workshops) (l : Login) :
    Exchange Neutral (l.requestSession r known) (l.requestCall r) sessionVerdict := by
  have allowed : known.any (!·.contains r.workshop) = false := by
    cases known with
    | none => rfl
    | some workshops => simpa using h workshops rfl
  rw [requestSession, if_neg (allowed ▸ Bool.false_ne_true)]
  refine (Quiet.log ⟨rfl, rfl⟩).bind_exchange ((Quiet.log ⟨rfl, rfl⟩).bind_exchange ?_)
  refine (Exchange.call _ _).bind fun a => ?_
  refine (quiet_expectOk (fun _ => ⟨rfl, rfl⟩) _ _).bind fun () => ?_
  exact (quiet_decodeBody _ _ _ _).bind_keep fun s => (Quiet.log ⟨rfl, rfl⟩).bind_ok (.pure s)

theorem plain_requestSession (l : Login) (r : SessionRequest) (known : Option (List String)) :
    Plain (l.requestSession r known) := by
  by_cases h : ∀ workshops, known = some workshops → r.workshop ∈ workshops
  · exact .exchange (exchange_requestSession h l) (l.isRevocation_requestCall r)
  · obtain ⟨workshops, h⟩ := not_forall.1 h
    obtain ⟨rfl, mem⟩ := Classical.not_imp.1 h
    exact .quiet (quiet_requestSession mem l)

/-- What comes of terminating a session. -/
def statusVerdict (session : String) (back : Except TransportFailure Response) :
    Except PortalError SessionStatus :=
  back.mapError (.network "failed to terminate session on training portal") >>= fun r =>
    if r.status = 404 then .error (.unknownSession session)
    else expected "request to terminate session" r >>= fun () =>
      decoded .status SessionStatus.ofJson? "failed to decode session status from training portal" r

theorem exchange_terminateSession (l : Login) (session : String) :
    Exchange Neutral (l.terminateSession session) (l.terminateCall session)
      (statusVerdict session) := by
  refine (Quiet.log ⟨rfl, rfl⟩).bind_exchange ((Exchange.call _ _).bind fun r => ?_)
  by_cases missing : r.status = 404
  · rw [if_pos missing, if_pos missing]
    exact (Quiet.throw _).bind_error
  · rw [if_neg missing, if_neg missing]
    exact (quiet_expectOk (fun _ => ⟨rfl, rfl⟩) _ _).bind fun () => quiet_decodeBody _ _ _ _

theorem plain_terminateSession (l : Login) (session : String) :
    Plain (l.terminateSession session) :=
  .exchange (l.exchange_terminateSession session) (l.isRevocation_terminateCall session)

/-- Handing a token back is one call and an entry of the log. -/
theorem run_revoke (l : Login) (n : Network) :
    ∃ e : LogEntry, e.Neutral ∧ l.revoke n =
      ⟨((), (attempt l.revokeCall n).value.2),
        (attempt l.revokeCall n).trace ++ [.logged e]⟩ := by
  rw [revoke, NetworkM.run_bind]
  cases (attempt l.revokeCall n).value.1 with
  | ok r => exact ⟨⟨.debug, .login, _⟩, ⟨rfl, rfl⟩, rfl⟩
  | error failure =>
    refine ⟨⟨.warn, .login, s!"Failed to revoke access token: {failure.message}"⟩, ⟨rfl, ?_⟩, rfl⟩
    simp [isDropWarning, toString, List.isPrefixOf]

end Login

end TrainingPortal
