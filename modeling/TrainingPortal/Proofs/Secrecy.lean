import TrainingPortal.Failure
import TrainingPortal.Proofs.Discipline
import TrainingPortal.Proofs.Likeness
import TrainingPortal.Proofs.Tokens

/-!
# Secrets stay secret

What a broker reports does not depend on the secrets that it handles. Two runs of an operation are
compared, first with credentials that differ in the client's secret and the password, then on
networks that differ in the tokens proper that the login is answered with. In both cases the two
runs are `RunsAlike`: the same comes of them, they log the same, what is shown of credentials and
login is the same, and the requests are the same but for those headers and bodies that carry the
secrets (`Purpose.ofCredentials`, `Purpose.ofTokens`). A run is a login, some work and the return of
the token, so it is compared piece by piece (`runsAlike_of_login`).

There is one exception, beneath an error. An answer to the login that cannot be decoded is kept with
the error, and what is printed of it, such as the column in which its reader gave up, can depend on
the length of the token (`Broker.column_tells_length`).
-/

namespace TrainingPortal

open Http PortalM

/-! ## Requests and what they are for -/

/-- What a request of an operation is sent for. -/
inductive Purpose
  | login
  | work
  | revocation
  deriving DecidableEq

namespace Purpose

/-- Where the client's secret and the password go. -/
def ofCredentials : Purpose → Veil
  | login => { authorization := true, body := true }
  | work => {}
  | revocation => { body := true }

/-- Where the access token goes. -/
def ofTokens : Purpose → Veil
  | login => {}
  | work => { authorization := true }
  | revocation => { authorization := true, body := true }

/-- A request and its purpose as they are seen through the veil for that purpose. -/
def view (veil : Purpose → Veil) (e : Purpose × Request) : Purpose × Request :=
  (e.1, (veil e.1).view e.2)

theorem map_view_of {veil : Purpose → Veil} {requests requests' : List Request} (p : Purpose)
    (h : requests'.map (veil p).view = requests.map (veil p).view) :
    (requests'.map (p, ·)).map (view veil) = (requests.map (p, ·)).map (view veil) := by
  have labelled := congrArg (List.map (p, ·)) h
  rw [List.map_map, List.map_map] at labelled ⊢
  exact labelled

end Purpose

theorem Login.alike_revoke {v : Veil} {l l' : Login} (h : l.revokeCall.Alike v l'.revokeCall)
    (n : Network) :
    Traced.entries (l'.revoke n).trace = Traced.entries (l.revoke n).trace ∧
      (Traced.requests (l'.revoke n).trace).map v.view =
        (Traced.requests (l.revoke n).trace).map v.view := by
  rw [revoke, revoke, NetworkM.run_bind, NetworkM.run_bind, h.value_attempt]
  simp only [Traced.entries_append, Traced.requests_append, List.map_append, entries_attempt,
    h.requests_attempt, and_self]

namespace Broker

variable {α : Type}

/-- The requests of an operation with what each is sent for, in order. -/
def errands (b : Broker) (o : Operation α) (n : Network) : List (Purpose × Request) :=
  (Traced.requests (b.logIn.trace n)).map (.login, ·) ++
    match b.logIn.outcome n with
    | .error _ => []
    | .ok l =>
      let m := b.logIn.left n
      (Traced.requests ((b.work o l).trace m)).map (.work, ·) ++
        (Traced.requests (l.revoke ((b.work o l).left m)).trace).map (.revocation, ·)

theorem requests_carryOut (b : Broker) (o : Operation α) (n : Network) :
    Traced.requests ((b.carryOut o).trace n) = (b.errands o n).map Prod.snd := by
  obtain ⟨log, -, carries⟩ := carryOut_eq o
  have unlabelled (p : Purpose) (requests : List Request) :
      (requests.map (p, ·)).map Prod.snd = requests := by
    rw [List.map_map]
    exact List.map_id _
  rw [carries, PortalM.trace, run_withLogin, errands]
  cases b.logIn.outcome n with
  | error e => simp only [List.append_nil, unlabelled]
  | ok l => simp [unlabelled]

/-- Whether two runs of an operation can be told apart only by what the veils hide of their
requests, and by what `see` does not see of their errors. -/
structure RunsAlike (see : PortalError → PortalError) (veil : Purpose → Veil) (o : Operation α)
    (b : Broker) (n : Network) (b' : Broker) (n' : Network) : Prop where
  outcome : ((b'.carryOut o).outcome n').mapError see = ((b.carryOut o).outcome n).mapError see
  log : Traced.entries ((b'.carryOut o).trace n') = Traced.entries ((b.carryOut o).trace n)
  requests : (b'.errands o n').map (Purpose.view veil) = (b.errands o n).map (Purpose.view veil)
  credentials : b'.credentials.describe = b.credentials.describe
  login : ((b'.logIn.outcome n').map Login.describe).mapError see =
    ((b.logIn.outcome n).map Login.describe).mapError see

/-! ## Runs piece by piece -/

variable {see : PortalError → PortalError} {veil : Purpose → Veil} {o : Operation α}
  {b b' : Broker} {n n' : Network}

/-- A run is over if its login fails. -/
theorem runsAlike_of_refused {e e' : PortalError} (refused : b.logIn.outcome n = .error e)
    (refused' : b'.logIn.outcome n' = .error e') (same : see e' = see e)
    (log : Traced.entries (b'.logIn.trace n') = Traced.entries (b.logIn.trace n))
    (requests : (Traced.requests (b'.logIn.trace n')).map (veil .login).view =
      (Traced.requests (b.logIn.trace n)).map (veil .login).view)
    (credentials : b'.credentials.describe = b.credentials.describe) :
    RunsAlike see veil o b n b' n' := by
  obtain ⟨last, -, carries⟩ := carryOut_eq o
  refine ⟨?_, ?_, ?_, credentials, ?_⟩
  · rw [carries, carries, outcome_withLogin, outcome_withLogin, refused, refused']
    exact congrArg Except.error same
  · simp only [carries, PortalM.trace, run_withLogin, refused, refused']
    exact log
  · simp only [errands, refused, refused', List.append_nil]
    exact Purpose.map_view_of .login requests
  · rw [refused, refused']
    exact congrArg Except.error same

/-- Runs whose logins look alike look alike if what the logins are used for does. -/
theorem runsAlike_of_login {V : Login → Login → Prop}
    (login : AlikeOn see (veil .login) V b.logIn n b'.logIn n')
    (work : ∀ l l', V l l' → Alike see (veil .work) (· = ·) (b.work o l) (b'.work o l'))
    (revocation : ∀ l l', V l l' → l.revokeCall.Alike (veil .revocation) l'.revokeCall)
    (describe : ∀ l l', V l l' → l'.describe = l.describe)
    (credentials : b'.credentials.describe = b.credentials.describe) :
    RunsAlike see veil o b n b' n' := by
  obtain ⟨outcome, left, log, requests⟩ := login
  obtain ⟨e, e', refused, refused', same⟩ | ⟨l, l', made, made', h⟩ := related_iff.1 outcome
  · exact runsAlike_of_refused refused refused' same log requests credentials
  obtain ⟨last, -, carries⟩ := carryOut_eq o
  have works := work l l' h (b.logIn.left n)
  have revokes := Login.alike_revoke (revocation l l' h) ((b.work o l).left (b.logIn.left n))
  refine ⟨?_, ?_, ?_, credentials, ?_⟩
  · rw [carries, carries, outcome_withLogin, outcome_withLogin, made, made', left]
    exact works.outcome.mapError_eq
  · rw [carries, carries, PortalM.trace, PortalM.trace, run_withLogin, run_withLogin, made, made',
      left]
    simp only [Traced.entries_append, log, works.log, works.left, revokes.1]
  · simp only [errands, made, made', List.map_append, left, works.left]
    rw [Purpose.map_view_of .login requests, Purpose.map_view_of .work works.requests,
      Purpose.map_view_of .revocation revokes.2]
  · rw [made, made']
    exact congrArg Except.ok (describe l l' h)

end Broker

/-! ## Credentials with other secrets -/

namespace Credentials

/-- The same credentials with another secret of the client and another password. -/
def withSecrets (c : Credentials) (secret password : String) : Credentials :=
  { c with clientSecret := secret, password }

variable {c : Credentials} {secret password : String}

theorem validate_withSecrets (given : c.password ≠ "") (given' : password ≠ "") :
    (c.withSecrets secret password).validate = c.validate := by
  have given : c.password.isEmpty = false := by simpa using given
  have given' : password.isEmpty = false := by simpa using given'
  simp only [validate, withSecrets, given, given']

end Credentials

namespace Login

variable {c : Credentials} {secret password : String}

theorem alike_tokenCall_withSecrets (base : String) :
    (tokenCall base c).Alike (Purpose.ofCredentials .login)
      (tokenCall base (c.withSecrets secret password)) where
  header := (Authorization.all_basic _ _).trans (Authorization.all_basic _ _).symm
  authorization := nofun
  body := nofun

theorem alike_start_withSecrets (given : c.password ≠ "") (given' : password ≠ "")
    (base : String) :
    Alike id (Purpose.ofCredentials .login) (fun l l' => l' = { l with clientSecret := secret })
      (start base c) (start base (c.withSecrets secret password)) := by
  unfold start
  rw [c.validate_withSecrets given given']
  refine .after fun () => .bind_eq ?_ fun token => .after fun () => ?_
  · exact .after fun () =>
      (alike_call (alike_tokenCall_withSecrets base) _).bind_eq fun _ => .refl _
  · exact Quiet.alike (.pure _) (.pure _) (.ok rfl)

theorem alike_revokeCall_withSecrets (l : Login) :
    l.revokeCall.Alike (Purpose.ofCredentials .revocation)
      { l with clientSecret := secret }.revokeCall where
  header := rfl
  authorization := fun _ => rfl
  body := nofun

end Login

theorem Broker.runsAlike_withSecrets {α : Type} (o : Operation α) (b : Broker) (n : Network)
    {secret password : String} (given : b.credentials.password ≠ "") (given' : password ≠ "") :
    RunsAlike id Purpose.ofCredentials o b n
      { b with credentials := b.credentials.withSecrets secret password } n := by
  refine runsAlike_of_login (Login.alike_start_withSecrets given given' b.base n) ?_ ?_ ?_ rfl
  · -- the work uses neither secret
    rintro l _ rfl
    cases o <;> exact .refl _
  · rintro l _ rfl
    exact l.alike_revokeCall_withSecrets
  · rintro l _ rfl
    rfl

/-! ## Logins answered with other tokens -/

/-- Errors without what lies beneath them are the same only if they are decodings of the same that
failed, or the same to begin with. -/
theorem PortalError.bare_eq_bare_iff {e e' : PortalError} :
    e'.bare = e.bare ↔ e' = e ∨ ∃ context cause cause',
      e = .decode ⟨context, cause⟩ ∧ e' = .decode ⟨context, cause'⟩ := by
  constructor
  · intro same
    rcases e with _ | _ | _ | _ | _ | ⟨context, cause⟩ <;>
      rcases e' with _ | _ | _ | _ | _ | ⟨context', cause'⟩ <;>
      first | exact .inl same | cases same
    exact .inr ⟨_, _, _, rfl, rfl⟩
  · rintro (rfl | ⟨context, cause, cause', rfl, rfl⟩) <;> rfl

namespace Login

variable {see : PortalError → PortalError} {l : Login} {t' : Token}

/-- A call that only its access token authorises. -/
theorem alike_bearer {v : Veil} (hides : v.authorization = true) (h : l.token.Alike t') (c : Call) :
    { c with authorization := .bearer l.token.accessToken }.Alike v
      { c with authorization := .bearer t'.accessToken } where
  header := h.all_bearer
  authorization := fun shown => by
    rw [hides] at shown
    cases shown
  body := fun _ => rfl

section Work

variable (h : l.token.Alike t')
include h

theorem alike_listEnvironments :
    Alike see (Purpose.ofTokens .work) (· = ·) l.listEnvironments
      { l with token := t' }.listEnvironments := by
  unfold listEnvironments
  exact .after fun () => (alike_call (alike_bearer rfl h l.catalogCall) _).bind_eq fun _ => .refl _

theorem alike_findEnvironment (workshop named : String) :
    Alike see (Purpose.ofTokens .work) (· = ·) (l.findEnvironment workshop named)
      ({ l with token := t' }.findEnvironment workshop named) := by
  unfold findEnvironment
  split
  · exact .refl _
  · exact (alike_listEnvironments h).bind_eq fun _ => .refl _

theorem alike_requestSession (r : SessionRequest) (known : Option (List String)) :
    Alike see (Purpose.ofTokens .work) (· = ·) (l.requestSession r known)
      ({ l with token := t' }.requestSession r known) := by
  unfold requestSession
  by_cases refused : known.any (!·.contains r.workshop) = true
  · rw [if_pos refused, if_pos refused]
    exact (Quiet.throw _).bind_error.alike (Quiet.throw _).bind_error (.error rfl)
  · rw [if_neg refused, if_neg refused]
    exact .after fun () => .after fun () =>
      (alike_call (alike_bearer rfl h (l.requestCall r)) _).bind_eq fun _ => .refl _

theorem alike_terminateSession (session : String) :
    Alike see (Purpose.ofTokens .work) (· = ·) (l.terminateSession session)
      ({ l with token := t' }.terminateSession session) := by
  unfold terminateSession
  exact .after fun () =>
    (alike_call (alike_bearer rfl h (l.terminateCall session)) _).bind_eq fun _ => .refl _

end Work

end Login

namespace Broker

variable {α : Type} {see : PortalError → PortalError} {l : Login} {t' : Token}
  (h : l.token.Alike t')
include h

theorem alike_knownWorkshops (b : Broker) (found : FoundEnvironment) :
    Alike see (Purpose.ofTokens .work) (· = ·) (b.knownWorkshops l found)
      (b.knownWorkshops { l with token := t' } found) := by
  unfold knownWorkshops
  split
  · exact .refl _
  · split
    · exact .refl _
    · exact .after fun () => (Login.alike_listEnvironments h).bind_eq fun _ => .refl _

theorem alike_work (b : Broker) (o : Operation α) :
    Alike see (Purpose.ofTokens .work) (· = ·) (b.work o l) (b.work o { l with token := t' }) := by
  cases o with
  | request r =>
    have resolve : Alike see (Purpose.ofTokens .work) (· = ·) (b.resolve r l)
        (b.resolve r { l with token := t' }) :=
      (Login.alike_findEnvironment h _ _).bind_eq fun found =>
        (alike_knownWorkshops h b found).bind_eq fun _ => .refl _
    exact resolve.bind_eq fun _ => Login.alike_requestSession h _ _
  | terminate session => exact Login.alike_terminateSession h session
  | list => exact Login.alike_listEnvironments h

end Broker

namespace Login

theorem alike_revokeCall {l : Login} {t' : Token} (h : l.token.Alike t') :
    l.revokeCall.Alike (Purpose.ofTokens .revocation) { l with token := t' }.revokeCall where
  header := h.all_bearer
  authorization := nofun
  body := nofun

/-- Whether nothing is seen of a reply that lies beneath an error. -/
def HidesReplies (see : PortalError → PortalError) : Prop :=
  ∀ context u u', see (.decode ⟨context, some u'⟩) = see (.decode ⟨context, some u⟩)

theorem hidesReplies_bare : HidesReplies PortalError.bare := fun _ _ _ => rfl

/-- Bodies that stand for tokens alike are decoded alike, apart from what lies beneath the error if
they stand for none. -/
theorem related_decoded {body body' : List UInt8}
    (h : Option.Rel Token.Alike (Token.ofBody? body) (Token.ofBody? body'))
    (hides : Token.ofBody? body = none → HidesReplies see) (context : String) (status : Nat) :
    Related see Token.Alike (Portal.decoded .token Token.ofJson? context ⟨status, some body⟩)
      (Portal.decoded .token Token.ofJson? context ⟨status, some body'⟩) := by
  have read (body : List UInt8) :
      Portal.decoded .token Token.ofJson? context ⟨status, some body⟩ =
        match Token.ofBody? body with
        | none => .error (.decode
            ⟨context, some ⟨.token, String.ofList (Text.Utf8.decodeLossy body)⟩⟩)
        | some t => .ok t := by
    have parsed : (Json.parse? (String.ofList (Text.Utf8.decodeLossy body))).bind Token.ofJson? =
      Token.ofBody? body := rfl
    simp only [Portal.decoded_eq, Response.text?, Option.map_some, parsed]
    cases Token.ofBody? body <;> rfl
  rw [read, read]
  generalize Token.ofBody? body = t at h hides ⊢
  generalize Token.ofBody? body' = t' at h ⊢
  cases h with
  | none => exact .error (hides rfl _ _ _)
  | some h => exact .ok h

section Answered

variable {base : String} {c : Credentials} {n n' : Network} {status : Nat} {body body' : List UInt8}

/-- Logins whose tokens alone differ. -/
def SameButToken (l l' : Login) : Prop := ∃ t', l.token.Alike t' ∧ l' = { l with token := t' }

theorem alikeOn_requestToken {q : Request}
    (tokens : Option.Rel Token.Alike (Token.ofBody? body) (Token.ofBody? body'))
    (hides : status = 200 → Token.ofBody? body = none → HidesReplies see)
    (departs : (tokenCall base c).departure n.connected = .ok q)
    (connected : n'.connected = n.connected) (answered : n.replyAt 0 = .answer status body)
    (answered' : n'.replyAt 0 = .answer status body') (rest : n'.skip 1 = n.skip 1) :
    AlikeOn see (Purpose.ofTokens .login) Token.Alike (requestToken base c) n
      (requestToken base c) n' := by
  have called (context : String) : AlikeOn see (Purpose.ofTokens .login)
      (fun r r' : Response => r = ⟨status, some body⟩ ∧ r' = ⟨status, some body'⟩)
      (Portal.call context (tokenCall base c)) n (Portal.call context (tokenCall base c)) n' := by
    refine ⟨?_, ?_, ?_, ?_⟩ <;>
      simp only [outcome, left, trace, run_call, attempt_eq, connected, departs, answered,
        answered', rest]
    exact .ok ⟨rfl, rfl⟩
  refine (Quiet.log (P := fun _ => True) trivial).bind_alikeOn ((called _).bind ?_)
  rintro _ _ ⟨rfl, rfl⟩
  refine .after fun () => ?_
  by_cases ok : status = 200
  · rw [if_neg (not_not.2 ok), if_neg (not_not.2 ok)]
    exact (Portal.quiet_decodeBody _ _ _ _).alike (Portal.quiet_decodeBody _ _ _ _)
      (related_decoded tokens (hides ok) _ _)
  · rw [if_pos ok, if_pos ok]
    exact (Quiet.throw _).bind_error.alike (Quiet.throw _).bind_error (.error rfl)

theorem alikeOn_start {q : Request} (valid : c.validate = .ok ())
    (tokens : Option.Rel Token.Alike (Token.ofBody? body) (Token.ofBody? body'))
    (hides : status = 200 → Token.ofBody? body = none → HidesReplies see)
    (departs : (tokenCall base c).departure n.connected = .ok q)
    (connected : n'.connected = n.connected) (answered : n.replyAt 0 = .answer status body)
    (answered' : n'.replyAt 0 = .answer status body') (rest : n'.skip 1 = n.skip 1) :
    AlikeOn see (Purpose.ofTokens .login) SameButToken (start base c) n (start base c) n' := by
  rw [start_of_valid valid]
  refine (alikeOn_requestToken tokens hides departs connected answered answered' rest).bind ?_
  exact fun t t' h => .after fun () => Quiet.alike (.pure _) (.pure _) (.ok ⟨t', h, rfl⟩)

/-- A login that sends no request fails. -/
theorem start_of_unsent (base : String) (c : Credentials) (n : Network) :
    (c.validate = .ok () ∧ ∃ q, (tokenCall base c).departure n.connected = .ok q) ∨
      (∃ e, (start base c).outcome n = .error e) ∧
        Traced.requests ((start base c).trace n) = [] := by
  cases valid : c.validate with
  | error e =>
    have refused := quiet_start valid base
    exact .inr ⟨⟨e, refused.outcome_eq n⟩, refused.requests_eq n⟩
  | ok =>
    have exchange := exchange_start valid base
    cases departs : (tokenCall base c).departure n.connected with
    | ok q => exact .inl ⟨rfl, q, rfl⟩
    | error failure =>
      have unanswered : (tokenCall base c).answer n = .error failure := by
        rw [Call.answer, departs]
      refine .inr ⟨⟨.network "cannot connect to training portal" failure, ?_⟩, ?_⟩
      · rw [exchange.outcome_eq, value_attempt, unanswered]
        rfl
      · rw [exchange.requests_eq, requests_attempt, departs]
        rfl

end Answered

end Login

theorem Broker.runsAlike_sameButTokens {α : Type} {see : PortalError → PortalError}
    (o : Operation α) (b : Broker) (connected : Bool) {reply reply' : Reply} (rest : List Reply)
    (h : reply.SameButTokens reply')
    (hides : ∀ body, reply = .answer 200 body → Token.ofBody? body = none →
      Login.HidesReplies see) :
    RunsAlike see Purpose.ofTokens o b ⟨connected, reply :: rest⟩ b
      ⟨connected, reply' :: rest⟩ := by
  cases h with
  | same => exact ⟨rfl, rfl, rfl, rfl, rfl⟩
  | @answer status body body' tokens =>
    obtain ⟨valid, q, departs⟩ | ⟨⟨e, refused⟩, unsent⟩ :=
      Login.start_of_unsent b.base b.credentials ⟨connected, .answer status body :: rest⟩
    · refine runsAlike_of_login
        (Login.alikeOn_start valid tokens ?_ departs rfl rfl rfl rfl) ?_ ?_ ?_ rfl
      · rintro rfl
        exact hides body rfl
      · rintro l _ ⟨t', h, rfl⟩
        exact alike_work h b o
      · rintro l _ ⟨t', h, rfl⟩
        exact Login.alike_revokeCall h
      · rintro l _ ⟨t', h, rfl⟩
        unfold Login.describe
        rw [h.describe]
    · -- no reply is taken, so the first one does not matter
      have agree : Network.Agree 0 ⟨connected, .answer status body :: rest⟩
          ⟨connected, .answer status body' :: rest⟩ := ⟨rfl, nofun⟩
      have same := (Login.causal_start b.base b.credentials).congr (by rwa [unsent])
      exact runsAlike_of_refused refused (same.1.trans refused) rfl (congrArg _ same.2)
        (congrArg _ (congrArg _ same.2)) rfl

/-- **Secrets stay secret.** Two runs of an operation can be told apart only by those headers and
bodies that have to carry the secrets: if the credentials differ in the client's secret and in the
password, by the header and the body of the login and the body of the return of the token, and if
the logins are answered with different tokens, by the headers after the login and the body of the
return of the token. Where the answer to the login cannot be decoded, it lies beneath the error that
comes of it, and that error is the same in kind and text. -/
theorem Broker.secrets_stay_secret {α : Type} (o : Operation α) (b : Broker) :
    (∀ n, Traced.requests ((b.carryOut o).trace n) = (b.errands o n).map Prod.snd) ∧
    (∀ (secret password : String) (n : Network), b.credentials.password ≠ "" → password ≠ "" →
      RunsAlike id Purpose.ofCredentials o b n
        { b with credentials := b.credentials.withSecrets secret password } n) ∧
    (∀ e e' : PortalError, e'.bare = e.bare ↔ e' = e ∨ ∃ context cause cause',
      e = .decode ⟨context, cause⟩ ∧ e' = .decode ⟨context, cause'⟩) ∧
    ∀ (connected : Bool) (reply reply' : Reply) (rest : List Reply), reply.SameButTokens reply' →
      RunsAlike PortalError.bare Purpose.ofTokens o b ⟨connected, reply :: rest⟩ b
        ⟨connected, reply' :: rest⟩ ∧
      ((∀ body, reply = .answer 200 body → Token.ofBody? body ≠ none) →
        RunsAlike id Purpose.ofTokens o b ⟨connected, reply :: rest⟩ b
          ⟨connected, reply' :: rest⟩) :=
  ⟨b.requests_carryOut o, fun _ _ n given given' => b.runsAlike_withSecrets o n given given',
    fun _ _ => PortalError.bare_eq_bare_iff, fun connected _ _ rest h =>
    ⟨b.runsAlike_sameButTokens o connected rest h fun _ _ _ => Login.hidesReplies_bare,
      fun decoded => b.runsAlike_sameButTokens o connected rest h fun body answered none =>
        absurd none (decoded body answered)⟩⟩

/-- A listing from the login to the return of the token. -/
theorem Broker.secrets_stay_secret_listing :
    let b : Broker := ⟨"http://p", ⟨"http://p", "client", "secret", "robot", "password", []⟩⟩
    let b' : Broker := { b with credentials := b.credentials.withSecrets "other" "another" }
    let body := "\x7b\"access_token\":\"t\",\"scope\":\"read\"\x7d".toUTF8.toList
    let reply : Reply := .answer 200 body
    let reply' : Reply :=
      .answer 200 "[\"ü %\",0,\"\",\"read\",\"r\"]".toUTF8.toList
    let rest : List Reply := [.answer 200 "\x7b\x7d".toUTF8.toList, .answer 200 []]
    (b.errands .list ⟨true, reply :: rest⟩).map Prod.fst = [.login, .work, .revocation] ∧
      b.credentials.password ≠ "" ∧ "another" ≠ "" ∧
      RunsAlike id Purpose.ofCredentials .list b ⟨true, reply :: rest⟩ b' ⟨true, reply :: rest⟩ ∧
      reply.SameButTokens reply' ∧ Token.ofBody? body ≠ none ∧
      RunsAlike id Purpose.ofTokens .list b ⟨true, reply :: rest⟩ b ⟨true, reply' :: rest⟩ := by
  intro b b' body reply reply' rest
  have reaches : (b.errands .list ⟨true, reply :: rest⟩).map Prod.fst =
      [.login, .work, .revocation] := by decide +kernel
  have given : b.credentials.password ≠ "" := by decide
  have token : Token.ofBody? body = some ⟨"t", 0, "", "read", ""⟩ := by decide +kernel
  have same : reply.SameButTokens reply' := by
    have token' : Token.ofBody? "[\"ü %\",0,\"\",\"read\",\"r\"]".toUTF8.toList =
        some ⟨"ü %", 0, "", "read", "r"⟩ := by decide +kernel
    refine .answer ?_
    rw [token, token']
    exact .some ⟨rfl, rfl, rfl, by decide, by decide⟩
  have decoded : Token.ofBody? body ≠ none := token ▸ Option.some_ne_none _
  obtain ⟨-, credentials, -, tokens⟩ := secrets_stay_secret .list b
  refine ⟨reaches, given, by decide, credentials "other" "another" _ given (by decide), same,
    decoded, (tokens true reply reply' rest same).2 fun answered h => ?_⟩
  obtain rfl : body = answered := by injection h
  exact decoded

/-- What is printed of an answer to the login that cannot be decoded can tell the length of the
token in it. -/
theorem Broker.column_tells_length :
    let b : Broker := ⟨"http://p", ⟨"http://p", "client", "secret", "robot", "password", []⟩⟩
    let remark (column : Nat) :=
      "invalid type: string \"x\", expected i64 at line 1 column " ++ toString column
    -- all of the body but its last brace is read
    let remarks : Remarks := { json := fun unread => some (remark (unread.body.length - 1)) }
    let body (token : String) :=
      ("\x7b\"access_token\":\"" ++ token ++ "\",\"expires_in\":\"x\"\x7d").toUTF8.toList
    let reply (token : String) : Reply := .answer 200 (body token)
    let report (token : String) :=
      ((b.carryOut .list).outcome ⟨true, [reply token]⟩).mapError
        fun error => (Failure.portal error).chain remarks
    (reply "abc").SameButTokens (reply "abcdef") ∧
      report "abc" = .error ("cannot decode auth details: " ++ remark 38) ∧
      report "abcdef" = .error ("cannot decode auth details: " ++ remark 41) := by
  intro b remark remarks body reply report
  let members (token : String) := [("access_token", Json.text token), ("expires_in", .text "x")]
  have read (token : String) : Json.parse? (String.ofList (Text.Utf8.decodeLossy
      (Text.Utf8.bytes (Json.object (members token)).compact))) = some (.object (members token)) :=
    Json.parse?_bytes <| .object <|
      List.forall_mem_cons.2 ⟨.text _, List.forall_mem_singleton.2 (.text _)⟩
  have written : body "abc" = Text.Utf8.bytes (Json.object (members "abc")).compact := by
    decide +kernel
  have written' : body "abcdef" = Text.Utf8.bytes (Json.object (members "abcdef")).compact := by
    decide +kernel
  have undecoded : Token.ofBody? (body "abc") = none := by decide +kernel
  have undecoded' : Token.ofBody? (body "abcdef") = none := by decide +kernel
  refine ⟨Reply.sameButTokens_of_members (written ▸ read "abc") (written' ▸ read "abcdef")
    (.cons (.secret (.inl rfl) _ _) (.cons (.same _) .nil)) ?_ ?_, by decide +kernel,
    by decide +kernel⟩
  · intro t decoded
    cases undecoded.symm.trans decoded
  · intro t decoded
    cases undecoded'.symm.trans decoded

end TrainingPortal
