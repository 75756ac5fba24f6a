import TrainingPortal.Portal.Conversation
import TrainingPortal.Proofs.Discipline

/-!
# What a step of a conversation does to logins

* `Effect`: the five things that a step can do to the login that is kept, each with what it lets the
  outside see of it.
* `effect_perform`: every step has one of these effects.
* `run_cons`: a conversation is one step after the other.
-/

namespace TrainingPortal.Conversation

open Http PortalM

variable {α β : Type}

/-! ## Running a step -/

theorem run_bind (x : ConversationM α) (f : α → ConversationM β) (c : Conversation) (n : Network) :
    (x >>= f) c n =
      match (x c n).value with
      | ((.ok a, c'), n') => ⟨(f a c' n').value, (x c n).trace ++ (f a c' n').trace⟩
      | ((.error e, c'), n') => ⟨((.error e, c'), n'), (x c n).trace⟩ := by
  change Traced.mk (ExceptT.bindCont f (x c n).value.1.1 (x c n).value.1.2 (x c n).value.2).value
    ((x c n).trace ++
      (ExceptT.bindCont f (x c n).value.1.1 (x c n).value.1.2 (x c n).value.2).trace) = _
  rcases (x c n).value with ⟨⟨r, c'⟩, n'⟩
  cases r with
  | ok a => rfl
  | error e => exact congrArg _ (List.append_nil _)

theorem run_ofPortal (x : PortalM α) (c : Conversation) (n : Network) :
    ofPortal x c n = ⟨(((x.outcome n).mapError .portal, c), x.left n), x.trace n⟩ := by
  have lifted : (liftM (x.run : NetworkM _) : ConversationM _) c n =
      ⟨((.ok (x.outcome n), c), x.left n), x.trace n ++ [] ++ []⟩ := rfl
  rw [ofPortal, run_bind, lifted, List.append_nil, List.append_nil]
  cases x.outcome n <;> exact congrArg _ (List.append_nil _)

theorem run_openLogin (c : Conversation) (n : Network) :
    openLogin c n = ⟨((match c.login with
      | some l => .ok l
      | none => .error .noLogin, c), n), []⟩ := by
  rcases c with ⟨_ | l, broker⟩ <;> rfl

theorem run_brokerAtHand (c : Conversation) (n : Network) :
    brokerAtHand c n = ⟨((match c.broker with
      | some b => .ok b
      | none => .error .noBroker, c), n), []⟩ := by
  rcases c with ⟨login, _ | b⟩ <;> rfl

/-- What is done with the open login changes neither it nor the broker. -/
theorem run_atLogin (work : Login → PortalM α) (answer : α → Answer) (c : Conversation)
    (n : Network) :
    ((atLogin work answer c n).value.1.2 = c) ∧
      (atLogin work answer c n).trace = match c.login with
        | some l => (work l).trace n
        | none => [] := by
  rw [atLogin, run_bind, run_openLogin]
  cases c.login with
  | none => exact ⟨rfl, rfl⟩
  | some l =>
    simp only [run_bind, run_ofPortal]
    cases (work l).outcome n with
    | ok a => exact ⟨rfl, congrArg _ (List.append_nil _)⟩
    | error e => exact ⟨rfl, rfl⟩

theorem run_atBroker (work : Broker → PortalM α) (answer : Broker → α → Answer) (c : Conversation)
    (n : Network) :
    ((atBroker work answer c n).value.1.2 = c) ∧
      (atBroker work answer c n).trace = match c.broker with
        | some b => (work b).trace n
        | none => [] := by
  rw [atBroker, run_bind, run_brokerAtHand]
  cases c.broker with
  | none => exact ⟨rfl, rfl⟩
  | some b =>
    simp only [run_bind, run_ofPortal]
    cases (work b).outcome n with
    | ok a => exact ⟨rfl, congrArg _ (List.append_nil _)⟩
    | error e => exact ⟨rfl, rfl⟩

theorem trace_close (c : Conversation) :
    c.close.trace = (c.login.map fun l => Event.logged (Login.dropWarning l.base)).toList := by
  rcases c with ⟨_ | l, broker⟩ <;> rfl

theorem run_replaceLogin (login : Option Login) (c : Conversation) (n : Network) :
    replaceLogin login c n = ⟨((.ok (), { c with login }), n), c.close.trace⟩ := by
  have closed : (liftM c.close : ConversationM Unit) c n =
      ⟨((.ok (), c), n), c.close.trace ++ [] ++ [] ++ []⟩ := rfl
  have got : (get : ConversationM Conversation) c n = ⟨((.ok c, c), n), []⟩ := rfl
  rw [replaceLogin, run_bind, got]
  simp only [run_bind, closed, List.append_nil, List.nil_append]
  exact congrArg _ (List.append_nil _)

/-! ## What shows of a login -/

/-- A login that succeeds is greeted at its end. -/
theorem trace_logIn (b : Broker) (n : Network) :
    ∃ before : List Event, (∀ event ∈ before, event.Neutral) ∧
      b.logIn.trace n = before ++
        match b.logIn.outcome n with
        | .ok l => [.logged (Login.greeting l.base)]
        | .error _ => [] := by
  cases valid : b.credentials.validate with
  | error e =>
    have refused := Login.quiet_start valid b.base
    refine ⟨b.logIn.trace n, refused.shows (fun _ he => he) n, ?_⟩
    rw [refused.outcome_eq, List.append_nil]
  | ok =>
    have asks := Login.exchange_requestToken b.base b.credentials
    refine ⟨(Login.requestToken b.base b.credentials).trace n,
      asks.shows (fun _ he => he) (Login.isRevocation_tokenCall _ _) (fun _ => trivial) n, ?_⟩
    rw [Broker.logIn, Login.start_of_valid valid, trace_bind, outcome_bind]
    cases (Login.requestToken b.base b.credentials).outcome n <;> rfl

/-- The return of a token begins with its call. -/
theorem trace_revoke (l : Login) (n : Network) :
    ∃ after : List Event, (∀ e ∈ after, e.Neutral) ∧
      (l.revoke n).trace = .called l.revokeCall :: after := by
  obtain ⟨e, neutral, eq⟩ := l.run_revoke n
  obtain ⟨sent, called⟩ := trace_attempt l.revokeCall n
  refine ⟨sent.map .sent ++ [.logged e], ?_, by rw [eq, called, List.cons_append]⟩
  simp only [List.forall_mem_append, List.forall_mem_map, List.forall_mem_singleton]
  exact ⟨fun _ _ => trivial, neutral⟩

/-- An operation of a broker shows the beginning and the end of its login, if that succeeds. -/
theorem landmarks_carryOut (b : Broker) (o : Broker.Operation α) (n : Network) :
    (∃ e, b.logIn.outcome n = .error e ∧ ∀ event ∈ (b.carryOut o).trace n, event.Neutral) ∨
    ∃ l, b.logIn.outcome n = .ok l ∧ ∃ before between after : List Event,
      (∀ event ∈ before, event.Neutral) ∧ (∀ event ∈ between, event.Neutral) ∧
      (∀ event ∈ after, event.Neutral) ∧
      (b.carryOut o).trace n = before ++ .logged (Login.greeting l.base) ::
        (between ++ .called l.revokeCall :: after) := by
  obtain ⟨before, neutral, begins⟩ := trace_logIn b n
  rcases b.trace_carryOut o n with ⟨e, login, eq⟩ | ⟨l, login, log, neutralLog, eq⟩
  · refine .inl ⟨e, login, ?_⟩
    rw [login, List.append_nil] at begins
    rw [eq, begins]
    exact neutral
  · obtain ⟨sent, called⟩ := trace_attempt l.revokeCall ((b.work o l).left (b.logIn.left n))
    refine .inr ⟨l, login, before, (b.work o l).trace (b.logIn.left n),
      sent.map .sent ++ log.map .logged, neutral, b.shows_work o l _, ?_, ?_⟩
    · simp only [List.forall_mem_append, List.forall_mem_map]
      exact ⟨fun _ _ => trivial, neutralLog⟩
    · rw [login] at begins
      rw [eq, begins, called]
      simp only [List.append_assoc, List.cons_append, List.nil_append]

/-! ## Effects -/

/-- What a step does to the login that is kept, the login that it makes itself, and what shows. -/
inductive Effect (c c' : Conversation) (made : Option Login) (trace : List Event) : Prop
  /-- Nothing happens to any login. -/
  | nothing (login : c'.login = c.login) (noLogin : made = none) (neutral : ∀ e ∈ trace, e.Neutral)
  /-- A login is made and kept; the one that was kept is dropped. -/
  | begun (l : Login) (before : List Event) (login : c'.login = some l) (login' : made = some l)
      (neutral : ∀ e ∈ before, e.Neutral)
      (shows : trace = before ++ .logged (Login.greeting l.base) ::
        (c.login.map fun old => Event.logged (Login.dropWarning old.base)).toList)
  /-- The token of the login that is kept is handed back. -/
  | handedBack (l : Login) (after : List Event) (kept : c.login = some l)
      (login : c'.login = none) (noLogin : made = none) (neutral : ∀ e ∈ after, e.Neutral)
      (shows : trace = .called l.revokeCall :: after)
  /-- The login that is kept is dropped. -/
  | dropped (l : Login) (kept : c.login = some l) (login : c'.login = none)
      (noLogin : made = none) (shows : trace = [.logged (Login.dropWarning l.base)])
  /-- A login is made and its token handed back at once. -/
  | carriedOut (l : Login) (before between after : List Event) (login : c'.login = c.login)
      (login' : made = some l) (neutralBefore : ∀ e ∈ before, e.Neutral)
      (neutralBetween : ∀ e ∈ between, e.Neutral) (neutralAfter : ∀ e ∈ after, e.Neutral)
      (shows : trace = before ++ .logged (Login.greeting l.base) ::
        (between ++ .called l.revokeCall :: after))

theorem Effect.idle {c c' : Conversation} (login : c'.login = c.login) : Effect c c' none [] :=
  .nothing login rfl fun _ h => absurd h List.not_mem_nil

/-- The conversation that a step leaves. -/
def Step.next (s : Step) (c : Conversation) (n : Network) : Conversation :=
  (perform s c n).value.1.2

/-- The network that a step leaves. -/
def Step.left (s : Step) (c : Conversation) (n : Network) : Network := (perform s c n).value.2

/-- The login that a step makes, if it makes one that succeeds. -/
def Step.login? (s : Step) (c : Conversation) (n : Network) : Option Login :=
  match s with
  | .logIn credentials =>
    ((Login.start (Endpoint.base credentials.url) credentials).outcome n).toOption
  | .brokerList | .brokerRequest _ | .brokerTerminate _ =>
    c.broker.bind fun b => (b.logIn.outcome n).toOption
  | _ => none

theorem effect_atLogin {work : Login → PortalM α} (plain : ∀ l, Plain (work l))
    (answer : α → Answer) (c : Conversation) (n : Network) :
    Effect c (atLogin work answer c n).value.1.2 none (atLogin work answer c n).trace := by
  obtain ⟨same, shows⟩ := run_atLogin work answer c n
  refine .nothing (by rw [same]) rfl ?_
  rw [shows]
  cases c.login with
  | none => exact fun _ h => absurd h List.not_mem_nil
  | some l => exact (plain l).shows n

theorem effect_atBroker (o : Broker.Operation α) (answer : Broker → α → Answer) (c : Conversation)
    (n : Network) :
    Effect c (atBroker (·.carryOut o) answer c n).value.1.2
      (c.broker.bind fun b => (b.logIn.outcome n).toOption)
      (atBroker (·.carryOut o) answer c n).trace := by
  obtain ⟨same, shows⟩ := run_atBroker (·.carryOut o) answer c n
  rw [shows]
  cases c.broker with
  | none => exact .idle (by rw [same])
  | some b =>
    rcases landmarks_carryOut b o n with ⟨e, login, neutral⟩ |
      ⟨l, login, before, between, after, neutralBefore, neutralBetween, neutralAfter, eq⟩
    · exact .nothing (by rw [same]) (by simp [login, Except.toOption]) neutral
    · exact .carriedOut l before between after (by rw [same]) (by simp [login, Except.toOption])
        neutralBefore neutralBetween neutralAfter eq

theorem effect_logIn (credentials : Credentials) (c : Conversation) (n : Network) :
    Effect c ((Step.logIn credentials).next c n) ((Step.logIn credentials).login? c n)
      (perform (.logIn credentials) c n).trace := by
  let b : Broker := ⟨Endpoint.base credentials.url, credentials⟩
  have logsIn : perform (.logIn credentials) =
      ofPortal b.logIn >>= fun l => replaceLogin (some l) >>= fun () => pure (.loggedIn l) := rfl
  have made : (Step.logIn credentials).login? c n = (b.logIn.outcome n).toOption := rfl
  obtain ⟨before, neutral, begins⟩ := trace_logIn b n
  rw [Step.next, made, logsIn, run_bind, run_ofPortal, begins]
  cases b.logIn.outcome n with
  | error e =>
    rw [List.append_nil]
    exact .nothing rfl rfl neutral
  | ok l =>
    have carried : (.ok l : Except PortalError Login).mapError Refusal.portal = .ok l := rfl
    simp only [carried, run_bind, run_replaceLogin, trace_close]
    refine .begun l before rfl rfl neutral ?_
    rw [List.append_assoc]
    exact congrArg (before ++ .logged (Login.greeting l.base) :: ·) (List.append_nil _)

theorem effect_revoke (c : Conversation) (n : Network) :
    Effect c (Step.revoke.next c n) none (perform .revoke c n).trace := by
  rw [Step.next, perform, run_bind, run_openLogin]
  cases kept : c.login with
  | none => exact .idle rfl
  | some l =>
    obtain ⟨after, neutral, shows⟩ := trace_revoke l n
    have revoked : (liftM l.revoke : ConversationM Unit) { c with login := none } n =
        ⟨((.ok (), { c with login := none }), (l.revoke n).value.2),
          (l.revoke n).trace ++ [] ++ []⟩ := rfl
    have cleared (f : Unit → ConversationM Answer) :
        ((modify fun c => { c with login := none }) >>= f) c n =
          f () { c with login := none } n := rfl
    simp only [cleared, run_bind, revoked, List.append_nil, List.nil_append]
    refine .handedBack l after kept rfl rfl neutral ?_
    rw [shows]
    exact List.append_nil _

theorem effect_drop (c : Conversation) (n : Network) :
    Effect c (Step.drop.next c n) none (perform .drop c n).trace := by
  rw [Step.next, perform, run_bind, run_openLogin]
  cases kept : c.login with
  | none => exact .idle rfl
  | some l =>
    simp only [run_bind, run_replaceLogin, trace_close, List.nil_append]
    refine .dropped l kept rfl rfl ?_
    rw [kept]
    rfl

/-- Taking a broker concerns no login. -/
theorem effect_broker (credentials : Credentials) (c : Conversation) (n : Network) :
    Effect c ((Step.broker credentials).next c n) none
      (perform (.broker credentials) c n).trace := by
  rw [Step.next, perform, run_bind, run_ofPortal]
  have quiet : Quiet (fun _ => True) (ExceptT.mk (pure (Broker.ofCredentials credentials)))
      (Broker.ofCredentials credentials) := ⟨[], by simp, fun _ => rfl⟩
  have shows : trace (ExceptT.mk (pure (Broker.ofCredentials credentials))) n = [] := rfl
  rw [quiet.outcome_eq, shows]
  cases Broker.ofCredentials credentials with
  | error e => exact .idle rfl
  | ok b => exact .idle rfl

/-- **What a step does**, in one of five ways. -/
theorem effect_perform (s : Step) (c : Conversation) (n : Network) :
    Effect c (s.next c n) (s.login? c n) (perform s c n).trace := by
  cases s with
  | logIn credentials => exact effect_logIn credentials c n
  | list => exact effect_atLogin (·.plain_listEnvironments) _ c n
  | find workshop environment =>
    exact effect_atLogin (·.plain_findEnvironment workshop environment) _ c n
  | request r known => exact effect_atLogin (·.plain_requestSession r known) _ c n
  | terminate session => exact effect_atLogin (·.plain_terminateSession session) _ c n
  | revoke => exact effect_revoke c n
  | drop => exact effect_drop c n
  | broker credentials => exact effect_broker credentials c n
  | brokerAt url credentials => exact .idle rfl
  | brokerList => exact effect_atBroker .list _ c n
  | brokerRequest r => exact effect_atBroker (.request r) _ c n
  | brokerTerminate session => exact effect_atBroker (.terminate session) _ c n

/-! ## One step after the other -/

/-- The steps of a conversation, without its end. -/
def performAll (steps : List Step) : StateT Conversation NetworkM (List (Except Refusal Answer)) :=
  steps.mapM fun s => (perform s).run

theorem run_cons (s : Step) (rest : List Step) (c : Conversation) (n : Network) :
    (performAll (s :: rest) c n).value.1.2 =
        (performAll rest (s.next c n) (s.left c n)).value.1.2 ∧
      (performAll (s :: rest) c n).trace =
        (perform s c n).trace ++ (performAll rest (s.next c n) (s.left c n)).trace := by
  rw [performAll, List.mapM_cons]
  exact ⟨rfl, congrArg _ (List.append_nil _)⟩

/-- A conversation ends with the end of the login that is still kept. -/
theorem trace_hold (steps : List Step) (n : Network) :
    (hold steps n).trace =
      (performAll steps {} n).trace ++ (performAll steps {} n).value.1.2.close.trace := by
  have ends : (hold steps n).trace = (performAll steps {} n).trace ++
      ((performAll steps {} n).value.1.2.close.trace ++ [] ++ []) := rfl
  rw [ends, List.append_nil, List.append_nil]

/-- The logins that succeed in the course of some steps, in the order in which they are made. -/
def logins : List Step → Conversation → Network → List Login
  | [], _, _ => []
  | s :: rest, c, n => (s.login? c n).toList ++ logins rest (s.next c n) (s.left c n)

end TrainingPortal.Conversation
