import TrainingPortal.Portal.Broker

/-!
# Conversations with portals

A conversation is a sequence of steps between which at most one login and at most one broker are
kept. A login that is kept ends in one of three ways: its token is handed back, it is dropped, or a
later login takes its place, which drops it. A login that is still open at the end of the
conversation is dropped there (`close`).
-/

namespace TrainingPortal

open Http

/-- What is kept between the steps of a conversation. -/
structure Conversation where
  login : Option Login := none
  broker : Option Broker := none
  deriving DecidableEq, Inhabited

namespace Conversation

/-- A step of a conversation. -/
inductive Step
  /-- Logs in to the portal of the credentials. -/
  | logIn (c : Credentials)
  | list
  | find (workshop environment : String)
  /-- Requests a session, given the workshops that the environment is known to serve. -/
  | request (r : SessionRequest) (known : Option (List String))
  | terminate (session : String)
  /-- Hands the token of the login back. -/
  | revoke
  /-- Drops the login without handing its token back. -/
  | drop
  /-- Takes a broker for the portal of the credentials. -/
  | broker (c : Credentials)
  /-- Takes a broker for another portal, whatever the credentials are. -/
  | brokerAt (url : String) (c : Credentials)
  | brokerList
  | brokerRequest (r : SessionRequest)
  | brokerTerminate (session : String)

/-- What a step that succeeds answers. -/
inductive Answer
  | done
  | loggedIn (l : Login)
  | environments (es : List Environment)
  | found (f : FoundEnvironment)
  | session (s : Session)
  | status (s : SessionStatus)
  | broker (b : Broker)
  /-- A session with the address that activates it. -/
  | allocated (s : Session) (activationUrl : String)
  deriving DecidableEq

/-- Why a step gives no answer. -/
inductive Refusal
  /-- The step needs a login, and none is open. -/
  | noLogin
  /-- The step needs a broker, and there is none. -/
  | noBroker
  | portal (error : PortalError)
  deriving DecidableEq

end Conversation

/-- Steps of a conversation. -/
abbrev ConversationM := ExceptT Conversation.Refusal (StateT Conversation NetworkM)

namespace Conversation

/-- The outcome of an operation on a portal. -/
def ofPortal {α : Type} (x : PortalM α) : ConversationM α := do
  match ← (x.run : NetworkM _) with
  | .ok value => return value
  | .error e => throw (.portal e)

/-- The login that is open. -/
def openLogin : ConversationM Login := do
  match (← get).login with
  | some l => return l
  | none => throw .noLogin

/-- The broker at hand. -/
def brokerAtHand : ConversationM Broker := do
  match (← get).broker with
  | some b => return b
  | none => throw .noBroker

/-- Does something with the login that is open. -/
def atLogin {α : Type} (work : Login → PortalM α) (answer : α → Answer) : ConversationM Answer := do
  let l ← openLogin
  return answer (← ofPortal (work l))

/-- Does something with the broker at hand. -/
def atBroker {α : Type} (work : Broker → PortalM α) (answer : Broker → α → Answer) :
    ConversationM Answer := do
  let b ← brokerAtHand
  return answer b (← ofPortal (work b))

/-- Drops the login that is still open, if there is one. -/
def close (c : Conversation) : Traced Unit :=
  match c.login with
  | some l => l.abandon
  | none => pure ()

/-- Keeps another login, or none, and drops the one that was kept. -/
def replaceLogin (login : Option Login) : ConversationM Unit := do
  (← get).close
  modify fun c => { c with login }

/-- Keeps another broker. -/
def takeBroker (b : Broker) : ConversationM Answer := do
  modify fun c => { c with broker := some b }
  return .broker b

/-- Carries out a step. -/
def perform : Step → ConversationM Answer
  | .logIn c => do
    let l ← ofPortal (Login.start (Endpoint.base c.url) c)
    replaceLogin (some l)
    return .loggedIn l
  | .list => atLogin (·.listEnvironments) .environments
  | .find workshop environment => atLogin (·.findEnvironment workshop environment) .found
  | .request r known => atLogin (·.requestSession r known) .session
  | .terminate session => atLogin (·.terminateSession session) .status
  | .revoke => do
    let l ← openLogin
    modify fun c => { c with login := none }
    l.revoke
    return .done
  | .drop => do
    let _ ← openLogin
    replaceLogin none
    return .done
  | .broker c => do
    takeBroker (← ofPortal (ExceptT.mk (pure (Broker.ofCredentials c))))
  | .brokerAt url c => takeBroker ⟨Endpoint.base url, c⟩
  | .brokerList => atBroker (·.listEnvironments) fun _ => .environments
  | .brokerRequest r => atBroker (·.requestWorkshop r) fun b s => .allocated s (b.activationUrl s)
  | .brokerTerminate session => atBroker (·.terminateSession session) fun _ => .status

/-- A whole conversation: the outcomes of its steps. -/
def hold (steps : List Step) : NetworkM (List (Except Refusal Answer)) := do
  let (outcomes, c) ← (steps.mapM fun step => (perform step).run).run {}
  c.close
  return outcomes

end Conversation

end TrainingPortal
