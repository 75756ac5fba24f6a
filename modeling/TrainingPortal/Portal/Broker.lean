import TrainingPortal.Portal.Operations

/-!
# The broker

A broker carries out one operation at a time: it logs in, does the work and hands the token back,
whatever came of the work. What it returns is what came of the work.
-/

namespace TrainingPortal

open Http

/-- A portal with the credentials to use it. -/
structure Broker where
  /-- The base address of the portal. -/
  base : String
  credentials : Credentials
  deriving DecidableEq, Inhabited

namespace Broker

/-- A broker for the portal that the credentials name, unless they cannot be right. -/
def ofCredentials (c : Credentials) : Except PortalError Broker :=
  c.validate.map fun () => ⟨Endpoint.base c.url, c⟩

/-- The address under which a session is activated. -/
def activationUrl (b : Broker) (s : Session) : String := Endpoint.absolute b.base s.url

/-- Logs in, does some work and hands the token back. -/
def withLogin {α : Type} (b : Broker) (work : Login → PortalM α) (finished : Traced Unit) :
    PortalM α := do
  let login ← Login.start b.base b.credentials
  let outcome ← ExceptT.lift (work login).run
  login.revoke
  finished
  ExceptT.mk (pure outcome)

/-- The workshops that an environment is known to serve: as the catalog said when it was found, as
registered with the credentials, or else as the catalog says now. -/
def knownWorkshops (b : Broker) (login : Login) (found : FoundEnvironment) :
    PortalM (List String) := do
  match found.workshops with
  | some workshops => return workshops
  | none =>
    if !b.credentials.workshops.isEmpty then return b.credentials.workshops
    else
      Traced.log .debug .broker
        (s!"No registered workshops for {b.base}, checking catalog entries of {found.name}")
      let environments ← login.listEnvironments
      return Environment.workshopsOf environments found.name

/-- The environment of a request, with the workshops that it is known to serve. -/
def resolve (b : Broker) (r : SessionRequest) (login : Login) : PortalM (String × List String) := do
  let found ← login.findEnvironment r.workshop r.environment
  let known ← b.knownWorkshops login found
  return (found.name, known)

/-- Finds the environment of a request and requests the session. -/
def requestWith (b : Broker) (r : SessionRequest) (login : Login) : PortalM Session := do
  let (environment, known) ← b.resolve r login
  login.requestSession { r with environment } (some known)

/-- Requests a session. -/
def requestWorkshop (b : Broker) (r : SessionRequest) : PortalM Session :=
  b.withLogin (b.requestWith r)
    (Traced.log .debug .broker "Session request finished, token revoked")

/-- Terminates a session. -/
def terminateSession (b : Broker) (session : String) : PortalM SessionStatus :=
  b.withLogin (·.terminateSession session)
    (Traced.log .debug .broker "Session termination finished, token revoked")

/-- Lists the environments of the portal. -/
def listEnvironments (b : Broker) : PortalM (List Environment) :=
  b.withLogin (·.listEnvironments) (pure ())

end Broker

end TrainingPortal
