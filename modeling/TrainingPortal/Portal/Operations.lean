import TrainingPortal.Catalog
import TrainingPortal.Portal.Login
import TrainingPortal.Session.Reply
import TrainingPortal.Session.Request

/-!
# Operations of a login

What can be done with an access token: listing the environments, finding the one for a workshop,
requesting a session and terminating one.
-/

namespace TrainingPortal

open Http

/-- The outcome of looking for an environment. -/
structure FoundEnvironment where
  name : String
  /-- The workshops that the catalog lists for it, if the catalog was asked. -/
  workshops : Option (List String)
  deriving DecidableEq, Inhabited

namespace Login

/-- The call for the catalog. -/
def catalogCall (l : Login) : Call where
  method := .get
  address := Endpoint.catalog l.base
  authorization := .bearer l.token.accessToken
  wantsJson := true

/-- The environments that the portal lists. -/
def listEnvironments (l : Login) : PortalM (List Environment) := do
  Traced.log .debug .catalog s!"Fetching workshop environments from {Endpoint.catalog l.base}"
  let response ← Portal.call "failed to request catalog from training portal" l.catalogCall
  Portal.expectOk "request for catalog from training portal" response
  let environments ← Portal.decodeBody .catalog Environment.listingOfJson?
    "failed to decode response from training portal" response
  Traced.log .debug .catalog s!"Catalog lists {environments.length} workshop environments"
  return environments

/-- The environment to request a workshop from: the one named, or else the one that the catalog
offers. -/
def findEnvironment (l : Login) (workshop named : String) : PortalM FoundEnvironment := do
  if !named.isEmpty then
    Traced.log .debug .catalog s!"Using explicit workshop environment {named}"
    return ⟨named, none⟩
  else
    let environments ← l.listEnvironments
    match Environment.select? environments workshop with
    | none => throw (.noEnvironment workshop)
    | some e =>
      Traced.log .info .catalog s!"Resolved workshop {workshop} to environment {e.name}"
      return ⟨e.name, some (Environment.workshopsOf environments e.name)⟩

/-- The call for a session. -/
def requestCall (l : Login) (r : SessionRequest) : Call where
  method := .post
  address := Endpoint.request l.base r.environment
  query := r.query l.base
  authorization := .bearer l.token.accessToken
  wantsJson := true
  body := .json r.body

/-- Requests a session. The request is refused here if the workshop is not among those that the
environment is known to serve. -/
def requestSession (l : Login) (r : SessionRequest) (known : Option (List String)) :
    PortalM Session := do
  if known.any (!·.contains r.workshop) then throw (.unknownWorkshop r.workshop)
  Traced.log .info .sessions
    s!"Requesting workshop {r.workshop} from environment {r.environment}"
  Traced.log .debug .sessions
    ("Session request URL " ++ Endpoint.request l.base r.environment ++
      s!" with {r.parameters.length} parameters")
  let response ← Portal.call "failed to request workshop from training portal" (l.requestCall r)
  Portal.expectOk "request for workshop from training portal" response
  let session ← Portal.decodeBody .session Session.ofJson?
    "failed to decode response from training portal" response
  Traced.log .info .sessions s!"Allocated workshop session {session.name} for user {session.user}"
  return session

/-- The call that terminates a session. -/
def terminateCall (l : Login) (session : String) : Call where
  method := .get
  address := Endpoint.terminate l.base session
  authorization := .bearer l.token.accessToken
  wantsJson := true

/-- Terminates a session. -/
def terminateSession (l : Login) (session : String) : PortalM SessionStatus := do
  Traced.log .info .sessions s!"Terminating workshop session {session}"
  let response ←
    Portal.call "failed to terminate session on training portal" (l.terminateCall session)
  if response.status = 404 then throw (.unknownSession session)
  Portal.expectOk "request to terminate session" response
  Portal.decodeBody .status SessionStatus.ofJson?
    "failed to decode session status from training portal" response

end Login

end TrainingPortal
