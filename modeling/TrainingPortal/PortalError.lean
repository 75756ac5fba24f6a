/-!
# Errors of portal operations

What can go wrong between this client and a training portal, each error with its message
(`PortalError.message`) and what lies beneath it (`PortalError.causes`), which is shown only where
the whole chain of causes is. Beneath a transport failure lies what the transport reported. Beneath
a decoding that failed lies what the reader of JSON remarks on the body. The words of such remarks
are the reader's own, not this library's: `Remarks` stands for them.
-/

namespace TrainingPortal

/-- Why a call failed before its answer was complete. -/
inductive TransportFailure
  /-- The address of the call is no usable URL, for the reason given. -/
  | invalidUrl (reason : String)
  /-- The URL is of a scheme other than http and https. -/
  | schemeRefused (url : String)
  /-- The host of the URL holds a character that no URI may hold. -/
  | hostRefused (url : String)
  /-- A header of the call holds a character that no header may hold. -/
  | invalidHeader
  /-- There is no network. -/
  | unreachable (url : String)
  /-- The connection broke before the answer began. -/
  | connectionBroken (url : String)
  /-- The connection broke within the body of the answer. -/
  | bodyBroken
  deriving DecidableEq

namespace TransportFailure

/-- What the transport reported. -/
def message : TransportFailure → String
  | invalidUrl _ | invalidHeader => "builder error"
  | schemeRefused url | hostRefused url => s!"builder error for url ({url})"
  | unreachable url | connectionBroken url => s!"error sending request for url ({url})"
  | bodyBroken => "error decoding response body"

/-- The causes of a failure, the nearest first. -/
def causes : TransportFailure → List String
  | invalidUrl reason => [reason]
  | schemeRefused _ => ["URL scheme is not allowed"]
  | hostRefused _ => ["Parsed Url is not a valid Uri"]
  | invalidHeader => ["failed to parse header value"]
  | unreachable _ =>
    ["client error (Connect)", "tcp connect error", "Network is unreachable (os error 101)"]
  | connectionBroken _ =>
    ["client error (SendRequest)", "connection closed before message completed"]
  | bodyBroken =>
    ["error reading a body from connection", "end of file before message length reached"]

end TransportFailure

/-- What the body of an answer is read as. -/
inductive Record
  | token
  | catalog
  | session
  | status
  deriving DecidableEq

/-- A body that could not be read. -/
structure Unread where
  record : Record
  body : String
  deriving DecidableEq

/-- A decoding that failed. -/
structure Undecoded where
  context : String
  /-- What could not be read, if it is known. -/
  cause : Option Unread := none
  deriving DecidableEq

/-- A context stands for a decoding of which nothing else is known. -/
instance : Coe String Undecoded where
  coe context := { context }

/-- What the readers and writers of JSON and TOML remark on what they cannot read or write, as far
as it is known. -/
structure Remarks where
  json : Unread → Option String := fun _ => none
  /-- On the text of a file with profiles. -/
  toml : String → Option String := fun _ => none
  /-- On a number that is too great to be written. -/
  number : Option String := none
  deriving Inhabited

/-- An error of a portal operation. -/
inductive PortalError
  /-- Something required is missing or malformed; no call was made. -/
  | precondition (reason : String)
  /-- A call failed on its way. -/
  | network (context : String) (cause : TransportFailure)
  /-- The portal refused the robot account. -/
  | auth (status : Nat)
  /-- The portal answered an operation with a status other than 200 and this body. -/
  | protocol (operation : String) (status : Nat) (body : String)
  /-- Nothing on the portal matches the request. -/
  | notFound (what : String)
  /-- The body of an answer is not the JSON expected. -/
  | decode (failure : Undecoded)
  deriving DecidableEq

namespace PortalError

/-- The text of an error. -/
def message : PortalError → String
  | precondition reason => reason
  | network context _ => context
  | auth status => s!"cannot login to training portal (status {status})"
  | protocol operation status body => s!"{operation} failed with error ({status}, {body})"
  | notFound what => what
  | decode failure => failure.context

/-- An error without the reply that lies beneath it. -/
def bare : PortalError → PortalError
  | decode failure => decode failure.context
  | error => error

/-- The causes of an error, the nearest first. -/
def causes (remarks : Remarks) : PortalError → List String
  | network _ cause => cause.message :: cause.causes
  | decode failure => (failure.cause.bind remarks.json).toList
  | _ => []

/-- The portal's address is blank. -/
def invalidEndpoint : PortalError := precondition "invalid URL endpoint in training portal"

/-- The robot account has no name or no password. -/
def invalidCredentials : PortalError := precondition "invalid credentials in training portal"

/-- No running environment serves the workshop. -/
def noEnvironment (workshop : String) : PortalError :=
  notFound s!"cannot find workshop environment for workshop {workshop}"

/-- The environment is not known to serve the workshop. -/
def unknownWorkshop (workshop : String) : PortalError :=
  notFound s!"unable to find workshop {workshop}"

/-- The portal knows no session of this name. -/
def unknownSession (session : String) : PortalError :=
  notFound s!"no session found with name {session}"

end PortalError

end TrainingPortal
