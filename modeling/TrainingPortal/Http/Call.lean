import TrainingPortal.Encoding.Base64
import TrainingPortal.Encoding.Form
import TrainingPortal.Json.Writer
import TrainingPortal.PortalError
import TrainingPortal.Url.Basic

/-!
# Calls and requests

A call is what an operation asks of the network: a method, an address as text, a query, an
authorisation and a body. `Call.request` turns it into the request that is sent, unless the address
is no http URL or a header would hold a character that no header may hold.
-/

namespace TrainingPortal.Http

open Text Encoding

/-- The methods used. -/
inductive Method
  | get
  | post
  deriving DecidableEq

/-- The name of a method. -/
def Method.name : Method → String
  | get => "GET"
  | post => "POST"

/-- What a call carries. -/
inductive Body
  | empty
  | form (pairs : List (String × String))
  | json (value : Json)

/-- The text of a body. -/
def Body.text : Body → String
  | empty => ""
  | form pairs => Form.encode pairs
  | json value => value.compact

/-- The type of a body. -/
def Body.contentType : Body → Option String
  | empty => none
  | form _ => some "application/x-www-form-urlencoded"
  | json _ => some "application/json"

/-- With what a call is authorised. -/
inductive Authorization
  /-- With the name and secret of a client. -/
  | basic (name secret : String)
  /-- With an access token. -/
  | bearer (token : String)
  deriving DecidableEq

/-- The value of an authorisation header. -/
def Authorization.value : Authorization → List Char
  | basic name secret =>
    "Basic ".toList ++ Base64.encode (Utf8.bytes name ++ Utf8.encodeChar ':' ++ Utf8.bytes secret)
  | bearer token => "Bearer ".toList ++ token.toList

/-- What an operation asks of the network. -/
structure Call where
  method : Method
  address : String
  query : List (String × String) := []
  authorization : Authorization
  /-- Whether only JSON is accepted as an answer. -/
  wantsJson : Bool
  body : Body := .empty

/-- A request as it is sent. -/
structure Request where
  method : Method
  url : Url
  /-- The values of the authorisation headers, in order. -/
  authorizations : List (List Char)
  accept : String
  contentType : Option String
  userAgent : String
  body : String

/-- How this client names itself to portals. -/
def userAgent : String := "workshop-cli/0.1.0"

/-- Whether a character may stand in a header. -/
def inHeader (c : Char) : Bool := (0x20 ≤ c.toNat && c.toNat != 0x7F) || c == '\t'

/-- The text of an authorisation header for a user named in a URL. -/
def userinfoAuthorization (u : Url) : List (List Char) :=
  if u.username.isEmpty && u.password.isEmpty then []
  else
    let plain (cs : List Char) := String.ofList (Utf8.decodeLossy (Percent.decode cs))
    [(Authorization.basic (plain u.username) (plain u.password)).value]

/-- Whether a character that hosts may hold may not stand in a URI. -/
def isOutsideUri (c : Char) : Bool := "\"`\x7b\x7d".toList.contains c

/-- The request that a call leads to. -/
def Call.request (call : Call) : Except TransportFailure Request :=
  match Url.parse call.address with
  | .error .otherScheme => .error (.schemeRefused call.address)
  | .error fault => .error (.invalidUrl fault.message)
  | .ok url =>
    let target := { url with username := [], password := [] }.addPairs call.query
    if !call.authorization.value.all inHeader then .error .invalidHeader
    else if target.host.any isOutsideUri then .error (.hostRefused target.write)
    else
      .ok {
        method := call.method
        url := target
        authorizations := userinfoAuthorization url ++ [call.authorization.value]
        accept := if call.wantsJson then "application/json" else "*/*"
        contentType := call.body.contentType
        userAgent
        body := call.body.text }

/-- A header value without blanks at its ends. -/
def trimHeader (cs : List Char) : List Char :=
  let isBlank (c : Char) : Bool := c == ' ' || c == '\t'
  dropTailWhile isBlank (cs.dropWhile isBlank)

/-- The authorisation headers of a request in one text. -/
def Request.authorization (r : Request) : Option String :=
  if r.authorizations.isEmpty then none
  else some (" | ".intercalate (r.authorizations.map fun v => String.ofList (trimHeader v)))

end TrainingPortal.Http
