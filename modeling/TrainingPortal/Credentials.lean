import TrainingPortal.Json.Record
import TrainingPortal.PortalError
import TrainingPortal.Text.Blank
import TrainingPortal.Text.Quoted

/-!
# Credentials

The address of a training portal together with the robot account and the client that may use it.
`validate` refuses what cannot possibly log in; `describe` shows credentials without their secrets.
-/

namespace TrainingPortal

/-- Address and robot account of one training portal. -/
structure Credentials where
  url : String
  clientId : String
  clientSecret : String
  username : String
  password : String
  /-- The workshops registered with the portal. -/
  workshops : List String := []
  deriving DecidableEq, Inhabited

namespace Credentials

/-- Refuses a blank address and an account without name or password. -/
def validate (c : Credentials) : Except PortalError Unit :=
  if (Text.trim c.url).isEmpty then .error .invalidEndpoint
  else if c.username.isEmpty || c.password.isEmpty then .error .invalidCredentials
  else .ok ()

/-- What stands in place of a secret. -/
def redacted : String := Text.quoted "<redacted>"

/-- The credentials for a reader, the secrets blotted out. -/
def describe (c : Credentials) : String :=
  "PortalCredentials \x7b url: " ++ Text.quoted c.url ++
    ", client_id: " ++ Text.quoted c.clientId ++ ", client_secret: " ++ redacted ++
    ", username: " ++ Text.quoted c.username ++ ", password: " ++ redacted ++
    ", workshops: " ++ Text.quotedList c.workshops ++ " \x7d"

/-- The names of the fields, in order. -/
def fieldNames : List String :=
  ["url", "client_id", "client_secret", "username", "password", "workshops"]

/-- Credentials as an object; an empty list of workshops is left out. -/
def toJson (c : Credentials) : Json :=
  .object <|
    [("url", .text c.url), ("client_id", .text c.clientId), ("client_secret", .text c.clientSecret),
      ("username", .text c.username), ("password", .text c.password)] ++
    if c.workshops.isEmpty then [] else [("workshops", .array (c.workshops.map .text))]

/-- Credentials read from a record; only the workshops may be missing. -/
def ofJson? (j : Json) : Option Credentials := do
  match ← Json.fields? fieldNames j with
  | [url, clientId, clientSecret, username, password, workshops] =>
    return {
      url := ← Json.required Json.toText? url
      clientId := ← Json.required Json.toText? clientId
      clientSecret := ← Json.required Json.toText? clientSecret
      username := ← Json.required Json.toText? username
      password := ← Json.required Json.toText? password
      workshops := ← Json.optional [] (Json.toList? Json.toText?) workshops }
  | _ => none

end Credentials

end TrainingPortal
