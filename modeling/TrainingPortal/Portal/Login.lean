import TrainingPortal.Credentials
import TrainingPortal.Endpoint
import TrainingPortal.Portal.Answer
import TrainingPortal.Token

/-!
# Logging in and out

A login exchanges the robot account for an access token. Whoever logs in hands the token back at the
end: with `revoke`, which never fails, or, if that was forgotten, the login is `abandon`ed with a
warning.
-/

namespace TrainingPortal

open Http

/-- What a login gives: a token and what is needed to hand it back. -/
structure Login where
  /-- The base address of the portal. -/
  base : String
  token : Token
  clientId : String
  clientSecret : String
  deriving DecidableEq, Inhabited

namespace Login

/-- The call for a token. -/
def tokenCall (base : String) (c : Credentials) : Call where
  method := .post
  address := Endpoint.token base
  authorization := .basic c.clientId c.clientSecret
  wantsJson := false
  body := .form [("grant_type", "password"), ("username", c.username), ("password", c.password)]

/-- Asks the portal for a token. -/
def requestToken (base : String) (c : Credentials) : PortalM Token := do
  Traced.log .info .login s!"Logging in to training portal {base} as {c.username}"
  let response ← Portal.call "cannot connect to training portal" (tokenCall base c)
  Traced.log .debug .login s!"Token request status: {describeStatus response.status}"
  if response.status ≠ 200 then throw (.auth response.status)
  Portal.decodeBody .token Token.ofJson? "cannot decode auth details" response

/-- Logs in to the portal at a base address. -/
def start (base : String) (c : Credentials) : PortalM Login := do
  c.validate
  let token ← requestToken base c
  Traced.log .info .login s!"Logged in to training portal {base}"
  return { base, token, clientId := c.clientId, clientSecret := c.clientSecret }

/-- The call that hands the token back. -/
def revokeCall (l : Login) : Call where
  method := .post
  address := Endpoint.revoke l.base
  authorization := .bearer l.token.accessToken
  wantsJson := false
  body := .form [("token", l.token.accessToken), ("client_id", l.clientId),
    ("client_secret", l.clientSecret)]

/-- Hands the token back, whatever the portal says to that. -/
def revoke (l : Login) : NetworkM Unit := do
  match ← attempt l.revokeCall with
  | .ok response =>
    Traced.log .debug .login s!"Token revocation returned status {describeStatus response.status}"
  | .error failure =>
    Traced.log .warn .login s!"Failed to revoke access token: {failure.message}"

/-- Gives up a login without handing the token back. -/
def abandon (l : Login) : Traced Unit :=
  Traced.log .warn .login s!"Access token for {l.base} dropped without revocation"

/-- A login for a reader, without what would let one use it. -/
def describe (l : Login) : String :=
  "AuthSession \x7b client: PortalClient \x7b base_url: " ++ Text.quoted l.base ++
    ", http_client: Client \x7d, token: " ++ l.token.describe ++ ", client_id: " ++
    Text.quoted l.clientId ++ ", client_secret: " ++ Credentials.redacted ++
    ", revoked: false \x7d"

end Login

end TrainingPortal
