import TrainingPortal.Json.Record
import TrainingPortal.Text.Quoted

/-!
# Access tokens

What a portal issues at login. Only the access token itself must be given; `describe` shows a
token without what would let a reader use it.
-/

namespace TrainingPortal

/-- A token issued by a portal. -/
structure Token where
  accessToken : String
  expiresIn : Int := 0
  tokenType : String := ""
  scope : String := ""
  refreshToken : String := ""
  deriving DecidableEq, Inhabited

namespace Token

/-- The names of the fields, in order. -/
def fieldNames : List String :=
  ["access_token", "expires_in", "token_type", "scope", "refresh_token"]

/-- The token for a reader, the tokens proper left out. -/
def describe (t : Token) : String :=
  "AuthToken \x7b expires_in: " ++ toString t.expiresIn ++ ", token_type: " ++
    Text.quoted t.tokenType ++ ", scope: " ++ Text.quoted t.scope ++ ", .. \x7d"

/-- A token read from a record. -/
def ofJson? (j : Json) : Option Token := do
  match ← Json.fields? fieldNames j with
  | [accessToken, expiresIn, tokenType, scope, refreshToken] =>
    return {
      accessToken := ← Json.required Json.toText? accessToken
      expiresIn := ← Json.optional 0 Json.toInt64? expiresIn
      tokenType := ← Json.optional "" Json.toText? tokenType
      scope := ← Json.optional "" Json.toText? scope
      refreshToken := ← Json.optional "" Json.toText? refreshToken }
  | _ => none

end Token

end TrainingPortal
