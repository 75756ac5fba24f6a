import TrainingPortal.Encoding.Percent
import TrainingPortal.Text.Blank

/-!
# Addresses on a portal

The addresses of a portal's services, all formed from its base address: the one given, without
white space at its ends and without trailing slashes. Names of environments and sessions are
percent-encoded into a single segment of the path.
-/

namespace TrainingPortal.Endpoint

open Encoding

/-- The base address of a portal. -/
def base (url : String) : String :=
  String.ofList (Text.dropTailWhile (· == '/') (Text.trim url).toList)

/-- The address of a path on the portal. -/
def absolute (base path : String) : String := base ++ path

/-- Where tokens are issued. -/
def token (base : String) : String := absolute base "/oauth2/token/"

/-- Where tokens are revoked. -/
def revoke (base : String) : String := absolute base "/oauth2/revoke-token/"

/-- The catalog of environments. -/
def catalog (base : String) : String := absolute base "/workshops/catalog/environments"

/-- The page that a finished session leads to unless another is asked for. -/
def logout (base : String) : String := absolute base "/accounts/logout/"

/-- Where sessions of an environment are requested. -/
def request (base environment : String) : String :=
  absolute base ("/workshops/environment/" ++ Percent.encodeName environment ++ "/request/")

/-- Where a session is terminated. -/
def terminate (base session : String) : String :=
  absolute base ("/workshops/session/" ++ Percent.encodeName session ++ "/terminate/")

end TrainingPortal.Endpoint
