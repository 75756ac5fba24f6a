import TrainingPortal.Endpoint
import TrainingPortal.Parameter

/-!
# Session requests

What a session is requested with, and how it is told to the portal: the page to return to, the
time limit and the user go into the query, the parameters into the body.
-/

namespace TrainingPortal

/-- A request for a session. -/
structure SessionRequest where
  workshop : String
  /-- The environment to ask; the empty name stands for the one the catalog offers. -/
  environment : String := ""
  parameters : List Parameter := []
  /-- The page that the session leads to when it ends. -/
  indexUrl : Option String := none
  user : Option String := none
  /-- Seconds until the session must be activated. -/
  timeout : UInt32 := 60
  deriving DecidableEq, Inhabited

namespace SessionRequest

/-- A text that is given and not empty. -/
def given (s : Option String) : Option String := s.filter (!·.isEmpty)

/-- The query of the request; the user is named only if there is one. -/
def query (r : SessionRequest) (base : String) : List (String × String) :=
  [("index_url", (given r.indexUrl).getD (Endpoint.logout base)),
    ("timeout", toString r.timeout)] ++
    ((given r.user).map fun user => ("user", user)).toList

/-- The body of the request. -/
def body (r : SessionRequest) : Json :=
  .object [("parameters", .array (r.parameters.map Parameter.toJson))]

end SessionRequest

end TrainingPortal
