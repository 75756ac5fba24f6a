import TrainingPortal.Json.Record
import TrainingPortal.Text.Quoted

/-!
# What portals say about sessions

The session that a portal allocated, and the status of a session that was asked to terminate. Every
field may be missing.
-/

namespace TrainingPortal

/-- A session allocated by a portal. -/
structure Session where
  name : String := ""
  user : String := ""
  /-- The path under which the session is activated. -/
  url : String := ""
  workshop : String := ""
  environment : String := ""
  namespaceName : String := ""
  deriving DecidableEq, Inhabited

namespace Session

/-- A session for a reader. -/
def describe (s : Session) : String :=
  "SessionRequestResult \x7b name: " ++ Text.quoted s.name ++ ", user: " ++ Text.quoted s.user ++
    ", url: " ++ Text.quoted s.url ++ ", workshop: " ++ Text.quoted s.workshop ++
    ", environment: " ++ Text.quoted s.environment ++
    ", namespace: " ++ Text.quoted s.namespaceName ++ " \x7d"

/-- A session as an object. -/
def toJson (s : Session) : Json :=
  .object [("name", .text s.name), ("user", .text s.user), ("url", .text s.url),
    ("workshop", .text s.workshop), ("environment", .text s.environment),
    ("namespace", .text s.namespaceName)]

/-- A session read from a record. -/
def ofJson? (j : Json) : Option Session := do
  match ← Json.fields? ["name", "user", "url", "workshop", "environment", "namespace"] j with
  | [name, user, url, workshop, environment, namespaceName] =>
    return {
      name := ← Json.optional "" Json.toText? name
      user := ← Json.optional "" Json.toText? user
      url := ← Json.optional "" Json.toText? url
      workshop := ← Json.optional "" Json.toText? workshop
      environment := ← Json.optional "" Json.toText? environment
      namespaceName := ← Json.optional "" Json.toText? namespaceName }
  | _ => none

end Session

/-- The status of a session that was asked to terminate. -/
structure SessionStatus where
  started : String := ""
  expires : String := ""
  expiring : Bool := false
  countdown : Int := 0
  extendable : Bool := false
  status : String := ""
  deriving DecidableEq, Inhabited

namespace SessionStatus

/-- A status for a reader. -/
def describe (s : SessionStatus) : String :=
  "SessionStatus \x7b started: " ++ Text.quoted s.started ++
    ", expires: " ++ Text.quoted s.expires ++ ", expiring: " ++ toString s.expiring ++
    ", countdown: " ++ toString s.countdown ++ ", extendable: " ++ toString s.extendable ++
    ", status: " ++ Text.quoted s.status ++ " \x7d"

/-- A status as an object. -/
def toJson (s : SessionStatus) : Json :=
  .object [("started", .text s.started), ("expires", .text s.expires),
    ("expiring", .bool s.expiring), ("countdown", .integer s.countdown),
    ("extendable", .bool s.extendable), ("status", .text s.status)]

/-- A status read from a record. -/
def ofJson? (j : Json) : Option SessionStatus := do
  let names := ["started", "expires", "expiring", "countdown", "extendable", "status"]
  match ← Json.fields? names j with
  | [started, expires, expiring, countdown, extendable, status] =>
    return {
      started := ← Json.optional "" Json.toText? started
      expires := ← Json.optional "" Json.toText? expires
      expiring := ← Json.optional false Json.toBool? expiring
      countdown := ← Json.optional 0 Json.toInt64? countdown
      extendable := ← Json.optional false Json.toBool? extendable
      status := ← Json.optional "" Json.toText? status }
  | _ => none

end SessionStatus

end TrainingPortal
