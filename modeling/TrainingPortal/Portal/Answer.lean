import TrainingPortal.Http.Network
import TrainingPortal.Http.Status
import TrainingPortal.Json.Reader

/-!
# Answers of a portal

How the answer to a call becomes a value or an error. Only a complete answer with status 200 whose
body decodes gives a value; any other status is an error that carries the body.
-/

namespace TrainingPortal

/-- Operations on a portal, over a network. -/
abbrev PortalM := ExceptT PortalError Http.NetworkM

namespace Portal

open Http

/-- Makes a call, once. -/
def call (context : String) (c : Call) : PortalM Response := do
  match ← (attempt c : NetworkM _) with
  | .ok response => return response
  | .error failure => throw (.network context failure)

/-- The body of an answer. -/
def readBody (context : String) (r : Response) : PortalM String :=
  match r.text? with
  | some body => return body
  | none => throw (.network s!"{context} (reading response)" .bodyBroken)

/-- Refuses an answer with a status other than 200. -/
def expectOk (operation : String) (r : Response) : PortalM Unit := do
  Traced.log .debug .calls s!"{operation} returned status {describeStatus r.status}"
  if r.status ≠ 200 then
    let body ← readBody operation r
    throw (.protocol operation r.status body)

/-- The value in the body of an answer that is read as a record. -/
def decodeBody {α : Type} (record : Record) (ofJson? : Json → Option α) (context : String)
    (r : Response) : PortalM α := do
  let body ← readBody context r
  match (Json.parse? body).bind ofJson? with
  | some value => return value
  | none => throw (.decode ⟨context, some ⟨record, body⟩⟩)

end Portal

end TrainingPortal
