import TrainingPortal.Text.Utf8
import TrainingPortal.Trace

/-!
# The network

A network is known by the replies it will give: each request that leaves takes the next one, whether
it goes to an http or to an https address. A call that leads to no request, because of its address
or a header, takes none and is not sent, and without a connection no request leaves. When the
replies are used up, connections break. Replies have no headers, so none of them leads to another
address, and time is left out: a reply that comes too late for a call is one that never comes.
-/

namespace TrainingPortal.Http

open Text

/-- What happens to a request. -/
inductive Reply
  /-- It is answered with a status and a body. -/
  | answer (status : Nat) (body : List UInt8)
  /-- It is answered with a status, and the connection breaks within the body. -/
  | truncated (status : Nat)
  /-- The connection breaks before an answer. -/
  | broken
  deriving DecidableEq, Inhabited

/-- An answer as it arrives: the body is missing if reading it fails. -/
structure Response where
  status : Nat
  body : Option (List UInt8)
  deriving DecidableEq, Inhabited

/-- The text of the body; broken UTF-8 is read leniently. -/
def Response.text? (r : Response) : Option String :=
  r.body.map fun bytes => String.ofList (Utf8.decodeLossy bytes)

/-- A network with the replies that it has yet to give. -/
structure Network where
  connected : Bool
  replies : List Reply
  deriving Inhabited

/-- Computations over a network. -/
abbrev NetworkM := StateT Network Traced

/-- The next reply, as an answer to a request for this URL. -/
def nextReply (url : String) : NetworkM (Except TransportFailure Response) := fun network =>
  match network.replies with
  | [] => pure (.error (.connectionBroken url), network)
  | reply :: rest =>
    let network := { network with replies := rest }
    match reply with
    | .answer status body => pure (.ok ⟨status, some body⟩, network)
    | .truncated status => pure (.ok ⟨status, none⟩, network)
    | .broken => pure (.error (.connectionBroken url), network)

/-- Makes a call, once. -/
def attempt (call : Call) : NetworkM (Except TransportFailure Response) := do
  Traced.emit (.called call)
  match call.request with
  | .error failure => return .error failure
  | .ok request =>
    if (← get).connected then
      Traced.emit (.sent request)
      nextReply request.url.write
    else
      return .error (.unreachable request.url.write)

end TrainingPortal.Http
