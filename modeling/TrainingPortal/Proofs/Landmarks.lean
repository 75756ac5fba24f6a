import TrainingPortal.Portal.Operations

/-!
# Landmarks of a trace

What someone who sees only the calls and the log can tell about logins and sessions: calls that hand
a token back (`Call.isRevocation`), calls that request a session (`Call.isSessionRequest`), the
entry that greets a login (`LogEntry.isGreeting`) and the one that warns of a login given up
(`LogEntry.isDropWarning`). The lemmas say which calls and entries of this client are which.
-/

namespace TrainingPortal

open Http

/-! ## Calls -/

namespace Http.Call

/-- Whether the call posts to an address that ends so. -/
def postsTo (path : String) (c : Call) : Bool :=
  c.method == .post && path.toList.isSuffixOf c.address.toList

/-- Whether the call hands a token back. -/
def isRevocation (c : Call) : Bool := c.postsTo "/oauth2/revoke-token/"

/-- Whether the call requests a session. -/
def isSessionRequest (c : Call) : Bool := c.postsTo "/request/"

end Http.Call

namespace Login

@[simp] theorem isRevocation_tokenCall (base : String) (c : Credentials) :
    (tokenCall base c).isRevocation = false := by
  simp [Call.isRevocation, Call.postsTo, tokenCall, Endpoint.token, Endpoint.absolute,
    List.isSuffixOf, List.isPrefixOf]

@[simp] theorem isRevocation_requestCall (l : Login) (r : SessionRequest) :
    (l.requestCall r).isRevocation = false := by
  simp [Call.isRevocation, Call.postsTo, requestCall, Endpoint.request, Endpoint.absolute,
    List.isSuffixOf, List.isPrefixOf]

@[simp] theorem isRevocation_catalogCall (l : Login) : l.catalogCall.isRevocation = false := rfl

@[simp] theorem isRevocation_terminateCall (l : Login) (session : String) :
    (l.terminateCall session).isRevocation = false := rfl

@[simp] theorem isRevocation_revokeCall (l : Login) : l.revokeCall.isRevocation = true := by
  simp [Call.isRevocation, Call.postsTo, revokeCall, Endpoint.revoke, Endpoint.absolute,
    List.isSuffixOf]

@[simp] theorem isSessionRequest_tokenCall (base : String) (c : Credentials) :
    (tokenCall base c).isSessionRequest = false := by
  simp [Call.isSessionRequest, Call.postsTo, tokenCall, Endpoint.token, Endpoint.absolute,
    List.isSuffixOf, List.isPrefixOf]

@[simp] theorem isSessionRequest_requestCall (l : Login) (r : SessionRequest) :
    (l.requestCall r).isSessionRequest = true := by
  simp [Call.isSessionRequest, Call.postsTo, requestCall, Endpoint.request, Endpoint.absolute,
    List.isSuffixOf]

@[simp] theorem isSessionRequest_catalogCall (l : Login) :
    l.catalogCall.isSessionRequest = false := rfl

@[simp] theorem isSessionRequest_revokeCall (l : Login) :
    l.revokeCall.isSessionRequest = false := by
  simp [Call.isSessionRequest, Call.postsTo, revokeCall, Endpoint.revoke, Endpoint.absolute,
    List.isSuffixOf, List.isPrefixOf]

end Login

/-! ## Log entries -/

namespace LogEntry

/-- Whether the entry greets a login. -/
def isGreeting (e : LogEntry) : Bool :=
  e.level == .info && e.area == .login && "Logged in to ".toList.isPrefixOf e.text.toList

/-- Whether the entry warns that a login was given up. -/
def isDropWarning (e : LogEntry) : Bool :=
  e.level == .warn && e.area == .login && "Access token for ".toList.isPrefixOf e.text.toList &&
    " dropped without revocation".toList.isSuffixOf e.text.toList

/-- Whether the entry neither greets a login nor warns that one was given up. -/
def Neutral (e : LogEntry) : Prop := e.isGreeting = false ∧ e.isDropWarning = false

end LogEntry

namespace Login

/-- The entry that greets a login. -/
def greeting (base : String) : LogEntry :=
  ⟨.info, .login, s!"Logged in to training portal {base}"⟩

/-- The entry that warns that a login was given up. -/
def dropWarning (base : String) : LogEntry :=
  ⟨.warn, .login, s!"Access token for {base} dropped without revocation"⟩

@[simp] theorem isGreeting_greeting (base : String) : (greeting base).isGreeting = true := by
  simp [LogEntry.isGreeting, greeting, toString]

@[simp] theorem isDropWarning_greeting (base : String) : (greeting base).isDropWarning = false :=
  rfl

@[simp] theorem isGreeting_dropWarning (base : String) : (dropWarning base).isGreeting = false :=
  rfl

@[simp] theorem isDropWarning_dropWarning (base : String) :
    (dropWarning base).isDropWarning = true := by
  simp [LogEntry.isDropWarning, dropWarning, toString, List.isSuffixOf]

end Login

/-! ## Events -/

namespace Event

/-- Whether an event neither begins nor ends a login. -/
def Neutral : Event → Prop
  | logged e => e.Neutral
  | called c => c.isRevocation = false
  | _ => True

/-- Whether an event begins or ends a login. -/
def isOfLogin : Event → Bool
  | logged e => e.isGreeting || e.isDropWarning
  | called c => c.isRevocation
  | _ => false

theorem Neutral.isOfLogin {event : Event} (h : event.Neutral) : event.isOfLogin = false := by
  cases event with
  | logged e => exact Bool.or_eq_false_iff.2 h
  | called c => exact h
  | _ => rfl

end Event

end TrainingPortal
