import TrainingPortal.Http.Network

/-!
# What a call does to a network

A call either leaves as a request, and then takes the next reply, or does not leave, and then takes
none. Which of the two it is does not depend on the replies (`Call.departure`, `attempt_eq`): a
script of replies matters only as far as requests leave. A script is read as if it went on with
broken connections for ever (`Network.replyAt`), and two networks agree on their first replies
(`Network.Agree`) if no more requests than that can tell them apart.
-/

namespace TrainingPortal.Http

open Encoding

/-! ## Replies in a row -/

namespace Network

/-- The reply to the request with this position among those to come. -/
def replyAt (n : Network) (i : Nat) : Reply := n.replies.getD i .broken

/-- The network when this many requests have been replied to. -/
def skip (n : Network) (k : Nat) : Network := { n with replies := n.replies.drop k }

@[simp] theorem skip_zero (n : Network) : n.skip 0 = n := rfl

@[simp] theorem skip_skip (n : Network) (j k : Nat) : (n.skip j).skip k = n.skip (j + k) := by
  simp [skip, List.drop_drop]

@[simp] theorem replyAt_skip (n : Network) (k i : Nat) :
    (n.skip k).replyAt i = n.replyAt (k + i) := by
  simp [replyAt, skip, List.getD_eq_getElem?_getD, List.getElem?_drop]

/-- Two networks that the next `k` requests cannot tell apart. -/
structure Agree (k : Nat) (n n' : Network) : Prop where
  connected : n'.connected = n.connected
  replyAt : ∀ i < k, n'.replyAt i = n.replyAt i

namespace Agree

variable {j k : Nat} {n n' : Network}

theorem mono (h : Agree k n n') (hjk : j ≤ k) : Agree j n n' :=
  ⟨h.connected, fun i hi => h.replyAt i (Nat.lt_of_lt_of_le hi hjk)⟩

theorem skip (h : Agree (j + k) n n') : Agree k (n.skip j) (n'.skip j) := by
  refine ⟨h.connected, fun i hi => ?_⟩
  rw [replyAt_skip, replyAt_skip]
  exact h.replyAt (j + i) (by omega)

/-- Scripts agree as long as they begin with the same replies. -/
theorem append (connected : Bool) (before after after' : List Reply) :
    Agree before.length ⟨connected, before ++ after⟩ ⟨connected, before ++ after'⟩ := by
  refine ⟨rfl, fun i hi => ?_⟩
  simp [Network.replyAt, List.getElem?_append_left hi]

end Agree

end Network

/-! ## Headers -/

theorem inHeader_digit (n : Nat) : inHeader (Base64.digit n) = true := by
  by_cases small : n < 64
  · have all : ∀ n < 64, inHeader (Base64.digit n) = true := by decide
    exact all n small
  · rw [Base64.digit, if_neg (by omega), if_neg (by omega), if_neg (by omega), if_neg (by omega)]
    decide

theorem all_base64 (bytes : List UInt8) : (Base64.encode bytes).all inHeader = true := by
  have padding : inHeader '=' = true := by decide
  fun_induction Base64.encode bytes <;> simp_all [inHeader_digit]

/-- The name and the secret of a client may always stand in a header. -/
theorem Authorization.all_basic (name secret : String) :
    (basic name secret).value.all inHeader = true := by
  change ("Basic ".toList ++ Base64.encode _).all inHeader = true
  have scheme : "Basic ".toList.all inHeader = true := by decide
  rw [List.all_append, scheme, all_base64, Bool.true_and]

theorem Authorization.all_bearer (token : String) :
    (bearer token).value.all inHeader = token.toList.all inHeader := by
  change ("Bearer ".toList ++ token.toList).all inHeader = _
  have scheme : "Bearer ".toList.all inHeader = true := by decide
  rw [List.all_append, scheme, Bool.true_and]

/-! ## One call -/

/-- The request of a call, once its address is a URL. -/
def Call.requestTo (c : Call) (url : Url) : Request where
  method := c.method
  url := { url with username := [], password := [] }.addPairs c.query
  authorizations := userinfoAuthorization url ++ [c.authorization.value]
  accept := if c.wantsJson then "application/json" else "*/*"
  contentType := c.body.contentType
  userAgent := userAgent
  body := c.body.text

theorem Call.request_eq (c : Call) :
    c.request =
      match Url.parse c.address with
      | .error .otherScheme => .error (.schemeRefused c.address)
      | .error fault => .error (.invalidUrl fault.message)
      | .ok url =>
        if !c.authorization.value.all inHeader then .error .invalidHeader
        else if url.host.any isOutsideUri then .error (.hostRefused (c.requestTo url).url.write)
        else .ok (c.requestTo url) := by
  unfold request
  cases Url.parse c.address with
  | error fault => cases fault <;> rfl
  | ok url =>
    simp only [Url.host_addPairs]
    rfl

/-- A call leads to a request exactly if its address is a URL that may be sent to and its
authorisation may stand in a header. -/
theorem Call.request_eq_ok_iff {c : Call} {q : Request} :
    c.request = .ok q ↔ ∃ url, Url.parse c.address = .ok url ∧
      c.authorization.value.all inHeader = true ∧ url.host.any isOutsideUri = false ∧
      q = c.requestTo url := by
  rw [request_eq]
  cases parsed : Url.parse c.address with
  | error fault => cases fault <;> simp
  | ok url =>
    simp only [Except.ok.injEq, exists_eq_left']
    cases c.authorization.value.all inHeader <;> cases url.host.any isOutsideUri <;>
      simp [eq_comm]

/-- The request that leaves for a call, or why none does. -/
def Call.departure (c : Call) (connected : Bool) : Except TransportFailure Request :=
  match c.request with
  | .error failure => .error failure
  | .ok r => if connected then .ok r else .error (.unreachable r.url.write)

theorem Call.departure_connected (c : Call) : c.departure true = c.request := by
  rw [departure]
  cases c.request <;> rfl

theorem Call.departure_eq_ok {c : Call} {connected : Bool} {q : Request} :
    c.departure connected = .ok q ↔ connected = true ∧ c.request = .ok q := by
  cases connected with
  | true => simp [departure_connected]
  | false =>
    rw [departure]
    cases c.request <;> simp

/-- What it takes for a call to leave. -/
theorem Call.departure_eq_ok_iff {c : Call} {connected : Bool} {q : Request} :
    c.departure connected = .ok q ↔ connected = true ∧ c.authorization.value.all inHeader = true ∧
      ∃ url, Url.parse c.address = .ok url ∧ url.host.any isOutsideUri = false ∧
        q = c.requestTo url := by
  rw [departure_eq_ok, request_eq_ok_iff]
  refine and_congr_right fun _ => ⟨?_, ?_⟩
  · rintro ⟨url, parsed, header, host, rfl⟩
    exact ⟨header, url, parsed, host, rfl⟩
  · rintro ⟨header, url, parsed, host, rfl⟩
    exact ⟨url, parsed, header, host, rfl⟩

/-- A call to a URL that may be sent to, with headers in order, leaves wherever there is a
connection. -/
theorem Call.departure_of_parse {c : Call} {url : Url} (parsed : Url.parse c.address = .ok url)
    (host : url.host.any isOutsideUri = false)
    (header : c.authorization.value.all inHeader = true) :
    c.departure true = .ok (c.requestTo url) :=
  departure_eq_ok_iff.2 ⟨rfl, header, url, parsed, host, rfl⟩

/-- A call whose authorisation may not stand in a header does not leave. -/
theorem Call.departure_of_header {c : Call} (connected : Bool)
    (header : c.authorization.value.all inHeader = false) :
    (c.departure connected).toOption = none := by
  cases departs : c.departure connected with
  | error failure => rfl
  | ok q => exact absurd (header.symm.trans (departure_eq_ok_iff.1 departs).2.1) (by decide)

/-- What comes back with a reply to a request for this URL. -/
def Reply.answerFor (url : String) : Reply → Except TransportFailure Response
  | .answer status body => .ok ⟨status, some body⟩
  | .truncated status => .ok ⟨status, none⟩
  | .broken => .error (.connectionBroken url)

namespace NetworkM

variable {α β : Type}

theorem run_bind (x : NetworkM α) (f : α → NetworkM β) (n : Network) :
    (x >>= f) n = ⟨(f (x n).value.1 (x n).value.2).value,
      (x n).trace ++ (f (x n).value.1 (x n).value.2).trace⟩ := rfl

theorem emit_bind (event : Event) (f : Unit → NetworkM α) (n : Network) :
    ((Traced.emit event : NetworkM Unit) >>= f) n =
      ⟨(f () n).value, event :: (f () n).trace⟩ := rfl

theorem get_bind (f : Network → NetworkM α) (n : Network) :
    ((get : NetworkM Network) >>= f) n = f n n := rfl

end NetworkM

theorem nextReply_eq (url : String) (n : Network) :
    nextReply url n = ⟨((n.replyAt 0).answerFor url, n.skip 1), []⟩ := by
  rcases n with ⟨connected, _ | ⟨reply, rest⟩⟩
  · rfl
  · cases reply <;> rfl

/-- **What a call does**, in one equation. -/
theorem attempt_eq (c : Call) (n : Network) :
    attempt c n =
      match c.departure n.connected with
      | .error failure => ⟨(.error failure, n), [.called c]⟩
      | .ok r => ⟨((n.replyAt 0).answerFor r.url.write, n.skip 1), [.called c, .sent r]⟩ := by
  rw [attempt, NetworkM.emit_bind]
  cases h : c.request with
  | error failure =>
    simp only [Call.departure, h]
    rfl
  | ok r =>
    simp only [Call.departure, h, NetworkM.get_bind]
    split
    · rw [NetworkM.emit_bind, nextReply_eq]
    · rfl

theorem attempt_of_departure {c : Call} {n : Network} {r : Request}
    (departs : c.departure n.connected = .ok r) :
    (attempt c n).value.1 = (n.replyAt 0).answerFor r.url.write := by
  rw [attempt_eq, departs]

@[simp] theorem calls_attempt (c : Call) (n : Network) :
    Traced.calls (attempt c n).trace = [c] := by
  rw [attempt_eq]
  cases c.departure n.connected <;> rfl

/-- A call is seen before the request that leaves for it. -/
theorem trace_attempt (c : Call) (n : Network) :
    ∃ sent : List Request, (attempt c n).trace = .called c :: sent.map .sent := by
  rw [attempt_eq]
  cases c.departure n.connected with
  | error failure => exact ⟨[], rfl⟩
  | ok r => exact ⟨[r], rfl⟩

theorem mem_trace_attempt {c : Call} {n : Network} {event : Event}
    (h : event ∈ (attempt c n).trace) : event = .called c ∨ ∃ r, event = .sent r := by
  obtain ⟨sent, eq⟩ := trace_attempt c n
  rw [eq, List.mem_cons, List.mem_map] at h
  rcases h with h | ⟨r, -, h⟩
  · exact .inl h
  · exact .inr ⟨r, h.symm⟩

theorem length_requests_attempt (c : Call) (n : Network) :
    (Traced.requests (attempt c n).trace).length ≤ 1 := by
  rw [attempt_eq]
  cases c.departure n.connected with
  | error failure => exact Nat.zero_le 1
  | ok r => exact Nat.le_refl 1

/-- A call takes as many replies as requests leave for it. -/
theorem left_attempt (c : Call) (n : Network) :
    (attempt c n).value.2 = n.skip (Traced.requests (attempt c n).trace).length := by
  rw [attempt_eq]
  cases c.departure n.connected <;> rfl

/-- A call sees no replies but those it takes. -/
theorem attempt_congr {c : Call} {n n' : Network}
    (h : n.Agree (Traced.requests (attempt c n).trace).length n') :
    (attempt c n').value.1 = (attempt c n).value.1 ∧
      (attempt c n').trace = (attempt c n).trace := by
  have same := h.connected
  rw [attempt_eq] at h ⊢
  rw [attempt_eq, same]
  cases hd : c.departure n.connected with
  | error failure => exact ⟨rfl, rfl⟩
  | ok r =>
    rw [hd] at h
    exact ⟨congrArg (Reply.answerFor r.url.write) (h.replyAt 0 Nat.one_pos), rfl⟩

end TrainingPortal.Http
