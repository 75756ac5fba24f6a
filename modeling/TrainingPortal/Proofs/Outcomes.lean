import TrainingPortal.Proofs.Operations

/-!
# What comes of an answer

Logging in, listing the environments, requesting a session and terminating one each make one call,
and they share how they judge what comes back: an answer with status 200 is read and decoded, any
other one is refused. An `Inquiry` is what an operation brings along for that, `Inquiry.Judged`
relates what came back to what comes of it, with one rule for each class of answers, and
`PortalM.Inquires` says that an operation makes one call and judges the answer to it by these rules.

The operations differ in what they do with a status other than 200: `start` names the status and
leaves the body alone, `terminateSession` looks for 404 before it reads the body, and otherwise the
body has to be read in full to be repeated in the error (`Portal.refusal`).
-/

namespace TrainingPortal

open Http

namespace Http

/-- What comes back from a call: why no request leaves for it, or what the next reply holds. -/
def Call.answer (c : Call) (n : Network) : Except TransportFailure Response :=
  match c.departure n.connected with
  | .error failure => .error failure
  | .ok r => (n.replyAt 0).answerFor r.url.write

theorem value_attempt (c : Call) (n : Network) : (attempt c n).value.1 = c.answer n := by
  rw [attempt_eq, Call.answer]
  cases c.departure n.connected <;> rfl

theorem requests_attempt (c : Call) (n : Network) :
    Traced.requests (attempt c n).trace = (c.departure n.connected).toOption.toList := by
  rw [attempt_eq]
  cases c.departure n.connected <;> rfl

/-- An answer is complete exactly if the reply to the request was. -/
theorem Call.answer_eq_complete_iff {c : Call} {n : Network} {status : Nat} {body : List UInt8} :
    c.answer n = .ok ⟨status, some body⟩ ↔
      (∃ r, c.departure n.connected = .ok r) ∧ n.replyAt 0 = .answer status body := by
  rw [answer]
  cases c.departure n.connected with
  | error failure => simp
  | ok r => cases n.replyAt 0 <;> simp [Reply.answerFor]

/-- An answer breaks off exactly if the reply to the request did. -/
theorem Call.answer_eq_truncated_iff {c : Call} {n : Network} {status : Nat} :
    c.answer n = .ok ⟨status, none⟩ ↔
      (∃ r, c.departure n.connected = .ok r) ∧ n.replyAt 0 = .truncated status := by
  rw [answer]
  cases c.departure n.connected with
  | error failure => simp
  | ok r => cases n.replyAt 0 <;> simp [Reply.answerFor]

end Http

/-! ## The rules -/

/-- What an operation brings along to judge the answer to its call. -/
structure Inquiry (α : Type) where
  /-- What is said of a call without an answer. -/
  context : String
  /-- The error of an answer with a status other than 200. -/
  refusal : Response → PortalError
  /-- What is said of an answer with status 200 that holds no value. -/
  decoding : String
  /-- What the text of a body is read as. -/
  record : Record
  /-- The value that the text of a body stands for. -/
  value? : String → Option α

namespace Inquiry

variable {α : Type}

/-- What comes of what came back. -/
inductive Judged (q : Inquiry α) :
    Except TransportFailure Response → Except PortalError α → Prop
  | unanswered (failure : TransportFailure) :
    Judged q (.error failure) (.error (.network q.context failure))
  | refused {r : Response} (other : r.status ≠ 200) : Judged q (.ok r) (.error (q.refusal r))
  | unreadable {r : Response} (ok : r.status = 200) (unread : r.text? = none) :
    Judged q (.ok r) (.error (.network s!"{q.decoding} (reading response)" .bodyBroken))
  | undecodable {r : Response} {text : String} (ok : r.status = 200) (read : r.text? = some text)
    (undecoded : q.value? text = none) :
    Judged q (.ok r) (.error (.decode ⟨q.decoding, some ⟨q.record, text⟩⟩))
  | decoded {r : Response} {text : String} {a : α} (ok : r.status = 200)
    (read : r.text? = some text) (value : q.value? text = some a) : Judged q (.ok r) (.ok a)

/-- The outcome that the rules single out. -/
def judge (q : Inquiry α) : Except TransportFailure Response → Except PortalError α
  | .error failure => .error (.network q.context failure)
  | .ok r =>
    if r.status = 200 then
      match r.text? with
      | none => .error (.network s!"{q.decoding} (reading response)" .bodyBroken)
      | some text =>
        match q.value? text with
        | none => .error (.decode ⟨q.decoding, some ⟨q.record, text⟩⟩)
        | some a => .ok a
    else .error (q.refusal r)

variable {q : Inquiry α} {back : Except TransportFailure Response} {o : Except PortalError α}

theorem Judged.eq (h : q.Judged back o) : q.judge back = o := by
  cases h with
  | unanswered failure => rfl
  | refused other => rw [judge, if_neg other]
  | unreadable ok unread => rw [judge, if_pos ok, unread]
  | undecodable ok read undecoded =>
    rw [judge, if_pos ok, read]
    simp only [undecoded]
  | decoded ok read value =>
    rw [judge, if_pos ok, read]
    simp only [value]

theorem judged_judge (q : Inquiry α) (back : Except TransportFailure Response) :
    q.Judged back (q.judge back) := by
  cases back with
  | error failure => exact .unanswered failure
  | ok r =>
    by_cases ok : r.status = 200
    case neg => simpa only [judge, if_neg ok] using Judged.refused ok
    cases read : r.text? with
    | none => simpa only [judge, if_pos ok, read] using Judged.unreadable ok read
    | some text =>
      cases value : q.value? text with
      | none => simpa only [judge, if_pos ok, read, value] using Judged.undecodable ok read value
      | some a => simpa only [judge, if_pos ok, read, value] using Judged.decoded ok read value

/-- There is one outcome for whatever comes back. -/
theorem judged_iff : q.Judged back o ↔ q.judge back = o :=
  ⟨Judged.eq, fun h => h ▸ q.judged_judge back⟩

/-- Only a complete answer with status 200 that can be decoded gives a value. -/
theorem judge_eq_ok_iff {a : α} :
    q.judge back = .ok a ↔
      ∃ body, back = .ok ⟨200, some body⟩ ∧
        q.value? (String.ofList (Text.Utf8.decodeLossy body)) = some a := by
  constructor
  · intro h
    cases judged_iff.2 h with
    | @decoded r text _ ok read value =>
      obtain ⟨body, complete, rfl⟩ := Option.map_eq_some_iff.1 read
      exact ⟨body, by rw [← ok, ← complete], value⟩
  · rintro ⟨body, rfl, value⟩
    exact (Judged.decoded rfl rfl value).eq

/-- An error is about the transport, about the decoding, or the one with which the answer was
refused. -/
theorem refusal_of_judge {e : PortalError} (h : q.judge back = .error e)
    (network : ∀ context cause, e ≠ .network context cause) (decode : ∀ text, e ≠ .decode text) :
    ∃ r, back = .ok r ∧ r.status ≠ 200 ∧ q.refusal r = e := by
  cases judged_iff.2 h with
  | unanswered failure => exact absurd rfl (network _ _)
  | refused other => exact ⟨_, rfl, other, rfl⟩
  | unreadable => exact absurd rfl (network _ _)
  | undecodable => exact absurd rfl (decode _)

end Inquiry

/-! ## Operations that follow them -/

namespace PortalM

variable {α : Type} {x : PortalM α} {c : Call} {q : Inquiry α}

/-- `x` makes the call `c`, once, and judges the answer as the inquiry `q` says. -/
structure Inquires (x : PortalM α) (c : Call) (q : Inquiry α) : Prop where
  calls (n : Network) : Traced.calls (x.trace n) = [c]
  /-- The one request that is sent is that of the call, if it can be sent at all. -/
  requests (n : Network) :
    Traced.requests (x.trace n) = (c.departure n.connected).toOption.toList
  judged (n : Network) (o : Except PortalError α) : q.Judged (c.answer n) o ↔ x.outcome n = o
  value (n : Network) (a : α) : x.outcome n = .ok a ↔
    (∃ r, c.departure n.connected = .ok r) ∧
      ∃ body, n.replyAt 0 = .answer 200 body ∧
        q.value? (String.ofList (Text.Utf8.decodeLossy body)) = some a

theorem Exchange.inquires {P : LogEntry → Prop}
    {verdict : Except TransportFailure Response → Except PortalError α}
    (hx : Exchange P x c verdict) (h : ∀ back, verdict back = q.judge back) : Inquires x c q := by
  have outcome (n : Network) : x.outcome n = q.judge (c.answer n) := by
    rw [hx.outcome_eq, value_attempt, h]
  refine ⟨hx.calls_eq, fun n => ?_, fun n o => ?_, fun n a => ?_⟩
  · rw [hx.requests_eq, requests_attempt]
  · rw [outcome, Inquiry.judged_iff]
  · rw [outcome, Inquiry.judge_eq_ok_iff]
    simp only [Call.answer_eq_complete_iff, and_assoc, exists_and_left]

namespace Inquires

theorem outcome_eq (h : Inquires x c q) (n : Network) : x.outcome n = q.judge (c.answer n) :=
  (h.judged n _).1 (q.judged_judge _)

theorem refusal_of_outcome (h : Inquires x c q) {n : Network} {e : PortalError}
    (failed : x.outcome n = .error e) (network : ∀ context cause, e ≠ .network context cause)
    (decode : ∀ text, e ≠ .decode text) :
    ∃ r, c.answer n = .ok r ∧ r.status ≠ 200 ∧ q.refusal r = e :=
  Inquiry.refusal_of_judge (h.outcome_eq n ▸ failed) network decode

end Inquires

end PortalM

/-! ## The operations on a portal -/

namespace Portal

/-- The error that repeats the status and the body of an answer. -/
def refusal (operation : String) (r : Response) : PortalError :=
  match r.text? with
  | some body => .protocol operation r.status body
  | none => .network s!"{operation} (reading response)" .bodyBroken

/-- An answer that has to be repeated is never taken for something else. -/
theorem refusal_ne (operation : String) (r : Response) :
    (∀ what, refusal operation r ≠ .notFound what) ∧
      ∀ status, refusal operation r ≠ .auth status := by
  unfold refusal
  cases r.text? <;> simp

variable {α : Type}

theorem expected_eq (operation : String) (r : Response) :
    expected operation r = if r.status = 200 then .ok () else .error (refusal operation r) := by
  unfold expected received refusal
  cases r.text? <;> rfl

theorem decoded_eq (record : Record) (ofJson? : Json → Option α) (context : String)
    (r : Response) :
    decoded record ofJson? context r =
      match r.text? with
      | none => .error (.network s!"{context} (reading response)" .bodyBroken)
      | some text =>
        match (Json.parse? text).bind ofJson? with
        | none => .error (.decode ⟨context, some ⟨record, text⟩⟩)
        | some value => .ok value := by
  rw [decoded, received]
  cases r.text? with
  | none => rfl
  | some text =>
    simp only [bind, Except.bind]
    rcases (Json.parse? text).bind ofJson? with _ | value <;> rfl

/-- How an operation that repeats what it refuses judges an answer. -/
def inquiry (record : Record) (ofJson? : Json → Option α) (context operation : String) :
    Inquiry α where
  context
  refusal := refusal operation
  decoding := "failed to decode response from training portal"
  record
  value? text := (Json.parse? text).bind ofJson?

theorem verdict_eq_judge (record : Record) (ofJson? : Json → Option α)
    (context operation : String) (back : Except TransportFailure Response) :
    verdict record ofJson? context operation back =
      (inquiry record ofJson? context operation).judge back := by
  cases back with
  | error failure => rfl
  | ok r =>
    change (expected operation r >>= fun () => decoded record ofJson? _ r) = _
    rw [expected_eq]
    by_cases ok : r.status = 200
    · rw [if_pos ok, Inquiry.judge, if_pos ok]
      exact decoded_eq _ _ _ r
    · rw [if_neg ok, Inquiry.judge, if_neg ok]
      rfl

end Portal

namespace Login

open Portal PortalM

/-- A login from the answer to the call for a token. -/
def tokenInquiry (base : String) (c : Credentials) : Inquiry Login where
  context := "cannot connect to training portal"
  refusal r := .auth r.status
  decoding := "cannot decode auth details"
  record := .token
  value? text := ((Json.parse? text).bind Token.ofJson?).map (ofToken base c)

/-- The environments in the answer to the call for the catalog. -/
def catalogInquiry : Inquiry (List Environment) :=
  inquiry .catalog Environment.listingOfJson? "failed to request catalog from training portal"
    "request for catalog from training portal"

/-- The session in the answer to the call for one. -/
def sessionInquiry : Inquiry Session :=
  inquiry .session Session.ofJson? "failed to request workshop from training portal"
    "request for workshop from training portal"

/-- The state in the answer to the call that terminates a session. -/
def statusInquiry (session : String) : Inquiry SessionStatus where
  context := "failed to terminate session on training portal"
  refusal r :=
    if r.status = 404 then .notFound s!"no session found with name {session}"
    else refusal "request to terminate session" r
  decoding := "failed to decode session status from training portal"
  record := .status
  value? text := (Json.parse? text).bind SessionStatus.ofJson?

theorem refusal_statusInquiry (session : String) (r : Response) :
    (statusInquiry session).refusal r =
      if r.status = 404 then .notFound s!"no session found with name {session}"
      else refusal "request to terminate session" r := rfl

theorem inquires_start {c : Credentials} (valid : c.validate = .ok ()) (base : String) :
    (start base c).Inquires (tokenCall base c) (tokenInquiry base c) := by
  refine (exchange_start valid base).inquires fun back => ?_
  cases back with
  | error failure => rfl
  | ok r =>
    change ((if r.status = 200 then decoded .token Token.ofJson? _ r
      else .error (.auth r.status)) >>= fun token => .ok (ofToken base c token)) = _
    by_cases ok : r.status = 200
    · rw [if_pos ok, Inquiry.judge, if_pos ok, decoded_eq]
      cases r.text? with
      | none => rfl
      | some text =>
        simp only [tokenInquiry]
        cases (Json.parse? text).bind Token.ofJson? <;> rfl
    · rw [if_neg ok, Inquiry.judge, if_neg ok]
      rfl

theorem inquires_listEnvironments (l : Login) :
    l.listEnvironments.Inquires l.catalogCall catalogInquiry :=
  l.exchange_listEnvironments.inquires (verdict_eq_judge _ _ _ _)

theorem inquires_requestSession {r : SessionRequest} {known : Option (List String)}
    (h : ∀ workshops, known = some workshops → r.workshop ∈ workshops) (l : Login) :
    (l.requestSession r known).Inquires (l.requestCall r) sessionInquiry :=
  (exchange_requestSession h l).inquires (verdict_eq_judge _ _ _ _)

theorem inquires_terminateSession (l : Login) (session : String) :
    (l.terminateSession session).Inquires (l.terminateCall session) (statusInquiry session) := by
  refine (l.exchange_terminateSession session).inquires fun back => ?_
  cases back with
  | error failure => rfl
  | ok r =>
    change (if r.status = 404 then _ else expected _ r >>= fun () => decoded _ _ _ r) = _
    by_cases ok : r.status = 200
    · rw [if_neg (by omega), expected_eq, if_pos ok, Inquiry.judge, if_pos ok]
      exact decoded_eq _ _ _ r
    · rw [Inquiry.judge, if_neg ok, refusal_statusInquiry]
      by_cases missing : r.status = 404
      · rw [if_pos missing, if_pos missing]
        rfl
      · rw [if_neg missing, if_neg missing, expected_eq, if_neg ok]
        rfl

/-- **What comes of an answer.** Each of the four operations makes one call, whose answer it judges
by the rules of `Inquiry.Judged`. Only a login blames the robot account, and only the termination of
a session takes an answer, one with status 404, as a sign that something was not found. -/
theorem outcomes_of_answers :
    (∀ (base : String) (c : Credentials), c.validate = .ok () →
      (start base c).Inquires (tokenCall base c) (tokenInquiry base c) ∧
      ∀ n what, (start base c).outcome n ≠ .error (.notFound what)) ∧
    (∀ l : Login, l.listEnvironments.Inquires l.catalogCall catalogInquiry ∧
      ∀ n, (∀ what, l.listEnvironments.outcome n ≠ .error (.notFound what)) ∧
        ∀ status, l.listEnvironments.outcome n ≠ .error (.auth status)) ∧
    (∀ (l : Login) (r : SessionRequest) (known : Option (List String)),
      (∀ workshops, known = some workshops → r.workshop ∈ workshops) →
      (l.requestSession r known).Inquires (l.requestCall r) sessionInquiry ∧
      ∀ n, (∀ what, (l.requestSession r known).outcome n ≠ .error (.notFound what)) ∧
        ∀ status, (l.requestSession r known).outcome n ≠ .error (.auth status)) ∧
    ∀ (l : Login) (session : String),
      (l.terminateSession session).Inquires (l.terminateCall session) (statusInquiry session) ∧
      ∀ n, (∀ what, (l.terminateSession session).outcome n = .error (.notFound what) ↔
          what = s!"no session found with name {session}" ∧
            ∃ r, (l.terminateCall session).answer n = .ok r ∧ r.status = 404) ∧
        ∀ status, (l.terminateSession session).outcome n ≠ .error (.auth status) := by
  -- no answer to an operation that repeats what it refuses is of the two other kinds
  have repeated {α : Type} {record : Record} {ofJson? : Json → Option α}
      {context operation : String} {x : PortalM α} {c : Call}
      (h : x.Inquires c (inquiry record ofJson? context operation)) (n : Network) :
      (∀ what, x.outcome n ≠ .error (.notFound what)) ∧
        ∀ status, x.outcome n ≠ .error (.auth status) := by
    constructor
    · intro what failed
      obtain ⟨r, -, -, eq⟩ := h.refusal_of_outcome failed (by simp) (by simp)
      exact (refusal_ne operation r).1 what eq
    · intro status failed
      obtain ⟨r, -, -, eq⟩ := h.refusal_of_outcome failed (by simp) (by simp)
      exact (refusal_ne operation r).2 status eq
  refine ⟨fun base c valid => ⟨inquires_start valid base, fun n what failed => ?_⟩,
    fun l => ⟨l.inquires_listEnvironments, repeated l.inquires_listEnvironments⟩,
    fun l r known h => ⟨inquires_requestSession h l, repeated (inquires_requestSession h l)⟩,
    fun l session => ⟨l.inquires_terminateSession session, fun n => ⟨fun what => ⟨?_, ?_⟩, ?_⟩⟩⟩
  · obtain ⟨r, -, -, eq⟩ :=
      (inquires_start valid base).refusal_of_outcome failed (by simp) (by simp)
    cases eq
  · intro failed
    obtain ⟨r, back, -, eq⟩ :=
      (l.inquires_terminateSession session).refusal_of_outcome failed (by simp) (by simp)
    rw [refusal_statusInquiry] at eq
    split at eq
    case isTrue missing => exact ⟨(PortalError.notFound.inj eq).symm, r, back, missing⟩
    case isFalse => exact absurd eq ((refusal_ne _ _).1 what)
  · rintro ⟨rfl, r, back, missing⟩
    rw [(l.inquires_terminateSession session).outcome_eq, back, Inquiry.judge, if_neg (by omega),
      refusal_statusInquiry, if_pos missing]
  · intro status failed
    obtain ⟨r, -, -, eq⟩ :=
      (l.inquires_terminateSession session).refusal_of_outcome failed (by simp) (by simp)
    rw [refusal_statusInquiry] at eq
    split at eq
    case isTrue => cases eq
    case isFalse => exact (refusal_ne _ _).2 status eq

/-- The status of an answer is judged before its body is read: a refused login and a session that
the portal does not know are recognised although both bodies break off. -/
theorem outcomes_of_broken_bodies :
    let robot : Credentials := ⟨"https://p", "c", "s", "robot", "pw", []⟩
    let l : Login := ⟨"https://p", ⟨"t", 3600, "Bearer", "", ""⟩, "c", "s"⟩
    let r : SessionRequest := { workshop := "w", environment := "e" }
    robot.validate = .ok () ∧
      (start "https://p" robot).outcome ⟨true, [.truncated 401]⟩ = .error (.auth 401) ∧
      (l.terminateSession "s").outcome ⟨true, [.truncated 404]⟩ =
        .error (.notFound "no session found with name s") ∧
      (∀ workshops, some ["w"] = some workshops → r.workshop ∈ workshops) ∧
      (l.requestSession r (some ["w"])).outcome ⟨true, [.truncated 404]⟩ =
        .error (.network "request for workshop from training portal (reading response)"
          .bodyBroken) := by
  intro robot l r
  have valid : robot.validate = .ok () := Credentials.validate_eq_ok_iff.2 (by decide +kernel)
  have served : ∀ workshops, some ["w"] = some workshops → r.workshop ∈ workshops := by
    rintro _ ⟨⟩
    exact List.mem_singleton.2 rfl
  have departs (c : Call) (h : (c.departure true).toOption.isSome = true) :
      ∃ r, c.departure true = .ok r := by
    cases hc : c.departure true with
    | ok r => exact ⟨r, rfl⟩
    | error failure => simp [hc, Except.toOption] at h
  refine ⟨valid, ?_, ?_, served, ?_⟩
  · have back : (tokenCall "https://p" robot).answer ⟨true, [.truncated 401]⟩ = .ok ⟨401, none⟩ :=
      Call.answer_eq_truncated_iff.2 ⟨departs _ (by decide +kernel), rfl⟩
    exact ((outcomes_of_answers.1 "https://p" robot valid).1.judged _ _).1
      (back ▸ .refused (by decide))
  · have back : (l.terminateCall "s").answer ⟨true, [.truncated 404]⟩ = .ok ⟨404, none⟩ :=
      Call.answer_eq_truncated_iff.2 ⟨departs _ (by decide +kernel), rfl⟩
    exact ((outcomes_of_answers.2.2.2 l "s").2 _).1 _ |>.2 ⟨by decide, _, back, rfl⟩
  · have back : (l.requestCall r).answer ⟨true, [.truncated 404]⟩ = .ok ⟨404, none⟩ :=
      Call.answer_eq_truncated_iff.2 ⟨departs _ (by decide +kernel), rfl⟩
    exact ((outcomes_of_answers.2.2.1 l r (some ["w"]) served).1.judged _ _).1
      (back ▸ .refused (by decide))

end Login

end TrainingPortal
