import TrainingPortal.Proofs.Conversation
import TrainingPortal.Proofs.Messages.Quotations
import TrainingPortal.Proofs.Outcomes

/-!
# What conversations with portals fail with

An error of an operation on a portal quotes nothing but the name that the operation is given and an
answer that refuses it (`PortalM.Reports`), and that of a login quotes nothing at all
(`Login.onOneLine_start`). What may be quoted does not grow where operations follow one another,
since the answers to come only become fewer. So every step of a conversation fails with an error
that quotes the name that it is given itself or a refusal of this network, and nothing else
(`Conversation.quotes_of_performAll`).
-/

namespace TrainingPortal

open Http Text PortalM

/-! ## Answers -/

namespace Http

/-- Whether a network has yet to refuse something with this text: in a complete answer with a status
other than 200. -/
def Network.Refuses (n : Network) (text : String) : Prop :=
  ∃ status body, status ≠ 200 ∧ .answer status body ∈ n.replies ∧
    text = String.ofList (Utf8.decodeLossy body)

theorem Network.Refuses.of_skip {n : Network} {k : Nat} {text : String}
    (h : (n.skip k).Refuses text) : n.Refuses text := by
  obtain ⟨status, body, other, mem, rfl⟩ := h
  exact ⟨status, body, other, (List.drop_sublist k n.replies).subset mem, rfl⟩

/-- The text of a refusal is one that the network had to give. -/
theorem Call.refuses_of_answer {c : Call} {n : Network} {r : Response} {text : String}
    (back : c.answer n = .ok r) (other : r.status ≠ 200) (read : r.text? = some text) :
    n.Refuses text := by
  obtain ⟨status, body⟩ := r
  obtain ⟨bytes, rfl, rfl⟩ := Option.map_eq_some_iff.1 read
  obtain ⟨-, answered⟩ := Call.answer_eq_complete_iff.1 back
  refine ⟨status, bytes, other, ?_, rfl⟩
  rcases n with ⟨connected, _ | ⟨reply, replies⟩⟩
  · cases answered
  · rw [← answered]
    exact List.mem_cons_self

end Http

/-! ## Judged answers -/

section

variable {α : Type} {quotable : Response → String → Prop} {q : Inquiry α}

/-- Whether an inquiry quotes nothing except where it refuses an answer, and there nothing but texts
of which `quotable` holds. -/
structure Inquiry.Cites (quotable : Response → String → Prop) (q : Inquiry α) : Prop where
  context : OnOneLine q.context
  decoding : OnOneLine q.decoding
  refusal (r : Response) : Quotes (quotable r) (q.refusal r).message

theorem Inquiry.Cites.judge (h : q.Cites quotable) (back : Except TransportFailure Response) :
    TrainingPortal.Cites (fun text => ∃ r, back = .ok r ∧ r.status ≠ 200 ∧ quotable r text)
      (q.judge back) := by
  intro e failed
  cases judged_iff.2 failed with
  | unanswered failure => exact .own h.context
  | @refused r other => exact (h.refusal r).mono fun text quoted => ⟨r, rfl, other, quoted⟩
  | unreadable => exact .append (.own h.decoding) (.own (by decide))
  | undecodable => exact .own h.decoding

theorem Portal.quotes_refusal {operation : String} (line : OnOneLine operation) (r : Response) :
    Quotes (r.text? = some ·) (refusal operation r).message := by
  unfold refusal
  cases r.text? with
  | none => exact .append (.own line) (.own (by decide))
  | some body =>
    exact .append (.append (.append (.append (.append (.own line) (.own (by decide)))
      (.own (onOneLine_toString r.status))) (.own (by decide))) (.quoted rfl)) (.own (by decide))

/-- An operation that repeats what it refuses quotes the answer, whatever else may be quoted. -/
theorem Portal.cites_inquiry (given : String → Prop) (record : Record)
    (ofJson? : Json → Option α) {context operation : String} (line : OnOneLine context)
    (line' : OnOneLine operation) :
    (inquiry record ofJson? context operation).Cites
      fun r text => given text ∨ r.text? = some text where
  context := line
  decoding := (by decide : OnOneLine "failed to decode response from training portal")
  refusal r := (quotes_refusal line' r).mono fun _ => .inr

theorem Login.cites_tokenInquiry (base : String) (c : Credentials) :
    (tokenInquiry base c).Cites fun _ _ => False where
  context := (by decide : OnOneLine "cannot connect to training portal")
  decoding := (by decide : OnOneLine "cannot decode auth details")
  refusal r := .append (.append (.own (by decide)) (.own (onOneLine_toString r.status)))
    (.own (by decide))

theorem Login.cites_statusInquiry (session : String) :
    (statusInquiry session).Cites fun r text => session = text ∨ r.text? = some text where
  context := (by decide : OnOneLine "failed to terminate session on training portal")
  decoding := (by decide : OnOneLine "failed to decode session status from training portal")
  refusal r := by
    rw [refusal_statusInquiry]
    split
    · exact .append (.own (by decide)) (.quoted (.inl rfl))
    · exact (Portal.quotes_refusal (by decide) r).mono fun _ => .inr

end

/-! ## Operations on a portal -/

/-- Whether the error that may come of `x` quotes nothing but given texts and refusals that the
network had to give, of which `x` leaves no others than there were. -/
structure PortalM.Reports {α : Type} (given : String → Prop) (x : PortalM α) : Prop where
  cites (n : Network) : Cites (fun text => given text ∨ n.Refuses text) (x.outcome n)
  left (n : Network) (text : String) : (x.left n).Refuses text → n.Refuses text

namespace PortalM

variable {α β : Type} {given given' : String → Prop} {x : PortalM α}

theorem Causal.refuses_of_left (h : Causal x) (n : Network) (text : String)
    (told : (x.left n).Refuses text) : n.Refuses text :=
  .of_skip (h.left n ▸ told)

theorem Quiet.reports {P : LogEntry → Prop} {r : Except PortalError α} (hx : Quiet P x r)
    (h : Cites given r) : Reports given x where
  cites n := hx.outcome_eq n ▸ h.mono fun _ => .inl
  left n _ told := hx.left_eq n ▸ told

theorem Inquires.reports {c : Call} {q : Inquiry α} (hx : Inquires x c q) (causal : Causal x)
    (h : q.Cites fun r text => given text ∨ r.text? = some text) : Reports given x where
  cites n := by
    rw [hx.outcome_eq]
    refine (h.judge _).mono ?_
    rintro text ⟨r, back, other, told | read⟩
    · exact .inl told
    · exact .inr (c.refuses_of_answer back other read)
  left := causal.refuses_of_left

namespace Reports

theorem pure (a : α) : Reports given (Pure.pure a : PortalM α) :=
  (Quiet.pure (P := fun _ => True) a).reports (.ok a)

theorem log (level : LogLevel) (area : LogArea) (text : String) :
    Reports given (Traced.log level area text : PortalM Unit) :=
  (Quiet.log (P := fun _ => True) trivial).reports (.ok ())

theorem throw {e : PortalError} (h : Quotes given e.message) :
    Reports given (MonadExcept.throw e : PortalM α) :=
  (Quiet.throw (P := fun _ => True) e).reports (.error h)

theorem mono (hx : Reports given x) (imp : ∀ text, given text → given' text) :
    Reports given' x where
  cites n := (hx.cites n).mono fun text => Or.imp_left (imp text)
  left := hx.left

theorem bind {f : α → PortalM β} (hx : Reports given x) (hf : ∀ a, Reports given (f a)) :
    Reports given (x >>= f) where
  cites n := by
    rw [outcome_bind]
    refine (hx.cites n).bind fun a _ => ((hf a).cites (x.left n)).mono fun text => ?_
    exact Or.imp_right (hx.left n text)
  left n text := by
    rw [left_bind]
    cases x.outcome n with
    | ok a => exact fun told => hx.left n text ((hf a).left _ text told)
    | error e => exact hx.left n text

end Reports

end PortalM

theorem Credentials.onOneLine_validate (c : Credentials) {e : PortalError}
    (refused : c.validate = .error e) : OnOneLine e.message := by
  unfold validate at refused
  split_ifs at refused
  · cases refused
    decide
  · cases refused
    decide

namespace Login

/-- Whatever a login fails with, the error quotes nothing. -/
theorem onOneLine_start {base : String} {c : Credentials} {n : Network} {e : PortalError}
    (failed : (start base c).outcome n = .error e) : OnOneLine e.message := by
  cases valid : c.validate with
  | error e' =>
    rw [(quiet_start valid base).outcome_eq] at failed
    obtain rfl := Except.error.inj failed
    exact c.onOneLine_validate valid
  | ok =>
    rw [(inquires_start valid base).outcome_eq] at failed
    refine ((cites_tokenInquiry base c).judge _ e failed).onOneLine ?_
    rintro _ ⟨_, _, _, none⟩
    exact none.elim

theorem reports_start (base : String) (c : Credentials) (given : String → Prop) :
    Reports given (start base c) where
  cites _ _ failed := .own (onOneLine_start failed)
  left := (causal_start base c).refuses_of_left

theorem reports_listEnvironments (l : Login) (given : String → Prop) :
    Reports given l.listEnvironments :=
  l.inquires_listEnvironments.reports l.plain_listEnvironments.causal
    (Portal.cites_inquiry given _ _ (by decide) (by decide))

theorem reports_findEnvironment (l : Login) (workshop named : String) :
    Reports (workshop = ·) (l.findEnvironment workshop named) := by
  unfold findEnvironment
  split
  · exact (Reports.log _ _ _).bind fun _ => .pure _
  · refine (l.reports_listEnvironments _).bind fun es => ?_
    split
    · exact .throw (.append (.own (by decide)) (.quoted rfl))
    · exact (Reports.log _ _ _).bind fun _ => .pure _

theorem reports_requestSession (l : Login) (r : SessionRequest) (known : Option (List String)) :
    Reports (r.workshop = ·) (l.requestSession r known) := by
  by_cases h : ∀ workshops, known = some workshops → r.workshop ∈ workshops
  · exact (inquires_requestSession h l).reports (l.plain_requestSession r known).causal
      (Portal.cites_inquiry _ _ _ (by decide) (by decide))
  · obtain ⟨workshops, h⟩ := not_forall.1 h
    obtain ⟨rfl, mem⟩ := Classical.not_imp.1 h
    exact (quiet_requestSession mem l).reports
      (.error (.append (.own (by decide)) (.quoted rfl)))

theorem reports_terminateSession (l : Login) (session : String) :
    Reports (session = ·) (l.terminateSession session) :=
  (l.inquires_terminateSession session).reports (l.plain_terminateSession session).causal
    (cites_statusInquiry session)

end Login

namespace Broker

theorem reports_knownWorkshops (b : Broker) (l : Login) (found : FoundEnvironment)
    (given : String → Prop) : Reports given (b.knownWorkshops l found) := by
  unfold knownWorkshops
  split
  · exact .pure _
  · split
    · exact .pure _
    · exact (Reports.log _ _ _).bind fun _ =>
        (l.reports_listEnvironments given).bind fun _ => .pure _

theorem reports_resolve (b : Broker) (r : SessionRequest) (l : Login) :
    Reports (r.workshop = ·) (b.resolve r l) :=
  (l.reports_findEnvironment r.workshop r.environment).bind fun found =>
    (b.reports_knownWorkshops l found _).bind fun _ => .pure _

theorem reports_requestWith (b : Broker) (r : SessionRequest) (l : Login) :
    Reports (r.workshop = ·) (b.requestWith r l) :=
  (b.reports_resolve r l).bind fun (environment, known) =>
    l.reports_requestSession { r with environment } (some known)

/-- The name that an operation is given, of a workshop or a session. -/
def Operation.name? : {α : Type} → Operation α → Option String
  | _, .request r => some r.workshop
  | _, .terminate session => some session
  | _, .list => none

variable {α : Type}

theorem reports_work (b : Broker) (o : Operation α) (l : Login) :
    Reports (o.name? = some ·) (b.work o l) := by
  cases o with
  | request r => exact (b.reports_requestWith r l).mono fun _ => congrArg some
  | terminate session =>
    exact (l.reports_terminateSession session).mono fun _ => congrArg some
  | list => exact l.reports_listEnvironments _

theorem reports_carryOut (b : Broker) (o : Operation α) :
    Reports (o.name? = some ·) (b.carryOut o) := by
  obtain ⟨log, -, eq⟩ := carryOut_eq o
  have login := Login.reports_start b.base b.credentials (o.name? = some ·)
  rw [eq]
  refine ⟨fun n => ?_, fun n text => ?_⟩
  · rw [outcome_withLogin]
    refine (login.cites n).bind fun l _ => ?_
    exact ((b.reports_work o l).cites _).mono fun text => Or.imp_right (login.left n text)
  · rw [left, run_withLogin]
    cases b.logIn.outcome n with
    | error e => exact login.left n text
    | ok l =>
      -- the return of the token takes at most one more answer
      obtain ⟨e, -, revoked⟩ := l.run_revoke ((b.work o l).left (b.logIn.left n))
      simp only [revoked, left_attempt]
      exact fun told => login.left n text ((b.reports_work o l).left _ text told.of_skip)

end Broker

/-! ## Conversations -/

namespace Conversation

variable {α β : Type} {given : String → Prop} {x : ConversationM α}

/-- Whether the portal error that may come of `x` quotes nothing but given texts and refusals that
the network had to give, of which `x` leaves no others than there were. -/
structure Relays (given : String → Prop) (x : ConversationM α) : Prop where
  cites (c : Conversation) (n : Network) (e : PortalError) :
    (x c n).value.1.1 = .error (.portal e) →
      Quotes (fun text => given text ∨ n.Refuses text) e.message
  left (c : Conversation) (n : Network) (text : String) :
    (x c n).value.2.Refuses text → n.Refuses text

namespace Relays

/-- What gives no portal error and takes no answer quotes nothing. -/
theorem of_idle (fails : ∀ c n e, (x c n).value.1.1 ≠ .error (.portal e))
    (left : ∀ c n, (x c n).value.2 = n) : Relays given x where
  cites c n e failed := absurd failed (fails c n e)
  left c n _ told := left c n ▸ told

theorem pure (a : α) : Relays given (Pure.pure a : ConversationM α) :=
  .of_idle (fun _ _ _ => nofun) fun _ _ => rfl

theorem bind {f : α → ConversationM β} (hx : Relays given x) (hf : ∀ a, Relays given (f a)) :
    Relays given (x >>= f) where
  cites c n e := by
    rw [run_bind]
    rcases eq : (x c n).value with ⟨⟨outcome, c'⟩, n'⟩
    have left := hx.left c n
    have cites := hx.cites c n e
    rw [eq] at left cites
    cases outcome with
    | ok a =>
      -- what follows meets no refusals but those that `x` leaves
      exact fun failed => ((hf a).cites c' n' e failed).mono fun text => Or.imp_right (left text)
    | error refusal =>
      intro failed
      obtain rfl := Except.error.inj failed
      exact cites rfl
  left c n text := by
    rw [run_bind]
    rcases eq : (x c n).value with ⟨⟨outcome, c'⟩, n'⟩
    have left := hx.left c n text
    rw [eq] at left
    cases outcome with
    | ok a => exact fun told => left ((hf a).left c' n' text told)
    | error refusal => exact left

theorem ofPortal {x : PortalM α} (hx : Reports given x) : Relays given (ofPortal x) where
  cites c n e := by
    rw [run_ofPortal]
    cases outcome : x.outcome n with
    | ok a => exact nofun
    | error e' =>
      intro failed
      obtain rfl := Refusal.portal.inj (Except.error.inj failed)
      exact hx.cites n e' outcome
  left c n text := by
    rw [run_ofPortal]
    exact hx.left n text

theorem openLogin : Relays given openLogin := by
  refine .of_idle (fun c n e => ?_) fun c n => by rw [run_openLogin]
  rw [run_openLogin]
  cases c.login <;> exact nofun

theorem brokerAtHand : Relays given brokerAtHand := by
  refine .of_idle (fun c n e => ?_) fun c n => by rw [run_brokerAtHand]
  rw [run_brokerAtHand]
  cases c.broker <;> exact nofun

theorem replaceLogin (login : Option Login) : Relays given (replaceLogin login) :=
  .of_idle (fun c n e => by rw [run_replaceLogin]; exact nofun) fun c n => by rw [run_replaceLogin]

theorem modify (f : Conversation → Conversation) :
    Relays given (modify f : ConversationM PUnit) :=
  .of_idle (fun _ _ _ => nofun) fun _ _ => rfl

theorem revoke (l : Login) : Relays given (liftM l.revoke : ConversationM Unit) where
  cites _ _ _ := nofun
  left c n text told := by
    obtain ⟨e, -, revoked⟩ := l.run_revoke n
    have left : ((liftM l.revoke : ConversationM Unit) c n).value.2 = (l.revoke n).value.2 := rfl
    rw [left, revoked, left_attempt] at told
    exact told.of_skip

theorem atLogin {work : Login → PortalM α} (h : ∀ l, Reports given (work l))
    (answer : α → Answer) : Relays given (atLogin work answer) :=
  openLogin.bind fun l => (ofPortal (h l)).bind fun _ => .pure _

theorem atBroker {work : Broker → PortalM α} (h : ∀ b, Reports given (work b))
    (answer : Broker → α → Answer) : Relays given (atBroker work answer) :=
  brokerAtHand.bind fun b => (ofPortal (h b)).bind fun _ => .pure _

end Relays

/-- The name that a step is given, of a workshop or a session. -/
def Step.name? : Step → Option String
  | .find workshop _ => some workshop
  | .request r _ | .brokerRequest r => some r.workshop
  | .terminate session | .brokerTerminate session => some session
  | .logIn _ | .list | .revoke | .drop | .broker _ | .brokerAt _ _ | .brokerList => none

theorem relays_perform (s : Step) : Relays (s.name? = some ·) (perform s) := by
  cases s with
  | logIn c =>
    exact (Relays.ofPortal (Login.reports_start _ c _)).bind fun l =>
      (Relays.replaceLogin (some l)).bind fun _ => .pure _
  | list => exact .atLogin (·.reports_listEnvironments _) _
  | find workshop environment =>
    exact .atLogin (fun l => (l.reports_findEnvironment workshop environment).mono
      fun _ => congrArg some) _
  | request r known =>
    exact .atLogin (fun l => (l.reports_requestSession r known).mono fun _ => congrArg some) _
  | terminate session =>
    exact .atLogin (fun l => (l.reports_terminateSession session).mono fun _ => congrArg some) _
  | revoke =>
    exact Relays.openLogin.bind fun l => (Relays.modify _).bind fun _ =>
      (Relays.revoke l).bind fun _ => .pure _
  | drop => exact Relays.openLogin.bind fun _ => (Relays.replaceLogin none).bind fun _ => .pure _
  | broker c =>
    have quiet : Quiet (fun _ => True) (ExceptT.mk (pure (Broker.ofCredentials c)))
      (Broker.ofCredentials c) := ⟨[], by simp, fun _ => rfl⟩
    have cites : Cites (fun text => (Step.broker c).name? = some text) c.validate :=
      fun e refused => .own (c.onOneLine_validate refused)
    exact (Relays.ofPortal (quiet.reports cites.map)).bind fun b =>
      (Relays.modify _).bind fun _ => .pure _
  | brokerAt url c => exact (Relays.modify _).bind fun _ => .pure _
  | brokerList => exact .atBroker (·.reports_carryOut .list) _
  | brokerRequest r => exact .atBroker (·.reports_carryOut (.request r)) _
  | brokerTerminate session => exact .atBroker (·.reports_carryOut (.terminate session)) _

theorem outcomes_cons (s : Step) (rest : List Step) (c : Conversation) (n : Network) :
    (performAll (s :: rest) c n).value.1.1 =
      (perform s c n).value.1.1 :: (performAll rest (s.next c n) (s.left c n)).value.1.1 := by
  rw [performAll, List.mapM_cons]
  rfl

/-- No step of a conversation quotes the name that another step is given, or anything else but its
own name and what the network had to refuse with when the conversation began. -/
theorem quotes_of_performAll (steps : List Step) (c : Conversation) (n : Network) :
    List.Forall₂ (fun s outcome => ∀ e, outcome = .error (.portal e) →
        Quotes (fun text => s.name? = some text ∨ n.Refuses text) e.message)
      steps (performAll steps c n).value.1.1 := by
  induction steps generalizing c n with
  | nil => exact .nil
  | cons s rest ih =>
    rw [outcomes_cons]
    refine .cons ((relays_perform s).cites c n) ((ih _ _).imp fun _ _ quotes e failed => ?_)
    exact (quotes e failed).mono fun text => Or.imp_right ((relays_perform s).left c n text)

end Conversation

end TrainingPortal
