import Mathlib
import TrainingPortal.Proofs.Discipline

/-!
# When a session is requested

A request for a session passes three gates, of which each request meets one: the catalog, if no
environment is named; the registered workshops, if there are any; and else the catalog again.

* `Login.Lists`: what it means that the catalog is there and lists these environments.
* `Broker.Admits`: what it takes to pass.
* `target_unnamed`, `target_registered`, `target_listed`: the three gates, and where each leads.
* `requestWorkshop_gate`: a session is requested exactly if the gate is passed, from which
  environment, and what comes of a request that is turned back.
-/

namespace TrainingPortal

open Http PortalM

/-! ## What the catalog lists -/

namespace Environment

variable {es : List Environment} {workshop : String} {e : Environment}

theorem serves_iff : serves workshop e = true ↔ e.workshop = workshop ∧ e.state = .running := by
  simp [serves, isRunning]

theorem select?_eq_find? : select? es workshop = es.reverse.find? (serves workshop) := by
  have forgotten : es.zipIdx.reverse.map Prod.fst = es.reverse := by
    rw [List.map_reverse, List.zipIdx_map_fst]
  rw [select?, selectIndexed?, ← forgotten, List.find?_map]
  rfl

/-- The environment that is offered is the last that runs and serves the workshop. -/
theorem select?_eq_some_iff :
    select? es workshop = some e ↔ (e.workshop = workshop ∧ e.state = .running) ∧
      ∃ before after, es = before ++ e :: after ∧
        ∀ x ∈ after, ¬ (x.workshop = workshop ∧ x.state = .running) := by
  rw [select?_eq_find?, List.find?_eq_some_iff_append, serves_iff]
  refine and_congr_right fun _ => ⟨?_, ?_⟩
  · rintro ⟨later, earlier, listed, none⟩
    refine ⟨earlier.reverse, later.reverse, ?_, fun x hx => ?_⟩
    · simpa using congrArg List.reverse listed
    · have none := none x (List.mem_reverse.1 hx)
      rwa [Bool.not_eq_true', ← Bool.not_eq_true, serves_iff] at none
  · rintro ⟨before, after, listed, none⟩
    refine ⟨after.reverse, before.reverse, by simp [listed], fun x hx => ?_⟩
    rw [Bool.not_eq_true', ← Bool.not_eq_true, serves_iff]
    exact none x (List.mem_reverse.1 hx)

theorem select?_eq_none_iff :
    select? es workshop = none ↔ ∀ x ∈ es, ¬ (x.workshop = workshop ∧ x.state = .running) := by
  simp [select?_eq_find?, serves, isRunning]

theorem mem_workshopsOf {name : String} :
    workshop ∈ workshopsOf es name ↔ ∃ e ∈ es, e.name = name ∧ e.workshop = workshop := by
  simp [workshopsOf, and_assoc]

end Environment

namespace Login

/-- The call for the catalog is answered with status 200 and these environments. -/
def Lists (l : Login) (n : Network) (es : List Environment) : Prop :=
  ∃ (r : Response) (text : String), (attempt l.catalogCall n).value.1 = .ok r ∧ r.status = 200 ∧
    r.text? = some text ∧ (Json.parse? text).bind Environment.listingOfJson? = some es

theorem lists_iff {l : Login} {n : Network} {es : List Environment} :
    l.Lists n es ↔ catalogVerdict (attempt l.catalogCall n).value.1 = .ok es :=
  Portal.verdict_eq_ok_iff.symm

end Login

/-! ## The gates -/

namespace Broker

open Login

variable {b : Broker} {r : SessionRequest} {l : Login} {n : Network}

/-- What it takes to request a session: an offer in the catalog if no environment is named, else the
workshop among those registered, or, if there are none, in the catalog under the name given. -/
def Admits (b : Broker) (r : SessionRequest) (l : Login) (n : Network) : Prop :=
  (r.environment = "" ∧ ∃ es, l.Lists n es ∧
    ∃ e ∈ es, e.workshop = r.workshop ∧ e.state = .running) ∨
  (r.environment ≠ "" ∧ b.credentials.workshops ≠ [] ∧ r.workshop ∈ b.credentials.workshops) ∨
  (r.environment ≠ "" ∧ b.credentials.workshops = [] ∧ ∃ es, l.Lists n es ∧
    ∃ e ∈ es, e.name = r.environment ∧ e.workshop = r.workshop)

/-- The name of the environment that is offered for a workshop. -/
def offered (workshop : String) (es : List Environment) : Except PortalError String :=
  match Environment.select? es workshop with
  | some e => .ok e.name
  | none => .error (.noEnvironment workshop)

theorem offered_eq_ok_iff {workshop environment : String} {es : List Environment} :
    offered workshop es = .ok environment ↔ ∃ e, e.name = environment ∧
      (e.workshop = workshop ∧ e.state = .running) ∧
      ∃ before after, es = before ++ e :: after ∧
        ∀ x ∈ after, ¬ (x.workshop = workshop ∧ x.state = .running) := by
  simp only [← Environment.select?_eq_some_iff]
  unfold offered
  cases Environment.select? es workshop <;> simp

theorem offered_eq_error_iff {workshop : String} {es : List Environment} {e : PortalError} :
    offered workshop es = .error e ↔
      (∀ x ∈ es, ¬ (x.workshop = workshop ∧ x.state = .running)) ∧ .noEnvironment workshop = e := by
  rw [← Environment.select?_eq_none_iff]
  unfold offered
  cases Environment.select? es workshop <;> simp

theorem admitted_eq_ok_iff {workshop environment : String} {found : String × List String} :
    admitted workshop found = .ok environment ↔ workshop ∈ found.2 ∧ found.1 = environment := by
  unfold admitted
  split <;> simp_all

theorem admitted_eq_error_iff {workshop : String} {found : String × List String}
    {e : PortalError} :
    admitted workshop found = .error e ↔ workshop ∉ found.2 ∧ .unknownWorkshop workshop = e := by
  unfold admitted
  split <;> simp_all

/-- What the catalog offers is never refused. -/
theorem target_unnamed (unnamed : r.environment = "") (back : Except TransportFailure Response) :
    b.target r back = catalogVerdict back >>= offered r.workshop := by
  rw [target, resolution, if_pos unnamed]
  cases catalogVerdict back with
  | error e => rfl
  | ok es =>
    change (offer r.workshop es >>= fun found => .ok (found.name, found.workshops.getD [])) >>=
      admitted r.workshop = offered r.workshop es
    unfold offer offered
    cases chosen : Environment.select? es r.workshop with
    | none => rfl
    | some e =>
      obtain ⟨⟨serves, -⟩, before, after, listed, -⟩ := Environment.select?_eq_some_iff.1 chosen
      have known : r.workshop ∈ Environment.workshopsOf es e.name :=
        Environment.mem_workshopsOf.2 ⟨e, by simp [listed], rfl, serves⟩
      exact if_pos known

theorem target_registered (named : r.environment ≠ "") (registered : b.credentials.workshops ≠ [])
    (back : Except TransportFailure Response) :
    b.target r back = admitted r.workshop (r.environment, b.credentials.workshops) := by
  rw [target, resolution, if_neg named, if_neg registered]
  rfl

theorem target_listed (named : r.environment ≠ "") (unregistered : b.credentials.workshops = [])
    (back : Except TransportFailure Response) :
    b.target r back = catalogVerdict back >>= fun es =>
      admitted r.workshop (r.environment, Environment.workshopsOf es r.environment) := by
  rw [target, resolution, if_neg named, if_pos unregistered]
  cases catalogVerdict back <;> rfl

/-- The gates let through exactly what is admitted. -/
theorem exists_target_iff :
    (∃ environment, b.target r (attempt l.catalogCall n).value.1 = .ok environment) ↔
      b.Admits r l n := by
  by_cases unnamed : r.environment = ""
  · simp only [target_unnamed unnamed, bind_eq_ok_iff, ← lists_iff, Admits, unnamed, true_and,
      ne_eq, not_true_eq_false, false_and, or_false]
    constructor
    · rintro ⟨environment, es, lists, offers⟩
      obtain ⟨e, -, serves, before, after, rfl, -⟩ := offered_eq_ok_iff.1 offers
      exact ⟨_, lists, e, by simp, serves⟩
    · rintro ⟨es, lists, e, listed, serves⟩
      cases offers : offered r.workshop es with
      | ok environment => exact ⟨environment, es, lists, offers⟩
      | error e' => exact absurd serves ((offered_eq_error_iff.1 offers).1 e listed)
  · by_cases registered : b.credentials.workshops = []
    · simp only [target_listed unnamed registered, bind_eq_ok_iff, ← lists_iff, Admits, unnamed,
        registered, admitted_eq_ok_iff, Environment.mem_workshopsOf, ne_eq, not_false_eq_true,
        not_true_eq_false, false_and, true_and, false_or, and_false]
      constructor
      · rintro ⟨environment, es, lists, serves, -⟩
        exact ⟨es, lists, serves⟩
      · rintro ⟨es, lists, serves⟩
        exact ⟨r.environment, es, lists, serves, rfl⟩
    · simp [target_registered unnamed registered, admitted_eq_ok_iff, Admits, unnamed, registered]

/-- A session is requested from the environment that is named, or else from the last one listed
that runs and serves the workshop. -/
theorem environment_of_target {environment : String}
    (h : b.target r (attempt l.catalogCall n).value.1 = .ok environment) :
    if r.environment = "" then
      ∃ before e after, l.Lists n (before ++ e :: after) ∧ e.name = environment ∧
        (e.workshop = r.workshop ∧ e.state = .running) ∧
        ∀ x ∈ after, ¬ (x.workshop = r.workshop ∧ x.state = .running)
    else r.environment = environment := by
  split
  case isTrue unnamed =>
    rw [target_unnamed unnamed, bind_eq_ok_iff] at h
    obtain ⟨es, lists, offers⟩ := h
    obtain ⟨e, name, serves, before, after, rfl, none⟩ := offered_eq_ok_iff.1 offers
    exact ⟨before, e, after, lists_iff.2 lists, name, serves, none⟩
  case isFalse named =>
    by_cases registered : b.credentials.workshops = []
    · rw [target_listed named registered, bind_eq_ok_iff] at h
      obtain ⟨es, -, h⟩ := h
      exact (admitted_eq_ok_iff.1 h).2
    · rw [target_registered named registered] at h
      exact (admitted_eq_ok_iff.1 h).2

/-- What is turned back at the gates, the catalog having been seen where it is needed, is said not
to be found. -/
theorem error_of_target {back : Except TransportFailure Response} {e : PortalError}
    (h : b.target r back = .error e)
    (seen : b.AsksCatalog r → ∃ es, catalogVerdict back = .ok es) :
    e = if r.environment = "" then .noEnvironment r.workshop else .unknownWorkshop r.workshop := by
  split
  case isTrue unnamed =>
    obtain ⟨es, lists⟩ := seen (.inl unnamed)
    rw [target_unnamed unnamed, lists] at h
    exact (offered_eq_error_iff.1 h).2.symm
  case isFalse named =>
    by_cases registered : b.credentials.workshops = []
    · obtain ⟨es, lists⟩ := seen (.inr registered)
      rw [target_listed named registered, lists] at h
      exact (admitted_eq_error_iff.1 h).2.symm
    · rw [target_registered named registered] at h
      exact (admitted_eq_error_iff.1 h).2.symm

/-! ## The calls of a request -/

/-- What a request does when it is logged in. -/
theorem run_requestWorkshop (login : b.logIn.outcome n = .ok l) :
    Traced.calls ((b.requestWorkshop r).trace n) =
      tokenCall b.base b.credentials :: ((if b.AsksCatalog r then [l.catalogCall] else []) ++
        sessionCalls r l (b.target r (attempt l.catalogCall (b.logIn.left n)).value.1) ++
        [l.revokeCall]) ∧
    (b.requestWorkshop r).outcome n =
      b.target r (attempt l.catalogCall (b.logIn.left n)).value.1 >>= fun environment =>
        sessionVerdict (attempt (l.requestCall { r with environment })
          (b.resolved r l (b.logIn.left n))).value.1 := by
  obtain ⟨calls, outcome⟩ := b.run_requestWith r l (b.logIn.left n)
  have valid := validate_of_start login
  have all := b.calls_eq (.request r) n
  have comes := b.outcome_carryOut (.request r) n
  rw [login, calls_start, valid] at all
  rw [beforeReturn, outcome_bind, login] at comes
  refine ⟨?_, ?_⟩
  · rw [← calls]
    exact all
  · rw [← outcome]
    exact comes

theorem mem_calls_requestWorkshop (login : b.logIn.outcome n = .ok l) {c : Call} :
    c ∈ Traced.calls ((b.requestWorkshop r).trace n) ∧ c.isSessionRequest ↔
      ∃ environment,
        b.target r (attempt l.catalogCall (b.logIn.left n)).value.1 = .ok environment ∧
          c = l.requestCall { r with environment } := by
  rw [(run_requestWorkshop login).1, ← mem_sessionCalls_iff]
  simp only [List.mem_cons, List.mem_append, List.not_mem_nil, or_false]
  constructor
  · rintro ⟨rfl | (mem | mem) | rfl, requests⟩
    · simp at requests
    · split at mem
      · obtain rfl := List.mem_singleton.1 mem
        simp at requests
      · cases mem
    · exact mem
    · simp at requests
  · intro mem
    obtain ⟨environment, -, rfl⟩ := mem_sessionCalls_iff.1 mem
    exact ⟨.inr (.inl (.inr mem)), isSessionRequest_requestCall _ _⟩

theorem catalogCall_mem_calls_requestWorkshop (login : b.logIn.outcome n = .ok l) :
    l.catalogCall ∈ Traced.calls ((b.requestWorkshop r).trace n) ↔ b.AsksCatalog r := by
  rw [(run_requestWorkshop login).1]
  simp only [List.mem_cons, List.mem_append, List.not_mem_nil, or_false]
  constructor
  · -- of the calls of a request, only the one for the catalog gets
    rintro (same | (mem | mem) | same)
    · cases congrArg Call.method same
    · split at mem
      case isTrue asks => exact asks
      case isFalse => cases mem
    · obtain ⟨environment, -, same⟩ := mem_sessionCalls_iff.1 mem
      cases congrArg Call.method same
    · cases congrArg Call.method same
  · intro asks
    rw [if_pos asks]
    exact .inr (.inl (.inl (List.mem_singleton_self _)))

/-- The two ways of not being found are told apart by how they begin. -/
theorem noEnvironment_ne_unknownWorkshop (workshop : String) :
    PortalError.noEnvironment workshop ≠ .unknownWorkshop workshop := by
  intro h
  have begins := congrArg (fun text : String => text.toList.head?) (PortalError.notFound.inj h)
  simp [toString] at begins

/-- **When a session is requested.** Once logged in, a session is requested exactly if the request
is admitted, the catalog being asked only if no environment is named or no workshop registered. It
is requested from the environment that is named, or else from the last one listed that runs and
serves the workshop. If the catalog was there where it was asked and no session is requested, the
environment or the workshop is said not to be found, the one if none is named and the other if one
is; a workshop that the catalog offers is never refused. -/
theorem requestWorkshop_gate (b : Broker) (r : SessionRequest) (n : Network) (l : Login)
    (login : b.logIn.outcome n = .ok l) :
    let after := b.logIn.left n
    let calls := Traced.calls ((b.requestWorkshop r).trace n)
    let outcome := (b.requestWorkshop r).outcome n
    ((∃ c ∈ calls, c.isSessionRequest) ↔ b.Admits r l after) ∧
    (l.catalogCall ∈ calls ↔ r.environment = "" ∨ b.credentials.workshops = []) ∧
    (∀ c ∈ calls, c.isSessionRequest →
      ∃ environment, c = l.requestCall { r with environment } ∧
        if r.environment = "" then
          ∃ before e later, l.Lists after (before ++ e :: later) ∧ e.name = environment ∧
            (e.workshop = r.workshop ∧ e.state = .running) ∧
            ∀ x ∈ later, ¬ (x.workshop = r.workshop ∧ x.state = .running)
        else r.environment = environment) ∧
    ((¬ ∃ c ∈ calls, c.isSessionRequest) →
      (l.catalogCall ∈ calls → ∃ es, l.Lists after es) →
      (outcome = .error (.notFound
          s!"cannot find workshop environment for workshop {r.workshop}") ↔ r.environment = "") ∧
      (outcome = .error (.notFound s!"unable to find workshop {r.workshop}") ↔
        r.environment ≠ "")) ∧
    (r.environment = "" →
      outcome ≠ .error (.notFound s!"unable to find workshop {r.workshop}")) := by
  intro after calls outcome
  have requested : (∃ c ∈ calls, c.isSessionRequest) ↔
      ∃ environment, b.target r (attempt l.catalogCall after).value.1 = .ok environment := by
    constructor
    · rintro ⟨c, mem, requests⟩
      obtain ⟨environment, goal, -⟩ := (mem_calls_requestWorkshop login).1 ⟨mem, requests⟩
      exact ⟨environment, goal⟩
    · rintro ⟨environment, goal⟩
      exact ⟨_, (mem_calls_requestWorkshop login).2 ⟨environment, goal, rfl⟩⟩
  have asked : l.catalogCall ∈ calls ↔ b.AsksCatalog r :=
    catalogCall_mem_calls_requestWorkshop login
  have comes : outcome = b.target r (attempt l.catalogCall after).value.1 >>= _ :=
    (run_requestWorkshop login).2
  have apart := noEnvironment_ne_unknownWorkshop r.workshop
  refine ⟨requested.trans exists_target_iff, asked, fun c mem requests => ?_,
    fun none seen => ?_, fun unnamed refused => ?_⟩
  · obtain ⟨environment, goal, same⟩ := (mem_calls_requestWorkshop login).1 ⟨mem, requests⟩
    exact ⟨environment, same, environment_of_target goal⟩
  · rw [requested] at none
    cases goal : b.target r (attempt l.catalogCall after).value.1 with
    | ok environment => exact absurd ⟨environment, goal⟩ none
    | error e =>
      have seen : b.AsksCatalog r → ∃ es, catalogVerdict (attempt l.catalogCall after).value.1 =
          .ok es := fun asks => by simpa only [lists_iff] using seen (asked.2 asks)
      have comes : outcome = .error e := by rw [comes, goal]; rfl
      obtain rfl := error_of_target goal seen
      change (outcome = .error (.noEnvironment r.workshop) ↔ _) ∧
        (outcome = .error (.unknownWorkshop r.workshop) ↔ _)
      rw [comes]
      by_cases unnamed : r.environment = ""
      · simp [unnamed, apart]
      · simp [unnamed, apart.symm]
  · rw [comes] at refused
    rcases bind_eq_error_iff.1 refused with turned | ⟨environment, -, answered⟩
    · rw [target_unnamed unnamed] at turned
      rcases bind_eq_error_iff.1 turned with unseen | ⟨es, -, offers⟩
      · exact Portal.verdict_ne_notFound _ unseen
      · exact apart (offered_eq_error_iff.1 offers).2
    · exact Portal.verdict_ne_notFound _ answered

/-- A workshop that is registered is requested without a look at the catalog. -/
theorem requestWorkshop_gate_registered :
    let b : Broker := ⟨"http://p", ⟨"http://p", "c", "s", "u", "p", ["w"]⟩⟩
    let r : SessionRequest := { workshop := "w", environment := "e" }
    let l := ofToken b.base b.credentials { accessToken := "t" }
    let n : Network := ⟨true, [.answer 200 [0x5B, 0x22, 0x74, 0x22, 0x5D]]⟩
    let calls := Traced.calls ((b.requestWorkshop r).trace n)
    b.logIn.outcome n = .ok l ∧ (∃ c ∈ calls, c.isSessionRequest) ∧ l.catalogCall ∉ calls := by
  intro b r l n calls
  have login : b.logIn.outcome n = .ok l := by
    have valid : b.credentials.validate = .ok () :=
      Credentials.validate_eq_ok_iff.2 ⟨by cbv, by cbv, by cbv⟩
    have parsed : Url.parse "http://p/oauth2/token/" = .ok ⟨false, [], [], ['p'], none,
        ["oauth2".toList, "token".toList, []], none, none⟩ := by cbv
    have header : (Authorization.basic "c" "s").value.all inHeader = true := by
      change ("Basic ".toList ++ Encoding.Base64.encode (Text.Utf8.bytes "c" ++
        Text.Utf8.encodeChar ':' ++ Text.Utf8.bytes "s")).all inHeader = true
      cbv
    have departs := Call.departure_of_parse (c := tokenCall b.base b.credentials) parsed (by cbv)
      header
    exact start_of_answer valid departs rfl (by cbv)
  obtain ⟨requested, asked, -⟩ := requestWorkshop_gate b r n l login
  refine ⟨login, requested.2 (.inr (.inl ⟨by decide, by decide, by decide⟩)), ?_⟩
  rw [asked]
  decide

end Broker

end TrainingPortal
