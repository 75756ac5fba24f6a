import TrainingPortal.Proofs.Base64
import TrainingPortal.Proofs.Destination
import TrainingPortal.Proofs.Session
import TrainingPortal.Proofs.Tokens

/-!
# What a login hands over

Whoever logs in hands the robot account and the client over to the portal, and hands the token back
at the end. None of these texts is lost on the way, whatever characters it holds
(`Login.secrets_arrive`): forms and base64 are read by the decoders of their formats.

* `introduces_requestTo` and `handsBack_requestTo` say what the two requests carry.
* `Token.grants_of_ofJson?` and `Token.ofBody?_reply` say where the token comes from: it is what an
  answer names as such, and any text can be the token of an answer.
-/

namespace TrainingPortal

open Http Text Encoding PortalM

/-! ## Tokens in answers -/

namespace Token

/-- Whether the JSON of an answer names an access token: as its one member of that name or, in an
array, in the first place. -/
def Grants (accessToken : String) : Json → Prop
  | .object members =>
    members.filter (·.1 == "access_token") = [("access_token", .text accessToken)]
  | .array items => items.head? = some (.text accessToken)
  | _ => False

theorem toText?_eq_some_iff {j : Json} {s : String} : j.toText? = some s ↔ j = .text s := by
  cases j <;> simp [Json.toText?]

/-- The first field of a token is a text, the access token. -/
theorem fields?_of_ofJson? {j : Json} {token : Token} (h : ofJson? j = some token) :
    ∃ others, Json.fields? fieldNames j = some (some (.text token.accessToken) :: others) := by
  obtain ⟨fields, found, h⟩ := Option.bind_eq_some_iff.1 h
  split at h
  case h_2 => cases h
  case h_1 first _ _ _ _ =>
    obtain ⟨accessToken, required, h⟩ := Option.bind_eq_some_iff.1 h
    obtain ⟨_, -, h⟩ := Option.bind_eq_some_iff.1 h
    obtain ⟨_, -, h⟩ := Option.bind_eq_some_iff.1 h
    obtain ⟨_, -, h⟩ := Option.bind_eq_some_iff.1 h
    obtain ⟨_, -, h⟩ := Option.bind_eq_some_iff.1 h
    obtain rfl := Option.some.inj h
    cases first with
    | none => cases required
    | some value =>
      obtain rfl := toText?_eq_some_iff.1 required
      exact ⟨_, found⟩

/-- A member that is found is the only one of its name. -/
theorem filter_eq_of_member? {members : List (String × Json)} {name : String} {value : Json}
    (h : Json.member? members name = some (some value)) :
    members.filter (·.1 == name) = [(name, value)] := by
  unfold Json.member? at h
  split at h
  case h_1 => cases h
  case h_2 other found only =>
    obtain rfl := Option.some.inj (Option.some.inj h)
    have mem : (other, found) ∈ members.filter (·.1 == name) := only ▸ List.mem_singleton_self _
    obtain rfl : other = name := beq_iff_eq.1 (List.mem_filter.1 mem).2
    exact only
  case h_3 => cases h

/-- A token is what the JSON of an answer names as such. -/
theorem grants_of_ofJson? {j : Json} {token : Token} (h : ofJson? j = some token) :
    Grants token.accessToken j := by
  obtain ⟨others, fields⟩ := fields?_of_ofJson? h
  cases j with
  | object members =>
    obtain ⟨first, found, fields⟩ :=
      Option.bind_eq_some_iff.1 ((List.mapM_cons ..).symm.trans fields)
    obtain ⟨_, -, fields⟩ := Option.bind_eq_some_iff.1 fields
    obtain ⟨rfl, -⟩ := List.cons.inj (Option.some.inj fields)
    exact filter_eq_of_member? found
  | array items =>
    rw [Json.fields?] at fields
    split at fields
    case isFalse => cases fields
    case isTrue =>
      cases items with
      | nil => cases Option.some.inj fields
      | cons first rest => exact (List.cons.inj (Option.some.inj fields)).1
  | _ => cases fields

/-- The body of an answer with nothing but an access token. -/
def reply (accessToken : String) : List UInt8 :=
  Utf8.bytes (Json.object [("access_token", .text accessToken)]).compact

/-- Every text can be the access token of an answer. -/
theorem ofBody?_reply (accessToken : String) :
    ofBody? (reply accessToken) = some { accessToken } := by
  have exact : Json.Exact (.object [("access_token", .text accessToken)]) :=
    .object (List.forall_mem_singleton.2 (.text _))
  rw [ofBody?, reply, Json.parse?_bytes exact]
  rfl

end Token

/-! ## Services of one base -/

/-- A call to a service leaves wherever the base is a URL that may be sent to. -/
theorem Endpoint.departure_of_service {base : String} {c : Call} {root : Url}
    (service : IsService base c.address) (isRoot : Url.parse (absolute base "/") = .ok root)
    (host : root.host.any isOutsideUri = false)
    (header : c.authorization.value.all inHeader = true) :
    ∃ url, c.departure true = .ok (c.requestTo url) := by
  have hosted : Url.Hosted base := Url.hosted_of_root fun none => by simp [isRoot] at none
  obtain ⟨path, x, address, spelled, pathChars⟩ := service
  obtain ⟨rest, -, -, parses⟩ := Url.parse_absolute hosted
  have parsed : Url.parse c.address = .ok (root.continued (rest ++ '/' :: x)) := by
    rw [address, parses path x spelled pathChars, isRoot]
    rfl
  exact ⟨_, Call.departure_of_parse parsed host header⟩

/-! ## What the requests of a trace have in common -/

namespace Http

/-- Whether `P` holds of every request that a call of a trace leads to, and thereby of all that are
sent. -/
structure Conveys (P : Request → Prop) (trace : List Event) : Prop where
  made : ∀ call ∈ Traced.calls trace, ∀ q, call.request = .ok q → P q
  sent : ∀ q ∈ Traced.requests trace, P q

/-- Where there is one call, its one request decides. -/
theorem conveys_of_calls {P : Request → Prop} {trace : List Event} {c : Call}
    (answerable : Answerable trace) (calls : Traced.calls trace = [c])
    (h : ∀ url, P (c.requestTo url)) : Conveys P trace := by
  have made : ∀ call ∈ Traced.calls trace, ∀ q, call.request = .ok q → P q := by
    intro call mem q leads
    rw [calls, List.mem_singleton] at mem
    subst mem
    obtain ⟨url, -, -, -, rfl⟩ := Call.request_eq_ok_iff.1 leads
    exact h url
  refine ⟨made, fun q sent => ?_⟩
  obtain ⟨call, mem, leads⟩ := answerable q sent
  exact made call mem q leads

end Http

namespace Login

/-! ## What the requests carry -/

/-- Whether the bytes of a basic authorisation name a client: its name and its secret, which can be
told apart at the first colon exactly if the name holds none. -/
def NamesClient (c : Credentials) (bytes : List UInt8) : Prop :=
  bytes = Utf8.bytes c.clientId ++ Utf8.encodeChar ':' ++ Utf8.bytes c.clientSecret ∧
    ∃ text, Utf8.decode? bytes = some text ∧
      (cutAt ':' text = (c.clientId.toList, some c.clientSecret.toList) ↔ ':' ∉ c.clientId.toList)

/-- Whether a request tells a portal who logs in. The last authorisation is that of the client; one
before it would be that of a user whom the address names. -/
structure Introduces (c : Credentials) (q : Request) : Prop where
  form : Form.decode q.body.toList =
    [("grant_type", "password"), ("username", c.username), ("password", c.password)]
  basic : ∃ encoded bytes, q.authorizations.getLast? = some ("Basic ".toList ++ encoded) ∧
    Base64.decode? encoded = some bytes ∧ NamesClient c bytes

/-- Whether a request tells a portal which token is handed back, and by whom. -/
def HandsBack (c : Credentials) (accessToken : String) (q : Request) : Prop :=
  Form.decode q.body.toList =
    [("token", accessToken), ("client_id", c.clientId), ("client_secret", c.clientSecret)]

theorem namesClient_bytes (c : Credentials) :
    NamesClient c (Utf8.bytes c.clientId ++ Utf8.encodeChar ':' ++ Utf8.bytes c.clientSecret) := by
  have whole : Utf8.bytes c.clientId ++ Utf8.encodeChar ':' ++ Utf8.bytes c.clientSecret =
      Utf8.encode (c.clientId.toList ++ ':' :: c.clientSecret.toList) := by
    simp [Utf8.bytes, Utf8.encode, List.flatMap_append, List.flatMap_cons]
  exact ⟨rfl, _, whole ▸ Utf8.decode?_encode _, cutAt_append_eq_iff⟩

theorem introduces_requestTo (base : String) (c : Credentials) (url : Url) :
    Introduces c ((tokenCall base c).requestTo url) where
  form := (congrArg Form.decode String.toList_ofList).trans (Form.decode_encodeChars _)
  basic := ⟨_, _, List.getLast?_concat, Base64.decode?_encode _, namesClient_bytes c⟩

theorem handsBack_requestTo (base : String) (c : Credentials) (token : Token) (url : Url) :
    HandsBack c token.accessToken ((ofToken base c token).revokeCall.requestTo url) :=
  (congrArg Form.decode String.toList_ofList).trans (Form.decode_encodeChars _)

/-! ## The requests of a login and of its end -/

theorem conveys_start {c : Credentials} (valid : c.validate = .ok ()) (base : String)
    (n : Network) : Conveys (Introduces c) ((start base c).trace n) :=
  have exchange := exchange_start valid base
  conveys_of_calls (exchange.answerable n) (exchange.calls_eq n) (introduces_requestTo base c)

theorem conveys_revoke (base : String) (c : Credentials) (token : Token) (n : Network) :
    Conveys (HandsBack c token.accessToken) ((ofToken base c token).revoke n).trace := by
  obtain ⟨e, -, eq⟩ := (ofToken base c token).run_revoke n
  refine conveys_of_calls (c := (ofToken base c token).revokeCall) ?_ ?_
    (handsBack_requestTo base c token)
  · rw [eq]
    exact (Answerable.attempt _ n).append (.logged [e])
  · rw [eq, Traced.calls_append, calls_attempt]
    rfl

/-- A login comes of an answer whose JSON names its access token. -/
theorem token_of_start {base : String} {c : Credentials} {n : Network} {l : Login}
    (h : (start base c).outcome n = .ok l) :
    ∃ body json token, n.replyAt 0 = .answer 200 body ∧
      Json.parse? (String.ofList (Utf8.decodeLossy body)) = some json ∧
      Token.Grants token.accessToken json ∧ l = ofToken base c token := by
  obtain ⟨-, body, answered, value⟩ :=
    ((inquires_start (validate_of_start h) base).value n l).1 h
  obtain ⟨token, read, rfl⟩ := Option.map_eq_some_iff.1 value
  obtain ⟨json, parsed, decoded⟩ := Option.bind_eq_some_iff.1 read
  exact ⟨body, json, token, answered, parsed, Token.grants_of_ofJson? decoded, rfl⟩

theorem requests_revoke (l : Login) (n : Network) :
    Traced.requests (l.revoke n).trace =
      (l.revokeCall.departure n.connected).toOption.toList := by
  obtain ⟨e, -, eq⟩ := l.run_revoke n
  rw [eq, Traced.requests_append, requests_attempt]
  exact List.append_nil _

/-- A login takes whatever token it is answered with. -/
theorem start_of_read {base : String} {c : Credentials} {n : Network} {asked : Request}
    {body : List UInt8} {token : Token} (valid : c.validate = .ok ())
    (departs : (tokenCall base c).departure n.connected = .ok asked)
    (answered : n.replyAt 0 = .answer 200 body) (read : Token.ofBody? body = some token) :
    (start base c).outcome n = .ok (ofToken base c token) :=
  ((inquires_start valid base).value n _).2
    ⟨⟨asked, departs⟩, body, answered, congrArg (Option.map (ofToken base c)) read⟩

/-- Where a portal gives a token, one request asks for it and one hands it back. -/
theorem requests_of_answer {base : String} {c : Credentials} (valid : c.validate = .ok ())
    {root : Url} (isRoot : Url.parse (Endpoint.absolute base "/") = .ok root)
    (host : root.host.any isOutsideUri = false) {n : Network}
    (connected : n.connected = true) {body : List UInt8} {token : Token}
    (answered : n.replyAt 0 = .answer 200 body) (read : Token.ofBody? body = some token)
    (header : token.accessToken.toList.all inHeader = true) :
    let l := ofToken base c token
    (start base c).outcome n = .ok l ∧
      ∃ url url', Traced.requests ((start base c).trace n) = [(tokenCall base c).requestTo url] ∧
        Traced.requests (l.revoke ((start base c).left n)).trace =
          [l.revokeCall.requestTo url'] := by
  intro l
  obtain ⟨url, departs⟩ := Endpoint.departure_of_service (c := tokenCall base c)
    (Endpoint.isService_token base) isRoot host (Authorization.all_basic _ _)
  obtain ⟨url', departs'⟩ := Endpoint.departure_of_service (c := l.revokeCall)
    (Endpoint.isService_revoke base) isRoot host ((Authorization.all_bearer _).trans header)
  rw [← connected] at departs
  have inquires := inquires_start valid base
  have left : ((start base c).left n).connected = true := by
    rw [(exchange_start valid base).left_eq, attempt_eq, departs]
    exact connected
  refine ⟨start_of_read valid departs answered read, url, url', ?_, ?_⟩
  · rw [inquires.requests, departs]
    rfl
  · rw [requests_revoke, left, departs']
    rfl

end Login

end TrainingPortal
