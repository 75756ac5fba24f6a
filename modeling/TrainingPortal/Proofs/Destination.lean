import TrainingPortal.Proofs.Requests
import TrainingPortal.Proofs.Segment

/-!
# Where requests go

* `origin_requests`: all requests of an operation go to one origin, that of the portal's base,
  provided that the base names a host. A base such as `http:` names none, and then the first segment
  of each service's path is taken for a host, so that the services lie on different hosts
  (`requests_to_two_hosts`).
* `path_requests`: a request that names a session or an environment goes along the path of the base,
  the segments of the service and the name as one segment, provided that the name is not a dot
  segment. The names `.` and `..` lead to other paths (`requests_off_the_service`).
-/

namespace TrainingPortal

open Http Text Encoding PortalM

/-! ## Origins -/

namespace Url

/-- What tells one server from another: the scheme, the host and the port. -/
structure Origin where
  secure : Bool
  host : List Char
  port : Option Nat
  deriving DecidableEq

/-- The origin of a URL. -/
def origin (u : Url) : Origin := ⟨u.secure, u.host, u.port⟩

@[simp] theorem origin_continued (u : Url) (rest : List Char) :
    (u.continued rest).origin = u.origin := rfl

@[simp] theorem origin_addPairs (u : Url) (pairs : List (String × String)) :
    (u.addPairs pairs).origin = u.origin := by
  unfold addPairs
  split <;> rfl

@[simp] theorem path_addPairs (u : Url) (pairs : List (String × String)) :
    (u.addPairs pairs).path = u.path := by
  unfold addPairs
  split <;> rfl

end Url

/-- A request goes where the address of its call leads, without the user that the address names. -/
theorem Http.Call.url_of_request {c : Call} {q : Request} (h : c.request = .ok q) :
    ∃ u, Url.parse c.address = .ok u ∧
      q.url = { u with username := [], password := [] }.addPairs c.query := by
  obtain ⟨u, parsed, -, -, rfl⟩ := Call.request_eq_ok_iff.1 h
  exact ⟨u, parsed, rfl⟩

namespace Endpoint

/-- An address of a service: the base with a path that is in normal form. -/
def IsService (base address : String) : Prop :=
  ∃ path x, address = absolute base path ∧ path.toList = '/' :: x ∧
    ∀ c ∈ x, Url.isPathChar c = true

theorem isService_token (base : String) : IsService base (token base) :=
  ⟨_, _, rfl, rfl, List.all_eq_true.1 (by decide)⟩

theorem isService_revoke (base : String) : IsService base (revoke base) :=
  ⟨_, _, rfl, rfl, List.all_eq_true.1 (by decide)⟩

theorem isService_catalog (base : String) : IsService base (catalog base) :=
  ⟨_, _, rfl, rfl, List.all_eq_true.1 (by decide)⟩

/-- The path of an address that holds a name. -/
def around (before name after : String) : List Char :=
  before.toList ++ (Percent.encodeName name).toList ++ after.toList

theorem isPathChar_around {before after : String}
    (hbefore : before.toList.all Url.isPathChar = true)
    (hafter : after.toList.all Url.isPathChar = true) (name : String) :
    ∀ c ∈ around before name after, Url.isPathChar c = true := by
  simp only [around, List.forall_mem_append]
  exact ⟨⟨List.all_eq_true.1 hbefore, Percent.isPathChar_encodeName name⟩,
    List.all_eq_true.1 hafter⟩

theorem isService_request (base environment : String) :
    IsService base (request base environment) :=
  ⟨_, around "workshops/environment/" environment "/request/", rfl, by
    simp [around], isPathChar_around (by decide) (by decide) _⟩

theorem isService_terminate (base session : String) : IsService base (terminate base session) :=
  ⟨_, around "workshops/session/" session "/terminate/", rfl, by
    simp [around], isPathChar_around (by decide) (by decide) _⟩

/-- All services of a base that names a host have its origin, if it has one. -/
theorem map_origin_of_isService {base address : String} (hosted : Url.Hosted base)
    (service : IsService base address) :
    (Url.parse address).map Url.origin = (Url.parse (absolute base "/")).map Url.origin := by
  obtain ⟨path, x, rfl, hpath, hx⟩ := service
  obtain ⟨rest, -, -, parses⟩ := Url.parse_absolute hosted
  rw [parses path x hpath hx]
  cases Url.parse (absolute base "/") <;> rfl

theorem origin_of_isService {base address : String} {u : Url} (service : IsService base address)
    (hosted : Url.Hosted base) (h : Url.parse address = .ok u) :
    (Url.parse (absolute base "/")).map Url.origin = .ok u.origin := by
  rw [← map_origin_of_isService hosted service, h]
  rfl

end Endpoint

namespace Broker

variable {α : Type}

theorem isService_of_mem_work {o : Operation α} {l : Login} {work : List Call} (h : o.Work l work)
    {c : Call} (hc : c ∈ work) : Endpoint.IsService l.base c.address := by
  cases o with
  | request r =>
    obtain ⟨_, _, rfl, rfl | rfl, rfl | ⟨environment, rfl⟩⟩ := h
    · cases hc
    · obtain rfl := List.mem_singleton.1 hc
      exact Endpoint.isService_request _ _
    · obtain rfl := List.mem_singleton.1 hc
      exact Endpoint.isService_catalog _
    · rcases List.mem_cons.1 hc with rfl | hc
      · exact Endpoint.isService_catalog _
      · obtain rfl := List.mem_singleton.1 hc
        exact Endpoint.isService_request _ _
  | terminate session =>
    obtain rfl := h
    obtain rfl := List.mem_singleton.1 hc
    exact Endpoint.isService_terminate _ _
  | list =>
    obtain rfl := h
    obtain rfl := List.mem_singleton.1 hc
    exact Endpoint.isService_catalog _

/-- Every call of an operation is for a service of the broker's portal. -/
theorem isService_of_mem_calls (b : Broker) (o : Operation α) (n : Network) {c : Call}
    (hc : c ∈ Traced.calls ((b.carryOut o).trace n)) : Endpoint.IsService b.base c.address := by
  cases b.course o n with
  | refused e invalid login none =>
    rw [none] at hc
    cases hc
  | turnedAway e valid login one =>
    rw [one] at hc
    obtain rfl := List.mem_singleton.1 hc
    exact Endpoint.isService_token _
  | carriedOut l work valid login does all =>
    obtain ⟨token, rfl⟩ := Login.eq_ofToken_of_start login
    rw [all] at hc
    rcases List.mem_cons.1 hc with rfl | hc
    · exact Endpoint.isService_token _
    · rcases List.mem_append.1 hc with hc | hc
      · exact isService_of_mem_work does hc
      · obtain rfl := List.mem_singleton.1 hc
        exact Endpoint.isService_revoke _

/-- **One origin.** If the base of the portal names a host, all requests of an operation go to the
origin of the base, whatever the portal replies. -/
theorem origin_requests (b : Broker) (o : Operation α) (n : Network)
    (hosted : Url.parse (Endpoint.absolute b.base "/") ≠ .error .emptyHost) :
    let requests := Traced.requests ((b.carryOut o).trace n)
    (∀ q ∈ requests,
      (Url.parse (Endpoint.absolute b.base "/")).map Url.origin = .ok q.url.origin) ∧
    ∀ q ∈ requests, ∀ q' ∈ requests, q.url.origin = q'.url.origin := by
  intro requests
  have goes : ∀ q ∈ requests,
      (Url.parse (Endpoint.absolute b.base "/")).map Url.origin = .ok q.url.origin := by
    intro q hq
    obtain ⟨c, hc, made⟩ := b.answerable_carryOut o n q hq
    obtain ⟨u, parsed, target⟩ := Call.url_of_request made
    have same : q.url.origin = u.origin := by rw [target, Url.origin_addPairs]; rfl
    rw [same]
    exact Endpoint.origin_of_isService (b.isService_of_mem_calls o n hc)
      (Url.hosted_of_root hosted) parsed
  exact ⟨goes, fun q hq q' hq' => Except.ok.inj ((goes q hq).symm.trans (goes q' hq'))⟩

/-- The three requests of a listing go to the host that the base names. -/
theorem origin_requests_of_listing :
    let b : Broker := ⟨"http://P:80", ⟨"http://P:80", "c", "s", "u", "p", []⟩⟩
    let n : Network := ⟨true, [.answer 200 "[\"t\"]".toUTF8.toList]⟩
    let requests := Traced.requests ((b.carryOut .list).trace n)
    Url.parse (Endpoint.absolute b.base "/") ≠ .error .emptyHost ∧
      requests.map (fun q => String.ofList q.url.host) = ["p", "p", "p"] ∧
      ∀ q ∈ requests, ∀ q' ∈ requests, q.url.origin = q'.url.origin := by
  intro b n requests
  have hosted : Url.parse (Endpoint.absolute b.base "/") ≠ .error .emptyHost := by decide +kernel
  exact ⟨hosted, by decide +kernel, (origin_requests b .list n hosted).2⟩

/-- The credentials of a portal whose address names no host are not refused, and what they log in to
is another host than the one that is shown the access token. -/
theorem requests_to_two_hosts :
    let c : Credentials := ⟨"http://", "c", "s", "u", "p", []⟩
    let n : Network := ⟨true, [.answer 200 "[\"t\"]".toUTF8.toList]⟩
    c.validate = .ok () ∧ ∃ b, Broker.ofCredentials c = .ok b ∧
      (Traced.requests ((b.carryOut .list).trace n)).map
          (fun q => (String.ofList q.url.host, q.authorizations.map String.ofList)) =
        [("oauth2", ["Basic Yzpz"]), ("workshops", ["Bearer t"]), ("oauth2", ["Bearer t"])] := by
  intro c n
  have valid : c.validate = .ok () :=
    Credentials.validate_eq_ok_iff.2 ⟨by decide +kernel, by decide +kernel, by decide +kernel⟩
  have base : Endpoint.base "http://" = "http:" := by decide +kernel
  refine ⟨valid, ⟨"http:", c⟩, ?_, by decide +kernel⟩
  rw [Broker.ofCredentials, valid, ← base]
  rfl

end Broker

/-! ## Paths -/

namespace Url

/-- What is read along a path of plain characters behind a slash. -/
theorem continued_along {rest x : List Char} (slash : ∀ c ∈ rest.head?, isSlash c = true)
    (plain : ∀ c ∈ rest, c ≠ '?' ∧ c ≠ '#') (hx : ∀ c ∈ x, isPathChar c = true) (u : Url) :
    u.continued (rest ++ '/' :: x) =
      { u with
        path := resolve (above rest) (Path.segments x), query := none, fragment := none } := by
  rw [continued_of_plain, readPath_append_slash slash]
  · exact fun mem => absurd (hx _ mem) (by decide)
  · intro c hc
    rcases List.mem_append.1 hc with hc | hc
    · exact plain c hc
    · have path : isPathChar c = true := by
        rcases List.mem_cons.1 hc with rfl | hc
        · exact isPathChar_slash
        · exact hx c hc
      exact ⟨ne_of_isPathChar path (by decide), ne_of_isPathChar path (by decide)⟩

theorem isPathChar_of_spelled {segments : List (List Char)} {x : List Char}
    (down : ∀ s ∈ segments, IsPlain s)
    (spelled : '/' :: x = segments.flatMap ('/' :: ·) ++ ['/']) : ∀ c ∈ x, isPathChar c = true := by
  intro c hc
  have mem : c ∈ '/' :: x := List.mem_cons_of_mem _ hc
  rw [spelled, List.mem_append, List.mem_flatMap, List.mem_singleton] at mem
  rcases mem with ⟨s, hs, hc⟩ | rfl
  · rcases List.mem_cons.1 hc with rfl | hc
    · exact isPathChar_slash
    · exact (down s hs).chars c hc
  · exact isPathChar_slash

/-- The path of a base without query and fragment, and the paths of what lies under it. -/
theorem parse_path {base : String} {root : Url} (plain : ∀ c ∈ base.toList, c ≠ '?' ∧ c ≠ '#')
    (isRoot : parse (Endpoint.absolute base "/") = .ok root) :
    ∃ above, root.path = above ++ [[]] ∧ ∀ (path : String) (segments : List (List Char)),
      (∀ s ∈ segments, IsPlain s) → segments ≠ [] →
      path.toList = segments.flatMap ('/' :: ·) ++ ['/'] →
      parse (Endpoint.absolute base path) =
        .ok { root with path := above ++ (segments ++ [[]]) } := by
  have hosted : Hosted base := hosted_of_root fun none => by simp [isRoot] at none
  obtain ⟨rest, brings, begins, parses⟩ := parse_absolute hosted
  have restPlain : ∀ c ∈ rest, c ≠ '?' ∧ c ≠ '#' := fun c hc => plain c (brings c hc)
  have slash : ∀ c ∈ rest.head?, isSlash c = true := by
    intro c hc
    obtain ⟨noQuery, noFragment⟩ := restPlain c (List.mem_of_mem_head? hc)
    simpa [endsAuthority, noQuery, noFragment] using begins c hc
  -- the root itself is the case of the empty path
  have self : root = root.continued (rest ++ ['/']) := by
    have := parses "/" [] (by decide) (by simp)
    rw [isRoot] at this
    exact Except.ok.inj this
  rw [continued_along slash restPlain (by simp)] at self
  refine ⟨above rest, self ▸ rfl, fun path segments down some spelled => ?_⟩
  obtain ⟨x, hpath⟩ : ∃ x, path.toList = '/' :: x := by
    cases segments with
    | nil => exact absurd rfl some
    | cons segment segments => exact ⟨_, spelled⟩
  have spelled' := hpath.symm.trans spelled
  have hx := isPathChar_of_spelled down spelled'
  have cut : Path.segments x = segments ++ [[]] :=
    splitAt_flatMap (fun s hs => (down s hs).slash) spelled'
  rw [parses path x hpath hx, isRoot]
  change Except.ok (root.continued (rest ++ '/' :: x)) = _
  rw [continued_along slash restPlain hx, cut, resolve_of_plain, self]
  exact List.forall_mem_append.2 ⟨down, List.forall_mem_singleton.2 isPlain_nil⟩

end Url

namespace Endpoint

/-- Whether a path is that of a base with these segments behind it. The path of a base is what
stands before the last, empty segment when a slash closes the base. -/
def IsUnder (base : String) (segments path : List (List Char)) : Prop :=
  ∃ root above, Url.parse (absolute base "/") = .ok root ∧ root.path = above ++ [[]] ∧
    path = above ++ segments

/-- The segments of the path to an action on something that has a name. -/
def actionSegments (service name action : String) : List (List Char) :=
  ["workshops".toList, service.toList, (Percent.encodeName name).toList, action.toList, []]

variable {base name : String}

/-- The address of an action leads along its segments, unless the name is a dot segment. -/
theorem parse_action {service action path : String} {root : Url}
    (plain : ∀ c ∈ base.toList, c ≠ '?' ∧ c ≠ '#')
    (isRoot : Url.parse (absolute base "/") = .ok root) (noDot : name ≠ ".") (noDots : name ≠ "..")
    (hservice : Url.IsPlain service.toList) (haction : Url.IsPlain action.toList)
    (hpath : path.toList = ("/workshops/" ++ service ++ "/" ++ Percent.encodeName name ++ "/" ++
      action ++ "/").toList) :
    ∃ u, Url.parse (absolute base path) = .ok u ∧
      IsUnder base (actionSegments service name action) u.path := by
  obtain ⟨above, rootPath, parses⟩ := Url.parse_path plain isRoot
  refine ⟨_, parses path ["workshops".toList, service.toList, (Percent.encodeName name).toList,
    action.toList] ?_ (by simp) ?_, root, above, isRoot, rootPath, rfl⟩
  · simp only [List.forall_mem_cons, hservice, haction, Percent.isPlain_encodeName noDot noDots]
    decide
  · simp [hpath]

theorem parse_terminate {root : Url} (plain : ∀ c ∈ base.toList, c ≠ '?' ∧ c ≠ '#')
    (isRoot : Url.parse (absolute base "/") = .ok root) (noDot : name ≠ ".")
    (noDots : name ≠ "..") :
    ∃ u, Url.parse (terminate base name) = .ok u ∧
      IsUnder base (actionSegments "session" name "terminate") u.path :=
  parse_action plain isRoot noDot noDots (by decide) (by decide) (by simp)

theorem parse_request {root : Url} (plain : ∀ c ∈ base.toList, c ≠ '?' ∧ c ≠ '#')
    (isRoot : Url.parse (absolute base "/") = .ok root) (noDot : name ≠ ".")
    (noDots : name ≠ "..") :
    ∃ u, Url.parse (request base name) = .ok u ∧
      IsUnder base (actionSegments "environment" name "request") u.path :=
  parse_action plain isRoot noDot noDots (by decide) (by decide) (by simp)

/-- What is sent to a service goes along the path of its address. -/
theorem isUnder_of_sent {c : Call} {q : Request} {segments : List (List Char)}
    (sent : c.request = .ok q) (service : IsService base c.address) (hosted : Url.Hosted base)
    (leads : ∀ root, Url.parse (absolute base "/") = .ok root →
      ∃ u, Url.parse c.address = .ok u ∧ IsUnder base segments u.path) :
    IsUnder base segments q.url.path := by
  obtain ⟨u, parsed, target⟩ := Call.url_of_request sent
  have origin := origin_of_isService service hosted parsed
  cases isRoot : Url.parse (absolute base "/") with
  | error fault =>
    rw [isRoot] at origin
    cases origin
  | ok root =>
    obtain ⟨u', parsed', under⟩ := leads root isRoot
    obtain rfl : u = u' := Except.ok.inj (parsed.symm.trans parsed')
    rw [target, Url.path_addPairs]
    exact under

end Endpoint

namespace Login

open Endpoint

/-- Requesting a session makes no other call. -/
theorem eq_of_mem_calls_requestSession {l : Login} {r : SessionRequest}
    {known : Option (List String)} {n : Network} {c : Call}
    (hc : c ∈ Traced.calls ((l.requestSession r known).trace n)) : c = l.requestCall r := by
  by_cases h : ∀ workshops, known = some workshops → r.workshop ∈ workshops
  · rw [(exchange_requestSession h l).calls_eq] at hc
    exact List.mem_singleton.1 hc
  · obtain ⟨workshops, h⟩ := not_forall.1 h
    obtain ⟨rfl, mem⟩ := Classical.not_imp.1 h
    rw [(quiet_requestSession mem l).calls_eq] at hc
    cases hc

/-- **The name is one segment.** If the base of a portal is a URL without query and fragment, the
address that terminates a session and the one that requests a session of an environment lead along
the path of the base, the segments of the service and the name as one segment, and so do the
requests that are sent, for every name but `.` and `..`. -/
theorem path_requests (base name : String) (isUrl : ∃ u, Url.parse base = .ok u)
    (plain : ∀ c ∈ base.toList, c ≠ '?' ∧ c ≠ '#') (noDot : name ≠ ".") (noDots : name ≠ "..") :
    let terminates := IsUnder base (actionSegments "session" name "terminate")
    let requests := IsUnder base (actionSegments "environment" name "request")
    (∀ root, Url.parse (absolute base "/") = .ok root →
      (∃ u, Url.parse (terminate base name) = .ok u ∧ terminates u.path) ∧
      ∃ u, Url.parse (request base name) = .ok u ∧ requests u.path) ∧
    (∀ (l : Login) (n : Network), l.base = base →
      ∀ q ∈ Traced.requests ((l.terminateSession name).trace n), terminates q.url.path) ∧
    (∀ (l : Login) (r : SessionRequest) (known : Option (List String)) (n : Network),
      l.base = base → r.environment = name →
      ∀ q ∈ Traced.requests ((l.requestSession r known).trace n), requests q.url.path) ∧
    '/' ∉ (Percent.encodeName name).toList ∧
    Percent.decode (Percent.encodeName name).toList = Utf8.bytes name := by
  obtain ⟨u, isUrl⟩ := isUrl
  have hosted : Url.Hosted base := Url.hosted_of_parse isUrl
  refine ⟨fun root isRoot => ⟨parse_terminate plain isRoot noDot noDots,
    parse_request plain isRoot noDot noDots⟩, ?_, ?_, Percent.slash_not_mem_encodeName name,
    Percent.decode_encodeName name⟩
  · rintro l n rfl q hq
    obtain ⟨c, hc, sent⟩ := (l.plain_terminateSession name).answerable n q hq
    rw [(l.exchange_terminateSession name).calls_eq, List.mem_singleton] at hc
    subst hc
    exact isUnder_of_sent sent (isService_terminate _ _) hosted fun root isRoot =>
      parse_terminate plain isRoot noDot noDots
  · rintro l r known n rfl rfl q hq
    obtain ⟨c, hc, sent⟩ := (l.plain_requestSession r known).answerable n q hq
    obtain rfl := eq_of_mem_calls_requestSession hc
    exact isUnder_of_sent sent (isService_request _ _) hosted fun root isRoot =>
      parse_request plain isRoot noDot noDots

/-- A name full of separators is one segment below the path of the base. -/
theorem path_requests_of_separators :
    let base := "http://p/a/./b"
    let name := "../%2e?#\\é"
    let l : Login := { base, token := { accessToken := "t" }, clientId := "c", clientSecret := "s" }
    let n : Network := ⟨true, []⟩
    (∃ u, Url.parse base = .ok u) ∧ (∀ c ∈ base.toList, c ≠ '?' ∧ c ≠ '#') ∧ name ≠ "." ∧
      name ≠ ".." ∧
      (Traced.requests ((l.terminateSession name).trace n)).map (fun q => q.url.path) =
        [["a".toList, "b".toList] ++ actionSegments "session" name "terminate"] ∧
      ∀ q ∈ Traced.requests ((l.terminateSession name).trace n),
        IsUnder base (actionSegments "session" name "terminate") q.url.path := by
  intro base name l n
  have isUrl : ∃ u, Url.parse base = .ok u := by
    refine ⟨⟨false, [], [], ['p'], none, ["a".toList, "b".toList], none, none⟩, ?_⟩
    decide +kernel
  have all : base.toList.all (fun c => decide (c ≠ '?' ∧ c ≠ '#')) = true := by decide +kernel
  have plain : ∀ c ∈ base.toList, c ≠ '?' ∧ c ≠ '#' :=
    fun c hc => of_decide_eq_true (List.all_eq_true.1 all c hc)
  have leads := path_requests base name isUrl plain (by decide) (by decide)
  exact ⟨isUrl, plain, by decide, by decide, by decide +kernel, leads.2.1 l n rfl⟩

/-- The names `.` and `..` are no segments of the paths that are requested: the first one is lost,
and the second one takes the segment before it along. -/
theorem requests_off_the_service :
    let l : Login :=
      { base := "http://p", token := { accessToken := "t" }, clientId := "c", clientSecret := "s" }
    let n : Network := ⟨true, []⟩
    let paths (name : String) :=
      (Traced.requests ((l.terminateSession name).trace n)).map (fun q => q.url.path)
    paths "." = [["workshops".toList, "session".toList, "terminate".toList, []]] ∧
      paths ".." = [["workshops".toList, "terminate".toList, []]] ∧
      ¬ ∃ segment, paths ".." =
        [["workshops".toList, "session".toList, segment, "terminate".toList, []]] := by
  intro l n paths
  have up : paths ".." = [["workshops".toList, "terminate".toList, []]] := by decide +kernel
  refine ⟨by decide +kernel, up, ?_⟩
  rintro ⟨segment, eq⟩
  rw [up] at eq
  simp at eq

end Login

end TrainingPortal
