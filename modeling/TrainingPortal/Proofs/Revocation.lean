import TrainingPortal.Proofs.Handover

/-!
# Tokens that come back

A login takes any text for a token, and hands it back in a header and in a form. Forms carry every
text, headers do not: `token_comes_back` says for which tokens the portal is handed back what it
issued (`Token.Usable`), for which it is handed back something else, and for which no request is
sent at all.

* `Endpoint.map_origin_revoke`: tokens are handed back where they are asked for, at every base.
* `Login.requests_of_start`: once a login has succeeded, the characters of the token alone decide
  whether a request hands it back.
* `Http.trimHeader_bearer_eq_iff`: the token in that request is read as it is unless it is empty or
  ends with a blank.
-/

namespace TrainingPortal

open Http Text Encoding PortalM

/-! ## Headers -/

namespace Http

/-- Whether a character at an end of a header belongs to the white space around it. -/
def isHeaderBlank (c : Char) : Bool := c == ' ' || c == '\t'

/-- A bearer authorisation is read as it was written exactly if its token ends with something other
than a blank. -/
theorem trimHeader_bearer_eq_iff (token : String) :
    trimHeader (Authorization.bearer token).value = (Authorization.bearer token).value ↔
      token ≠ "" ∧ ∀ c ∈ token.toList.getLast?, isHeaderBlank c = false := by
  change dropTailWhile isHeaderBlank ("Bearer ".toList ++ token.toList) =
    "Bearer ".toList ++ token.toList ↔ _
  rw [ne_eq, ← String.toList_inj]
  rcases List.eq_nil_or_concat' token.toList with whole | ⟨init, last, whole⟩
  · rw [whole]
    exact iff_of_false (by decide) fun h => h.1 rfl
  · rw [whole, ← List.append_assoc]
    simp only [List.getLast?_concat, Option.mem_def, Option.some.injEq, forall_eq']
    constructor
    · exact fun same => ⟨by simp, neg_of_dropTailWhile_eq_concat same⟩
    · exact fun h => dropTailWhile_append_of_neg h.2 _

end Http

/-! ## Where tokens are handed back -/

namespace Endpoint

/-- Tokens are handed back where they are asked for. A base that names no host is no exception,
because both paths then start with the same host. -/
theorem map_origin_revoke (base : String) :
    (Url.parse (revoke base)).map Url.origin = (Url.parse (token base)).map Url.origin := by
  by_cases hosted : Url.Hosted base
  case pos =>
    rw [map_origin_of_isService hosted (isService_revoke base),
      map_origin_of_isService hosted (isService_token base)]
  case neg =>
    -- nothing of the base is left behind the slashes of its scheme
    obtain ⟨secure, opens⟩ : ∃ secure, Url.opening (Url.stem base.toList) = .ok (secure, []) := by
      simpa only [Url.Hosted, not_forall, not_not] using hosted
    have parses (path : String) (x : List Char) (hpath : path.toList = '/' :: x)
        (hx : x.all Url.isPathChar = true) :
        Url.parse (absolute base path) = Url.afterOpening secure (x.dropWhile Url.isSlash) := by
      rw [Url.parse_append_slash base path hpath (List.all_eq_true.1 hx), Url.opening_append_slash,
        opens]
      rfl
    rw [token, parses "/oauth2/token/" "oauth2/token/".toList rfl (by decide), revoke,
      parses "/oauth2/revoke-token/" "oauth2/revoke-token/".toList rfl (by decide)]
    cases secure <;> decide +kernel

/-- Where tokens can be asked for, they can be handed back. -/
theorem exists_parse_revoke {base : String} {u : Url} (h : Url.parse (token base) = .ok u) :
    ∃ u', Url.parse (revoke base) = .ok u' ∧ u'.origin = u.origin := by
  have same := map_origin_revoke base
  rw [h] at same
  cases parsed : Url.parse (revoke base) with
  | error fault =>
    rw [parsed] at same
    cases same
  | ok u' =>
    rw [parsed] at same
    exact ⟨u', rfl, Except.ok.inj same⟩

end Endpoint

/-! ## What is handed back -/

/-- Whether a token can be handed back. It has to hold something, nothing that no header may hold,
and nothing at its end that is taken for white space around the header. -/
structure Token.Usable (t : Token) : Prop where
  some : t.accessToken ≠ ""
  header : t.accessToken.toList.all inHeader = true
  ends : ∀ c ∈ t.accessToken.toList.getLast?, isHeaderBlank c = false

namespace Login

/-- Whether a request hands a token back where `asked` asked for it, in its header and in its
form. -/
structure Returns (c : Credentials) (accessToken : String) (asked q : Request) : Prop where
  origin : q.url.origin = asked.url.origin
  header : (q.authorizations.map trimHeader).getLast? =
    some (Authorization.bearer accessToken).value
  form : HandsBack c accessToken q

theorem origin_requestTo (call : Call) (url : Url) : (call.requestTo url).url.origin = url.origin :=
  Url.origin_addPairs _ _

theorem returns_requestTo_iff (base : String) (c : Credentials) (token : Token) {asked : Request}
    {url : Url} (origin : url.origin = asked.url.origin) :
    Returns c token.accessToken asked ((ofToken base c token).revokeCall.requestTo url) ↔
      token.accessToken ≠ "" ∧
        ∀ c ∈ token.accessToken.toList.getLast?, isHeaderBlank c = false := by
  rw [← trimHeader_bearer_eq_iff]
  have last : (((ofToken base c token).revokeCall.requestTo url).authorizations.map
      trimHeader).getLast? = some (trimHeader (Authorization.bearer token.accessToken).value) := by
    rw [Call.requestTo, List.map_append, List.map_singleton, List.getLast?_concat]
    rfl
  constructor
  · intro returns
    exact Option.some.inj (last.symm.trans returns.header)
  · intro same
    refine ⟨?_, ?_, handsBack_requestTo base c token url⟩
    · rw [origin_requestTo, origin]
    · rw [last, same]

/-- The characters of a token decide whether it is handed back. -/
theorem requests_of_start {base : String} {c : Credentials} {n : Network} {l : Login}
    (h : (start base c).outcome n = .ok l) :
    ∃ asked url, Traced.requests ((start base c).trace n) = [asked] ∧
      url.origin = asked.url.origin ∧
      ∀ n' : Network, n'.connected = n.connected → Traced.requests (l.revoke n').trace =
        if l.token.accessToken.toList.all inHeader then [l.revokeCall.requestTo url] else [] := by
  have inquires := inquires_start (validate_of_start h) base
  obtain ⟨token, rfl⟩ := eq_ofToken_of_start h
  obtain ⟨⟨asked, departs⟩, -⟩ := (inquires.value n _).1 h
  have asks : Traced.requests ((start base c).trace n) = [asked] := by
    rw [inquires.requests, departs]
    rfl
  obtain ⟨connected, -, u, parsed, host, rfl⟩ := Call.departure_eq_ok_iff.1 departs
  obtain ⟨url, parsed', same⟩ := Endpoint.exists_parse_revoke parsed
  obtain ⟨-, hosts, -⟩ := Url.Origin.mk.inj same
  refine ⟨_, url, asks, by rw [origin_requestTo, same], fun n' same' => ?_⟩
  rw [requests_revoke, same', connected]
  have header : (ofToken base c token).revokeCall.authorization.value.all inHeader =
      token.accessToken.toList.all inHeader := Authorization.all_bearer _
  have address : Url.parse (ofToken base c token).revokeCall.address = .ok url := parsed'
  cases fits : token.accessToken.toList.all inHeader with
  | true =>
    rw [Call.departure_of_parse address (hosts.symm ▸ host) (header.trans fits)]
    exact (if_pos fits).symm
  | false =>
    rw [Call.departure_of_header _ (header.trans fits), if_neg]
    · rfl
    · exact fun all => absurd (all.symm.trans fits) (by decide)

end Login

end TrainingPortal
