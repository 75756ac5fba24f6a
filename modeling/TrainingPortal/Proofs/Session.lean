import TrainingPortal.Proofs.Form
import TrainingPortal.Proofs.Json
import TrainingPortal.Proofs.Outcomes

/-!
# What a session request tells the portal

Nothing that a session is requested with is lost on its way (`Login.requestSession_tells`): the
query of the request that is sent ends in the pairs of the page, the time limit and the user, and
its body is an object that holds the parameters. Both are read by the decoders of their formats,
whatever characters they hold.
-/

namespace TrainingPortal

open Http Text Encoding PortalM

/-! ## Queries and bodies -/

/-- A query to which pairs were added ends in these pairs. -/
theorem Url.decode_addPairs (u : Url) {pairs : List (String × String)} (h : pairs ≠ []) :
    ∃ before, Form.decode ((u.addPairs pairs).query.getD []) = before ++ pairs := by
  have some_pair : pairs.isEmpty = false := by simpa using h
  rw [addPairs, some_pair, if_neg (by decide), Option.getD_some]
  cases u.query with
  | none => exact ⟨[], Form.decode_encodeChars pairs⟩
  | some query =>
    cases query with
    | nil => exact ⟨[], Form.decode_encodeChars pairs⟩
    | cons c cs =>
      refine ⟨Form.decode (c :: cs), ?_⟩
      rw [← Form.decode_encodeChars pairs, ← Form.decode_append, Form.decode_encodeChars]

namespace SessionRequest

/-- The page that the session leads to: the one given, unless it is empty, or the one for users who
log out. -/
def page (r : SessionRequest) (base : String) : String :=
  match r.indexUrl with
  | none => base ++ "/accounts/logout/"
  | some url => if url = "" then base ++ "/accounts/logout/" else url

/-- The user, if one is given that is not empty. -/
def userPairs (r : SessionRequest) : List (String × String) :=
  match r.user with
  | none => []
  | some user => if user = "" then [] else [("user", user)]

theorem query_eq (r : SessionRequest) (base : String) :
    r.query base =
      [("index_url", r.page base), ("timeout", toString r.timeout)] ++ r.userPairs := by
  have given_eq (s : String) : given (some s) = if s = "" then none else some s := by
    by_cases h : s = "" <;> simp [given, h]
  have page : (given r.indexUrl).getD (Endpoint.logout base) = r.page base := by
    unfold SessionRequest.page
    cases r.indexUrl with
    | none => rfl
    | some url =>
      rw [given_eq]
      dsimp only
      split_ifs <;> rfl
  have user : ((given r.user).map fun user => ("user", user)).toList = r.userPairs := by
    unfold userPairs
    cases r.user with
    | none => rfl
    | some user =>
      rw [given_eq]
      dsimp only
      split_ifs <;> rfl
  rw [query, page, user]

/-- The parameters as they stand in the body. -/
def items (r : SessionRequest) : List Json :=
  r.parameters.map fun p => .object [("name", .text p.name), ("value", .text p.value)]

theorem exact_body (r : SessionRequest) : Json.Exact r.body := by
  refine .object (List.forall_mem_singleton.2 (.array fun item mem => ?_))
  obtain ⟨p, -, rfl⟩ := List.mem_map.1 mem
  exact .object (List.forall_mem_cons.2 ⟨.text _, List.forall_mem_singleton.2 (.text _)⟩)

theorem parse?_body (r : SessionRequest) :
    Json.parse? r.body.compact = some (.object [("parameters", .array r.items)]) :=
  Json.parse?_compact r.exact_body

end SessionRequest

/-! ## The request -/

namespace Login

/-- Whether a request tells the portal all that a session is requested with. -/
structure Tells (l : Login) (r : SessionRequest) (q : Request) : Prop where
  method : q.method = .post
  query : ∃ before timeout, Form.decode (q.url.query.getD []) =
      before ++ ([("index_url", r.page l.base), ("timeout", timeout)] ++ r.userPairs) ∧
    timeout.toList.all isDigit = true ∧ ofDigits 10 timeout.toList = r.timeout.toNat
  body : Json.parse? q.body = some (.object [("parameters", .array r.items)])

theorem tells_requestTo (l : Login) (r : SessionRequest) (url : Url) :
    l.Tells r ((l.requestCall r).requestTo url) where
  method := rfl
  query := by
    have some_pair : r.query l.base ≠ [] := by simp [SessionRequest.query]
    obtain ⟨before, decoded⟩ :=
      Url.decode_addPairs { url with username := [], password := [] } some_pair
    have digits : (toString r.timeout).toList = decimal r.timeout.toNat := String.toList_ofList
    refine ⟨before, toString r.timeout, decoded.trans (by rw [r.query_eq]), ?_, ?_⟩
    · rw [digits]
      exact List.all_eq_true.2 fun c mem => isDigit_of_mem_decimal mem
    · rw [digits, ofDigits_decimal]
  body := r.parse?_body

end Login

end TrainingPortal
