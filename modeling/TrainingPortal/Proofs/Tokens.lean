import Mathlib.Data.List.Forall2
import TrainingPortal.Proofs.Form
import TrainingPortal.Proofs.Json
import TrainingPortal.Proofs.Network
import TrainingPortal.Token

/-!
# Tokens that differ in what is secret

Two tokens are `Token.Alike` if only what lets one use them tells them apart, and two replies to the
call for a token are `SameButTokens` if the tokens that they give are, or if neither gives one. That
is so wherever the JSON of the one turns into that of the other when texts are put in place of
`access_token` and `refresh_token` (`Reply.sameButTokens_of_members`).
-/

namespace TrainingPortal

open Http

open Text in
/-- The bytes of a value without layout are read as that value. -/
theorem Json.parse?_bytes {j : Json} (h : j.Exact) :
    parse? (String.ofList (Utf8.decodeLossy (Utf8.bytes j.compact))) = some j := by
  rw [Utf8.bytes, Utf8.decodeLossy_encode, String.ofList_toList, parse?_compact h]

namespace Token

/-- Tokens that differ at most in the tokens proper, and the access token of either may stand in a
header, as one without control characters may. -/
structure Alike (t t' : Token) : Prop where
  expiresIn : t'.expiresIn = t.expiresIn
  tokenType : t'.tokenType = t.tokenType
  scope : t'.scope = t.scope
  header : t.accessToken.toList.all inHeader = true
  header' : t'.accessToken.toList.all inHeader = true

theorem Alike.describe {t t' : Token} (h : t.Alike t') : t'.describe = t.describe := by
  unfold Token.describe
  rw [h.expiresIn, h.tokenType, h.scope]

theorem Alike.all_bearer {t t' : Token} (h : t.Alike t') :
    (Authorization.bearer t'.accessToken).value.all inHeader =
      (Authorization.bearer t.accessToken).value.all inHeader := by
  rw [Authorization.all_bearer, Authorization.all_bearer, h.header, h.header']

/-- The token that the body of an answer stands for. -/
def ofBody? (body : List UInt8) : Option Token :=
  (Json.parse? (String.ofList (Text.Utf8.decodeLossy body))).bind ofJson?

end Token

/-- Replies to the call for a token that differ at most in the tokens proper. -/
inductive Http.Reply.SameButTokens : Reply → Reply → Prop
  | same (reply : Reply) : SameButTokens reply reply
  | answer {status : Nat} {body body' : List UInt8}
    (tokens : Option.Rel Token.Alike (Token.ofBody? body) (Token.ofBody? body')) :
    SameButTokens (.answer status body) (.answer status body')

/-! ## Members of an object -/

namespace Token

/-- Members of an object that differ at most in a text that is secret. -/
inductive SameMember : String × Json → String × Json → Prop
  | same (m : String × Json) : SameMember m m
  | secret {name : String} (isSecret : name = "access_token" ∨ name = "refresh_token")
    (s s' : String) : SameMember (name, .text s) (name, .text s')

theorem SameMember.name_eq {m m' : String × Json} (h : SameMember m m') : m'.1 = m.1 := by
  cases h <;> rfl

variable {members members' : List (String × Json)}

theorem filter_sameMember (h : List.Forall₂ SameMember members members') (name : String) :
    List.Forall₂ SameMember (members.filter (·.1 == name)) (members'.filter (·.1 == name)) :=
  List.rel_filter (fun m m' same => by simp only [same.name_eq]) h

theorem member?_of_public (h : List.Forall₂ SameMember members members') (name : String)
    (access : name ≠ "access_token") (refresh : name ≠ "refresh_token") :
    Json.member? members' name = Json.member? members name := by
  have same : members'.filter (·.1 == name) = members.filter (·.1 == name) := by
    induction h with
    | nil => rfl
    | @cons m m' rest rest' same _ ih =>
      cases same with
      | same => rw [List.filter_cons, List.filter_cons, ih]
      | @secret other isSecret s s' =>
        have other : (other == name) = false := by
          rcases isSecret with rfl | rfl
          · simpa using access.symm
          · simpa using refresh.symm
        simp only [List.filter_cons, other, ih, Bool.false_eq_true, if_false]
  rw [Json.member?, Json.member?, same]

theorem rel_refl {α : Type} {R : α → α → Prop} (h : ∀ a, R a a) (o : Option α) :
    Option.Rel R o o := by
  cases o with
  | none => exact .none
  | some a => exact .some (h a)

theorem rel_bind {α β γ δ : Type} {R : α → β → Prop} {S : γ → δ → Prop} {o : Option α}
    {o' : Option β} (h : Option.Rel R o o') {f : α → Option γ} {g : β → Option δ}
    (next : ∀ a b, R a b → Option.Rel S (f a) (g b)) : Option.Rel S (o.bind f) (o'.bind g) := by
  cases h with
  | none => exact .none
  | some h => exact next _ _ h

/-- Where a text is expected, a secret one can be put in place of another. -/
theorem rel_member? {α : Type} (h : List.Forall₂ SameMember members members') (name : String)
    {f : Option Json → Option α}
    (texts : ∀ s s', Option.Rel (fun _ _ => True) (f (some (.text s))) (f (some (.text s')))) :
    Option.Rel (fun _ _ => True) ((Json.member? members name).bind f)
      ((Json.member? members' name).bind f) := by
  have same (o : Option α) : Option.Rel (fun _ _ => True) o o := rel_refl (fun _ => trivial) o
  have alike := filter_sameMember h name
  rw [Json.member?, Json.member?]
  generalize members.filter (·.1 == name) = found at alike ⊢
  generalize members'.filter (·.1 == name) = found' at alike ⊢
  cases alike with
  | nil => exact same _
  | cons first rest =>
    cases rest with
    | cons _ _ => exact .none
    | nil =>
      cases first with
      | same => exact same _
      | secret _ s s' => exact texts s s'

theorem ofJson?_object (members : List (String × Json)) :
    ofJson? (.object members) =
      ((Json.member? members "access_token").bind (Json.required Json.toText?)).bind fun a =>
        ((Json.member? members "expires_in").bind (Json.optional 0 Json.toInt64?)).bind fun e =>
          ((Json.member? members "token_type").bind (Json.optional "" Json.toText?)).bind fun k =>
            ((Json.member? members "scope").bind (Json.optional "" Json.toText?)).bind fun s =>
              ((Json.member? members "refresh_token").bind (Json.optional "" Json.toText?)).bind
                fun r => some ⟨a, e, k, s, r⟩ := by
  simp only [ofJson?, Json.fields?, fieldNames, List.mapM_cons, List.mapM_nil, Option.bind_eq_bind,
    Option.pure_def]
  -- whichever member is in the way, nothing is read
  cases Json.member? members "access_token" <;> cases Json.member? members "expires_in" <;>
    cases Json.member? members "token_type" <;> cases Json.member? members "scope" <;>
    cases Json.member? members "refresh_token" <;> simp

/-- Objects that differ in secret texts alone stand for tokens alike, or neither for a token. -/
theorem rel_ofJson? (h : List.Forall₂ SameMember members members')
    (header : ∀ t, ofJson? (.object members) = some t → t.accessToken.toList.all inHeader = true)
    (header' : ∀ t, ofJson? (.object members') = some t →
      t.accessToken.toList.all inHeader = true) :
    Option.Rel Alike (ofJson? (.object members)) (ofJson? (.object members')) := by
  have access := rel_member? h "access_token" (f := Json.required Json.toText?)
    fun _ _ => .some trivial
  have refresh := rel_member? h "refresh_token" (f := Json.optional "" Json.toText?)
    fun _ _ => .some trivial
  have expiresIn := member?_of_public h "expires_in" (by decide) (by decide)
  have tokenType := member?_of_public h "token_type" (by decide) (by decide)
  have scope := member?_of_public h "scope" (by decide) (by decide)
  -- member by member, those that are not secret being the same
  have alike : Option.Rel (fun t t' : Token => t'.expiresIn = t.expiresIn ∧
      t'.tokenType = t.tokenType ∧ t'.scope = t.scope)
      (ofJson? (.object members)) (ofJson? (.object members')) := by
    rw [ofJson?_object, ofJson?_object, expiresIn, tokenType, scope]
    refine rel_bind access fun _ _ _ => rel_bind (rel_refl Eq.refl _) ?_
    rintro e _ rfl
    refine rel_bind (rel_refl Eq.refl _) ?_
    rintro k _ rfl
    refine rel_bind (rel_refl Eq.refl _) ?_
    rintro s _ rfl
    exact rel_bind refresh fun _ _ _ => .some ⟨rfl, rfl, rfl⟩
  generalize ofJson? (.object members) = t at alike header ⊢
  generalize ofJson? (.object members') = t' at alike header' ⊢
  cases alike with
  | none => exact .none
  | some same =>
    obtain ⟨expiresIn, tokenType, scope⟩ := same
    exact .some ⟨expiresIn, tokenType, scope, header _ rfl, header' _ rfl⟩

end Token

open Text in
/-- Replies with the same status and with objects that differ in secret texts alone. -/
theorem Http.Reply.sameButTokens_of_members {status : Nat} {body body' : List UInt8}
    {members members' : List (String × Json)}
    (read : Json.parse? (String.ofList (Utf8.decodeLossy body)) = some (.object members))
    (read' : Json.parse? (String.ofList (Utf8.decodeLossy body')) = some (.object members'))
    (h : List.Forall₂ Token.SameMember members members')
    (header : ∀ t, Token.ofBody? body = some t → t.accessToken.toList.all inHeader = true)
    (header' : ∀ t, Token.ofBody? body' = some t → t.accessToken.toList.all inHeader = true) :
    (answer status body).SameButTokens (.answer status body') := by
  have object : Token.ofBody? body = Token.ofJson? (.object members) := by
    rw [Token.ofBody?, read, Option.bind_some]
  have object' : Token.ofBody? body' = Token.ofJson? (.object members') := by
    rw [Token.ofBody?, read', Option.bind_some]
  refine .answer ?_
  rw [object] at header ⊢
  rw [object'] at header' ⊢
  exact Token.rel_ofJson? h header header'

end TrainingPortal
