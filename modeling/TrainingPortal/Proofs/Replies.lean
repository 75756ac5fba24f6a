import TrainingPortal.Proofs.Shapes
import TrainingPortal.Token

/-!
# Replies of a portal

The shapes of what a portal sends, and that its readers keep to them: a token, a catalog, an
environment, a session and its status. Hence a reply is read alike however its members are ordered,
whatever members it has beside the known ones, and whether defaults are written or left out, and it
is not read at all where a known member has a value of another type or the access token is missing
(`ReplyKind.decode?_settled`).

The texts of replies are any documents by the grammar of JSON. A key in them may hold an escape for
half of a surrogate pair, which stands for no character; then the object is not read, although the
key is none of those known (`ReplyKind.decode?_unreadable_key`).
-/

namespace TrainingPortal

open Shape

/-! ## Shapes -/

namespace Environment

/-- The shape of the workshop of an environment. -/
def workshopShape : Shape := .record [Shape.optional "name" .text]

/-- The shape of an environment. -/
def shape : Shape :=
  .record [Shape.optional "name" .text, Shape.optional "state" .text,
    Shape.optional "workshop" workshopShape]

/-- The shape of a catalog. -/
def listingShape : Shape := .record [Shape.optional "environments" (.list shape)]

theorem reads_workshopOfJson? : Reads workshopShape workshopOfJson? := by
  have read := (reads_text.optional "name" rfl).take fieldsRead_done
  refine FieldsRead.record (read.congr fun js same => ?_) (by decide)
  obtain _ | ⟨name, _ | _⟩ := js
  case cons.nil => simp [take, done]
  all_goals cases same

theorem reads_ofJson? : Reads shape ofJson? := by
  have state : Reads .text EnvironmentState.ofJson? := reads_text.map EnvironmentState.ofName
  have read := (reads_text.optional "name" rfl).take fun name =>
    (state.optional "state" rfl).take fun state =>
      (reads_workshopOfJson?.optional "workshop" rfl).take fun workshop =>
        fieldsRead_done (Environment.mk name state workshop)
  refine FieldsRead.record (read.congr fun js same => ?_) (by decide)
  obtain _ | ⟨name, _ | ⟨state, _ | ⟨workshop, _ | _⟩⟩⟩ := js
  case cons.cons.cons.nil => rfl
  all_goals cases same

theorem reads_listingOfJson? : Reads listingShape listingOfJson? := by
  have read := (reads_ofJson?.list.optional "environments" rfl).take fieldsRead_done
  refine FieldsRead.record (read.congr fun js same => ?_) (by decide)
  obtain _ | ⟨environments, _ | _⟩ := js
  case cons.nil => simp [take, done]
  all_goals cases same

end Environment

namespace Token

/-- The shape of a token. -/
def shape : Shape :=
  .record [Shape.required "access_token" .text, Shape.optional "expires_in" .integer,
    Shape.optional "token_type" .text, Shape.optional "scope" .text,
    Shape.optional "refresh_token" .text]

theorem reads_ofJson? : Reads shape ofJson? := by
  have read := (reads_text.required "access_token").take fun accessToken =>
    (reads_integer.optional "expires_in" rfl).take fun expiresIn =>
      (reads_text.optional "token_type" rfl).take fun tokenType =>
        (reads_text.optional "scope" rfl).take fun scope =>
          (reads_text.optional "refresh_token" rfl).take fun refreshToken =>
            fieldsRead_done (Token.mk accessToken expiresIn tokenType scope refreshToken)
  refine FieldsRead.record (read.congr fun js same => ?_) (by decide)
  obtain _ | ⟨access, _ | ⟨expires, _ | ⟨type, _ | ⟨scope, _ | ⟨refresh, _ | _⟩⟩⟩⟩⟩ := js
  case cons.cons.cons.cons.cons.nil => rfl
  all_goals cases same

end Token

namespace Session

/-- The shape of a session. -/
def shape : Shape :=
  .record [Shape.optional "name" .text, Shape.optional "user" .text, Shape.optional "url" .text,
    Shape.optional "workshop" .text, Shape.optional "environment" .text,
    Shape.optional "namespace" .text]

theorem reads_ofJson? : Reads shape ofJson? := by
  have text (name : String) := reads_text.optional name rfl
  have read := (text "name").take fun name => (text "user").take fun user =>
    (text "url").take fun url => (text "workshop").take fun workshop =>
      (text "environment").take fun environment => (text "namespace").take fun namespaceName =>
        fieldsRead_done (Session.mk name user url workshop environment namespaceName)
  refine FieldsRead.record (read.congr fun js same => ?_) (by decide)
  obtain _ | ⟨name, _ | ⟨user, _ | ⟨url, _ | ⟨workshop, _ | ⟨env, _ | ⟨ns, _ | _⟩⟩⟩⟩⟩⟩ := js
  case cons.cons.cons.cons.cons.cons.nil => rfl
  all_goals cases same

end Session

namespace SessionStatus

/-- The shape of a status. -/
def shape : Shape :=
  .record [Shape.optional "started" .text, Shape.optional "expires" .text,
    Shape.optional "expiring" .truth, Shape.optional "countdown" .integer,
    Shape.optional "extendable" .truth, Shape.optional "status" .text]

theorem reads_ofJson? : Reads shape ofJson? := by
  have text (name : String) := reads_text.optional name rfl
  have truth (name : String) := reads_truth.optional name rfl
  have read := (text "started").take fun started => (text "expires").take fun expires =>
    (truth "expiring").take fun expiring =>
      (reads_integer.optional "countdown" rfl).take fun countdown =>
        (truth "extendable").take fun extendable => (text "status").take fun status =>
          fieldsRead_done (SessionStatus.mk started expires expiring countdown extendable status)
  refine FieldsRead.record (read.congr fun js same => ?_) (by decide)
  obtain _ | ⟨started, _ | ⟨expires, _ | ⟨expiring, _ | ⟨count, _ | ⟨ext, _ | ⟨st, _ | _⟩⟩⟩⟩⟩⟩ := js
  case cons.cons.cons.cons.cons.cons.nil => rfl
  all_goals cases same

end SessionStatus

/-! ## Replies -/

/-- The kinds of replies, by what they stand for. -/
inductive ReplyKind : Type → Type 1
  | token : ReplyKind Token
  | listing : ReplyKind (List Environment)
  | environment : ReplyKind Environment
  | session : ReplyKind Session
  | status : ReplyKind SessionStatus

namespace ReplyKind

/-- The value that JSON stands for. -/
def ofJson? : {α : Type} → ReplyKind α → Json → Option α
  | _, token => Token.ofJson?
  | _, listing => Environment.listingOfJson?
  | _, environment => Environment.ofJson?
  | _, session => Session.ofJson?
  | _, status => SessionStatus.ofJson?

/-- The shape of a reply. -/
def shape : {α : Type} → ReplyKind α → Shape
  | _, token => Token.shape
  | _, listing => Environment.listingShape
  | _, environment => Environment.shape
  | _, session => Session.shape
  | _, status => SessionStatus.shape

variable {α : Type}

/-- The value that a document stands for. -/
def decode? (r : ReplyKind α) (document : String) : Option α :=
  (Json.parse? document).bind r.ofJson?

theorem reads_ofJson? (r : ReplyKind α) : Reads r.shape r.ofJson? := by
  cases r with
  | token => exact Token.reads_ofJson?
  | listing => exact Environment.reads_listingOfJson?
  | environment => exact Environment.reads_ofJson?
  | session => exact Session.reads_ofJson?
  | status => exact SessionStatus.reads_ofJson?

theorem decode?_of_spelled (r : ReplyKind α) {j : Json} {document : String}
    (h : Json.SpelledDocument j document) : r.decode? document = r.ofJson? j := by
  rw [decode?, Json.parse?_of_spelled h]
  rfl

/-- Changes that do not concern the shape of a reply make no difference to its reader. -/
theorem ofJson?_congr (r : ReplyKind α) {j j' : Json} (h : Relation.EqvGen r.shape.Alters j j') :
    r.ofJson? j = r.ofJson? j' := by
  induction h with
  | rel j j' alters => exact r.reads_ofJson?.same alters
  | refl j => rfl
  | symm j j' _ ih => exact ih.symm
  | trans j j' j'' _ _ ih ih' => exact ih.trans ih'

theorem suits_record {fields : List Field} {j : Json} (h : Suits (.record fields) j) :
    j ≠ .unreadable := by
  rintro rfl
  cases h

theorem ofJson?_unreadable (r : ReplyKind α) : r.ofJson? .unreadable = none := by
  refine r.reads_ofJson?.refuses (.type fun suits => ?_)
  cases r <;> exact suits_record suits rfl

theorem ofMembers_eq_unreadable {members : List (Option String × Json)}
    (h : none ∈ members.map (·.1)) : Json.ofMembers members = .unreadable := by
  obtain ⟨⟨_, value⟩, mem, rfl⟩ := List.mem_map.1 h
  rw [Json.ofMembers, Json.mapM_eq_none mem rfl]

/-- **What a reply is read as.** Documents whose values differ only in what does not concern the
shape of a reply are read alike, or both not at all: in the order of members, in members that are
not known and in whether a default is written, at any depth. A document that contradicts the shape
is not read, because a known member has a value of another type or one that must be given is
missing; and neither is an object with a key that no characters make up. -/
theorem decode?_settled (r : ReplyKind α) :
    (∀ {j j' : Json} {document document' : String}, Json.SpelledDocument j document →
      Json.SpelledDocument j' document' → Relation.EqvGen r.shape.Alters j j' →
        r.decode? document = r.decode? document') ∧
    (∀ {j : Json} {document : String}, Json.SpelledDocument j document → r.shape.Spoils j →
      r.decode? document = none) ∧
    ∀ {members : List (Option String × Json)} {document : String}, none ∈ members.map (·.1) →
      Json.SpelledDocument (Json.ofMembers members) document → r.decode? document = none := by
  refine ⟨fun spelled spelled' alters => ?_, fun spelled spoils => ?_, fun unreadable spelled => ?_⟩
  · rw [r.decode?_of_spelled spelled, r.decode?_of_spelled spelled', r.ofJson?_congr alters]
  · rw [r.decode?_of_spelled spelled, r.reads_ofJson?.refuses spoils]
  · rw [r.decode?_of_spelled spelled, ofMembers_eq_unreadable unreadable, r.ofJson?_unreadable]

/-- A token with a nested member that is not known and with a default written out. -/
theorem decode?_settled_token :
    let nested : Json := .array [.array [.object [("access_token", .null)]]]
    let told : Json :=
      .object [("x", nested), ("access_token", .text "t"), ("scope", .text "")]
    let bare : Json := .object [("access_token", .text "t")]
    token.decode? told.compact = token.decode? bare.compact ∧
      token.decode? bare.compact = some { accessToken := "t" } := by
  intro nested told bare
  have spelled {j : Json} (h : j.Exact) : Json.SpelledDocument j j.compact :=
    Json.spelledDocument_alone (Json.spelled_compact h)
  have exactBare : bare.Exact := .object (by simp [Json.Exact.text])
  have exactTold : told.Exact := by
    refine .object (List.forall_mem_cons.2 ⟨.array ?_, by simp [Json.Exact.text]⟩)
    exact List.forall_mem_singleton.2 (.array (List.forall_mem_singleton.2 (.object
      (List.forall_mem_singleton.2 .null))))
  have alters : Relation.EqvGen Token.shape.Alters told bare :=
    .trans _ _ _ (.rel _ _ (.unknown (by decide) nested [] _))
      (.rel _ _ (@Alters.default _ "scope" .text (by simp) [("access_token", .text "t")] []
        (by decide)))
  exact ⟨token.decode?_settled.1 (spelled exactTold) (spelled exactBare) alters, by decide +kernel⟩

/-- A key that is not known, but stands for no text: an object with it is not read as a session,
although the empty object is. -/
theorem decode?_unreadable_key :
    let document := "\x7b\"\\ud800\":0\x7d"
    Json.SpelledDocument (Json.ofMembers [(none, .integer 0)]) document ∧
      session.decode? document = none ∧
      Json.SpelledDocument (Json.ofMembers []) "\x7b\x7d" ∧
      session.decode? "\x7b\x7d" = some {} := by
  refine ⟨?_, by decide +kernel, ?_, by decide +kernel⟩
  · have key : Json.SpelledText none "\"\\ud800\"".toList :=
      .intro (.cons (.numbered (a := 'd') (b := '8') (c := '0') (d := '0') rfl) .nil)
    have member := Json.SpelledMember.intro key Json.blanks_nil Json.blanks_nil (.integer 0)
    exact Json.spelledDocument_alone (.object Json.blanks_nil member (.nil Json.blanks_nil))
  · exact Json.spelledDocument_alone (.blank Json.blanks_nil)

end ReplyKind

end TrainingPortal
