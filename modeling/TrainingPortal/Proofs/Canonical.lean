import TrainingPortal.Credentials
import TrainingPortal.Parameter
import TrainingPortal.Proofs.Records

/-!
# Records that are read, written and read again

A document can be written in many ways, and a record that was read from any of them is written in
one: reading that gives the same record, which is then written as before
(`Stored.rewriting_settles`). Every reader only gives records that the writer keeps
(`Stored.ofJson?_toJson`), also where a record of the type could be lost: a state that was read is
never another one called like the running one (`EnvironmentState.is_of_ofJson?`), and a countdown
fits into 64 bits.
-/

namespace TrainingPortal

open Json

/-! ## The name of a state -/

namespace EnvironmentState

/-- Whether a state is the one with this name, and written by it. -/
structure Is (name : String) (s : EnvironmentState) : Prop where
  plain : s ≠ .other runningName
  running : s = .running ↔ name = runningName
  written : s.toJson = .text name

theorem is_ofName (name : String) : (ofName name).Is name := by
  unfold ofName
  split
  case isTrue same => exact ⟨nofun, iff_of_true rfl same, congrArg Json.text same.symm⟩
  case isFalse apart =>
    exact ⟨fun same => apart (other.inj same), iff_of_false nofun apart, rfl⟩

theorem is_of_ofJson? {j : Json} {s : EnvironmentState} (h : ofJson? j = some s) :
    ∃ name, j = .text name ∧ s.Is name := by
  obtain ⟨name, text, rfl⟩ := Option.map_eq_some_iff.1 h
  cases j with
  | text s =>
    obtain rfl := Option.some.inj text
    exact ⟨s, rfl, is_ofName s⟩
  | _ => cases text

end EnvironmentState

namespace Environment

/-- Whether an environment is in the state that a record gives it; a record without a state gives
it the empty one. -/
def InStateOf (j : Json) (e : Environment) : Prop :=
  ∃ name? state? workshop? state, fields? ["name", "state", "workshop"] j =
      some [name?, state?, workshop?] ∧ Json.optional "" toText? state? = some state ∧
    e.state.Is state ∧ (e.isRunning = true ↔ state = EnvironmentState.runningName)

theorem isRunning_iff {e : Environment} : e.isRunning = true ↔ e.state = .running := by
  rw [isRunning, beq_iff_eq]

theorem inStateOf_of_ofJson? {j : Json} {e : Environment} (h : ofJson? j = some e) :
    e.InStateOf j := by
  obtain ⟨fields, given, h⟩ := Option.bind_eq_some_iff.1 h
  split at h
  case h_1 name? state? workshop? =>
    obtain ⟨name, -, h⟩ := Option.bind_eq_some_iff.1 h
    obtain ⟨state, read, h⟩ := Option.bind_eq_some_iff.1 h
    obtain ⟨workshop, -, h⟩ := Option.bind_eq_some_iff.1 h
    obtain rfl := Option.some.inj h
    obtain ⟨called, text, is⟩ :
        ∃ called, Json.optional "" toText? state? = some called ∧ state.Is called := by
      cases state? with
      | none => exact ⟨"", rfl, Option.some.inj read ▸ EnvironmentState.is_ofName ""⟩
      | some state? =>
        obtain ⟨called, rfl, is⟩ := EnvironmentState.is_of_ofJson? read
        exact ⟨called, rfl, is⟩
    exact ⟨name?, state?, workshop?, called, given, text, is, isRunning_iff.trans is.running⟩
  case h_2 => cases h

end Environment

/-! ## Parameters and credentials -/

namespace Parameter

theorem ofJson?_toJson (p : Parameter) : ofJson? p.toJson = some p := rfl

theorem exact_toJson (p : Parameter) : Exact p.toJson :=
  .object (List.forall_mem_cons.2 ⟨.text _, List.forall_mem_singleton.2 (.text _)⟩)

end Parameter

namespace Credentials

/-- Credentials are read back, an empty list of workshops from its absence. -/
theorem ofJson?_toJson (c : Credentials) : ofJson? c.toJson = some c := by
  obtain ⟨workshops?, fields, read⟩ : ∃ workshops?, fields? fieldNames c.toJson =
        some [some (.text c.url), some (.text c.clientId), some (.text c.clientSecret),
          some (.text c.username), some (.text c.password), workshops?] ∧
      Json.optional [] (toList? toText?) workshops? = some c.workshops := by
    obtain ⟨url, clientId, clientSecret, username, password, workshops⟩ := c
    cases workshops with
    | nil => exact ⟨none, rfl, rfl⟩
    | cons workshop workshops => exact ⟨_, rfl, toList?_map fun _ _ => rfl⟩
  simp [ofJson?, fields, Json.required, toText?, read]

theorem exact_toJson (c : Credentials) : Exact c.toJson := by
  refine .object fun member mem => ?_
  rcases List.mem_append.1 mem with mem | mem
  · simp only [List.mem_cons, List.not_mem_nil, or_false] at mem
    rcases mem with rfl | rfl | rfl | rfl | rfl <;> constructor
  · split at mem
    case isTrue => cases mem
    case isFalse =>
      obtain rfl := List.mem_singleton.1 mem
      refine .array fun item mem => ?_
      obtain ⟨workshop, -, rfl⟩ := List.mem_map.1 mem
      exact .text workshop

end Credentials

namespace Session

theorem exact_toJson (s : Session) : Exact s.toJson := by
  refine .object fun member mem => ?_
  simp only [List.mem_cons, List.not_mem_nil, or_false] at mem
  rcases mem with rfl | rfl | rfl | rfl | rfl | rfl <;> constructor

end Session

/-! ## Everything that is read and written -/

/-- What is both read and written as JSON. -/
inductive Stored : Type → Type 1
  | environment : Stored Environment
  | environments : Stored (List Environment)
  | state : Stored EnvironmentState
  | parameter : Stored Parameter
  | session : Stored Session
  | status : Stored SessionStatus
  | credentials : Stored Credentials

/-- The layouts of a document. -/
inductive Layout
  | compact
  | pretty

/-- The text of a value in a layout. -/
def Layout.write : Layout → Json → String
  | compact, j => j.compact
  | pretty, j => j.pretty

theorem Layout.parse?_write (layout : Layout) {j : Json} (h : Exact j) :
    parse? (layout.write j) = some j := by
  cases layout with
  | compact => exact parse?_compact h
  | pretty => exact parse?_pretty h

namespace Stored

/-- A value as JSON. -/
def toJson : {α : Type} → Stored α → α → Json
  | _, environment => Environment.toJson
  | _, environments => fun es => .array (es.map Environment.toJson)
  | _, state => EnvironmentState.toJson
  | _, parameter => Parameter.toJson
  | _, session => Session.toJson
  | _, status => SessionStatus.toJson
  | _, credentials => Credentials.toJson

/-- The value that JSON stands for. -/
def ofJson? : {α : Type} → Stored α → Json → Option α
  | _, environment => Environment.ofJson?
  | _, environments => toList? Environment.ofJson?
  | _, state => EnvironmentState.ofJson?
  | _, parameter => Parameter.ofJson?
  | _, session => Session.ofJson?
  | _, status => SessionStatus.ofJson?
  | _, credentials => Credentials.ofJson?

variable {α : Type}

/-- The document of a value. -/
def encode (k : Stored α) (layout : Layout) (v : α) : String := layout.write (k.toJson v)

/-- The value that a document stands for. -/
def decode? (k : Stored α) (document : String) : Option α := (parse? document).bind k.ofJson?

theorem exact_toJson (k : Stored α) (v : α) : Exact (k.toJson v) := by
  cases k with
  | environment => exact v.exact_toJson
  | environments =>
    refine .array fun item mem => ?_
    obtain ⟨e, -, rfl⟩ := List.mem_map.1 mem
    exact e.exact_toJson
  | state => exact .text _
  | parameter => exact v.exact_toJson
  | session => exact v.exact_toJson
  | status => exact v.exact_toJson
  | credentials => exact v.exact_toJson

/-- A value that was read is read back. -/
theorem ofJson?_toJson (k : Stored α) {j : Json} {v : α} (h : k.ofJson? j = some v) :
    k.ofJson? (k.toJson v) = some v := by
  cases k with
  | environment => exact Environment.ofJson?_toJson (Environment.named_of_ofJson? h)
  | environments =>
    have named := of_toList? (fun _ _ => Environment.named_of_ofJson?) h
    exact toList?_map fun e mem => Environment.ofJson?_toJson (named e mem)
  | state => exact EnvironmentState.ofJson?_toJson (EnvironmentState.named_of_ofJson? h)
  | parameter => exact v.ofJson?_toJson
  | session => exact Session.ofJson?_of_fields rfl
  | status => exact SessionStatus.ofJson?_toJson (SessionStatus.counts_of_ofJson? h)
  | credentials => exact v.ofJson?_toJson

theorem decode?_encode (k : Stored α) {document : String} {v : α}
    (h : k.decode? document = some v) (layout : Layout) :
    k.decode? (k.encode layout v) = some v := by
  obtain ⟨j, -, read⟩ := Option.bind_eq_some_iff.1 h
  rw [decode?, encode, layout.parse?_write (k.exact_toJson v)]
  exact k.ofJson?_toJson read

/-- **What was read from a document is written in one way.** Its document, in either layout, is read
as the same value, which is written as the same document. A state that was read has the name that
was written, is the running one exactly if that is its name, and is never another state called so;
the same holds of the states of environments. Credentials without workshops are read back without
workshops. -/
theorem rewriting_settles :
    (∀ {α : Type} (k : Stored α) (document : String) (v : α), k.decode? document = some v →
      ∀ layout, k.decode? (k.encode layout v) = some v ∧
        ∀ w, k.decode? (k.encode layout v) = some w → k.encode layout w = k.encode layout v) ∧
    (∀ document s, state.decode? document = some s →
      ∃ name, parse? document = some (.text name) ∧ s.Is name) ∧
    (∀ document e, environment.decode? document = some e →
      ∃ j, parse? document = some j ∧ e.InStateOf j) ∧
    (∀ document es, environments.decode? document = some es →
      ∃ items, parse? document = some (.array items) ∧
        List.Forall₂ (fun j e => Environment.InStateOf j e) items es) ∧
    ∀ document c, credentials.decode? document = some c → c.workshops = [] → ∀ layout,
      ∃ c', credentials.decode? (credentials.encode layout c) = some c' ∧ c'.workshops = [] := by
  refine ⟨fun k document v h layout => ?_, fun document s h => ?_, fun document e h => ?_,
    fun document es h => ?_, fun document c h none layout =>
      ⟨c, credentials.decode?_encode h layout, none⟩⟩
  · have again := k.decode?_encode h layout
    refine ⟨again, fun w read => ?_⟩
    rw [Option.some.inj (read.symm.trans again)]
  · obtain ⟨j, parsed, read⟩ := Option.bind_eq_some_iff.1 h
    obtain ⟨name, rfl, is⟩ := EnvironmentState.is_of_ofJson? read
    exact ⟨name, parsed, is⟩
  · obtain ⟨j, parsed, read⟩ := Option.bind_eq_some_iff.1 h
    exact ⟨j, parsed, Environment.inStateOf_of_ofJson? read⟩
  · obtain ⟨j, parsed, read⟩ := Option.bind_eq_some_iff.1 h
    obtain ⟨items, rfl, each⟩ := exists_items_of_toList? read
    exact ⟨items, parsed, each.imp fun _ _ => Environment.inStateOf_of_ofJson?⟩

/-- An environment whose fields stand in order and whose state is spelled with an escape. -/
theorem rewriting_settles_positional :
    let document := "[[\"n\", \"R\\u0055NNING\"]]"
    let es : List Environment := [{ name := "n", state := .running }]
    environments.decode? document = some es ∧
      environments.decode? (environments.encode .pretty es) = some es := by
  intro document es
  have read : environments.decode? document = some es := by decide +kernel
  exact ⟨read, (rewriting_settles.1 environments document es read .pretty).1⟩

end Stored

end TrainingPortal
