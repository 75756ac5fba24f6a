import Mathlib.Data.List.Forall2
import TrainingPortal.Proofs.Discipline
import TrainingPortal.Proofs.Json
import TrainingPortal.Proofs.Outcomes

/-!
# Records that are written are read back

The records that a portal sends and the program prints again: environments, sessions and their
status. A record that was read can be written and is then read as itself, although not every value
of its type can: an environment whose other state is called like the running one would be read as
running, and a countdown may be out of range. Neither is ever read (`Environment.named_of_ofJson?`,
`SessionStatus.counts_of_ofJson?`), and whatever a broker returns has been read
(`Broker.reads_of_outcome`).
-/

namespace TrainingPortal

open Json

namespace Json

variable {α : Type} {decode : Json → Option α} {P : α → Prop}

/-- What holds of the default of a field and of all that is read from one holds of the field. -/
theorem of_optional {default a : α} {j? : Option Json} (missing : P default)
    (given : ∀ j a, decode j = some a → P a) (h : Json.optional default decode j? = some a) :
    P a := by
  cases j? with
  | none => exact Option.some.inj h ▸ missing
  | some j => exact given j a h

theorem mapM_eq_some_iff {β : Type} {f : β → Option α} {bs : List β} {as : List α} :
    bs.mapM f = some as ↔ List.Forall₂ (fun b a => f b = some a) bs as := by
  induction bs generalizing as with
  | nil => simp
  | cons b bs ih =>
    rw [List.mapM_cons, List.forall₂_cons_left_iff]
    constructor
    · intro h
      obtain ⟨a, first, h⟩ := Option.bind_eq_some_iff.1 h
      obtain ⟨as, others, h⟩ := Option.bind_eq_some_iff.1 h
      exact ⟨a, as, first, ih.1 others, (Option.some.inj h).symm⟩
    · rintro ⟨a, as, first, others, rfl⟩
      rw [first, ih.2 others]
      rfl

theorem mapM_eq_none {β : Type} {f : β → Option α} {b : β} {bs : List β} (mem : b ∈ bs)
    (h : f b = none) : bs.mapM f = none := by
  obtain ⟨before, after, rfl⟩ := List.append_of_mem mem
  rw [List.mapM_append, List.mapM_cons, h]
  cases before.mapM f <;> rfl

theorem exists_items_of_toList? {j : Json} {as : List α} (h : toList? decode j = some as) :
    ∃ items, j = .array items ∧ List.Forall₂ (fun j a => decode j = some a) items as := by
  cases j with
  | array items => exact ⟨items, rfl, mapM_eq_some_iff.1 h⟩
  | _ => cases h

theorem of_toList? {j : Json} {as : List α} (given : ∀ j a, decode j = some a → P a)
    (h : toList? decode j = some as) : ∀ a ∈ as, P a := by
  obtain ⟨items, -, read⟩ := exists_items_of_toList? h
  clear h
  induction read with
  | nil => exact List.forall_mem_nil _
  | cons first _ ih => exact List.forall_mem_cons.2 ⟨given _ _ first, ih⟩

theorem toList?_map {encode : α → Json} {as : List α} (h : ∀ a ∈ as, decode (encode a) = some a) :
    toList? decode (.array (as.map encode)) = some as :=
  mapM_eq_some_iff.2 (List.forall₂_map_left_iff.2 (List.forall₂_same.2 h))

theorem isInt64_of_toInt64? {j : Json} {n : Int} (h : toInt64? j = some n) :
    Text.isInt64 n = true := by
  cases j with
  | integer m =>
    obtain ⟨fits, eq⟩ := Option.ite_none_right_eq_some.1 h
    exact Option.some.inj eq ▸ fits
  | _ => cases h

end Json

namespace EnvironmentState

/-- Whether a state is the one that its name stands for. -/
def Named (s : EnvironmentState) : Prop := ofName s.name = s

theorem named_ofName (name : String) : (ofName name).Named := by
  unfold ofName
  split
  case isTrue => rfl
  case isFalse other => exact if_neg other

theorem named_of_ofJson? {j : Json} {s : EnvironmentState} (h : ofJson? j = some s) : s.Named := by
  obtain ⟨name, -, rfl⟩ := Option.map_eq_some_iff.1 h
  exact named_ofName name

theorem ofJson?_toJson {s : EnvironmentState} (h : s.Named) : ofJson? s.toJson = some s :=
  congrArg some h

end EnvironmentState

namespace Environment

theorem named_of_ofJson? {j : Json} {e : Environment} (h : ofJson? j = some e) : e.state.Named := by
  obtain ⟨fields, -, h⟩ := Option.bind_eq_some_iff.1 h
  split at h
  case h_1 =>
    obtain ⟨name, -, h⟩ := Option.bind_eq_some_iff.1 h
    obtain ⟨state, read, h⟩ := Option.bind_eq_some_iff.1 h
    obtain ⟨workshop, -, h⟩ := Option.bind_eq_some_iff.1 h
    obtain rfl := Option.some.inj h
    exact of_optional (P := EnvironmentState.Named) (EnvironmentState.named_ofName "")
      (fun _ _ => EnvironmentState.named_of_ofJson?) read
  case h_2 => cases h

theorem named_of_listingOfJson? {j : Json} {es : List Environment}
    (h : listingOfJson? j = some es) : ∀ e ∈ es, e.state.Named := by
  obtain ⟨fields, -, h⟩ := Option.bind_eq_some_iff.1 h
  split at h
  case h_1 =>
    have listed (j : Json) (es : List Environment) (h : toList? ofJson? j = some es) :
        ∀ e ∈ es, e.state.Named :=
      of_toList? (fun _ _ => named_of_ofJson?) h
    exact of_optional (P := fun es : List Environment => ∀ e ∈ es, e.state.Named)
      (List.forall_mem_nil _) listed h
  case h_2 => cases h

/-- An environment is read back. -/
theorem ofJson?_toJson {e : Environment} (h : e.state.Named) : ofJson? e.toJson = some e := by
  have fields : fields? ["name", "state", "workshop"] e.toJson = some
      [some (.text e.name), some e.state.toJson, some (.object [("name", .text e.workshop)])] :=
    rfl
  have workshop : workshopOfJson? (.object [("name", .text e.workshop)]) = some e.workshop := rfl
  have state : EnvironmentState.ofJson? e.state.toJson = some e.state :=
    EnvironmentState.ofJson?_toJson h
  simp [ofJson?, fields, workshop, state, Json.optional, toText?]

theorem exact_toJson (e : Environment) : Exact e.toJson := by
  refine .object (List.forall_mem_cons.2 ⟨.text _, List.forall_mem_cons.2 ⟨.text _,
    List.forall_mem_singleton.2 (.object (List.forall_mem_singleton.2 (.text _)))⟩⟩)

end Environment

namespace SessionStatus

theorem counts_of_ofJson? {j : Json} {s : SessionStatus} (h : ofJson? j = some s) :
    Text.isInt64 s.countdown = true := by
  obtain ⟨fields, -, h⟩ := Option.bind_eq_some_iff.1 h
  split at h
  case h_1 =>
    obtain ⟨started, -, h⟩ := Option.bind_eq_some_iff.1 h
    obtain ⟨expires, -, h⟩ := Option.bind_eq_some_iff.1 h
    obtain ⟨expiring, -, h⟩ := Option.bind_eq_some_iff.1 h
    obtain ⟨countdown, read, h⟩ := Option.bind_eq_some_iff.1 h
    obtain ⟨extendable, -, h⟩ := Option.bind_eq_some_iff.1 h
    obtain ⟨status, -, h⟩ := Option.bind_eq_some_iff.1 h
    obtain rfl := Option.some.inj h
    exact of_optional (P := fun n => Text.isInt64 n = true) rfl
      (fun _ _ => isInt64_of_toInt64?) read
  case h_2 => cases h

/-- A status is read back. -/
theorem ofJson?_toJson {s : SessionStatus} (h : Text.isInt64 s.countdown = true) :
    ofJson? s.toJson = some s := by
  have fields : fields? ["started", "expires", "expiring", "countdown", "extendable", "status"]
      s.toJson = some [some (.text s.started), some (.text s.expires), some (.bool s.expiring),
        some (.integer s.countdown), some (.bool s.extendable), some (.text s.status)] :=
    rfl
  simp [ofJson?, fields, Json.optional, toText?, toBool?, toInt64?, h]

theorem exact_toJson (s : SessionStatus) : Exact s.toJson := by
  refine .object fun member mem => ?_
  simp only [List.mem_cons, List.not_mem_nil, or_false] at mem
  rcases mem with rfl | rfl | rfl | rfl | rfl | rfl <;> constructor

end SessionStatus

namespace Session

/-- A session is read back from any object that names its fields. -/
theorem ofJson?_of_fields {j : Json} {s : Session}
    (fields : fields? ["name", "user", "url", "workshop", "environment", "namespace"] j =
      some ([s.name, s.user, s.url, s.workshop, s.environment, s.namespaceName].map
        fun field => some (.text field))) :
    ofJson? j = some s := by
  simp [ofJson?, fields, Json.optional, toText?]

end Session

/-! ## What a broker returns -/

namespace Broker

open Http PortalM Portal

/-- How what an operation returns is read from JSON. -/
def Operation.ofJson? : {α : Type} → Operation α → Json → Option α
  | _, .request _ => Session.ofJson?
  | _, .terminate _ => SessionStatus.ofJson?
  | _, .list => Environment.listingOfJson?

variable {α : Type} {b : Broker} {o : Operation α} {n : Network} {v : α}

theorem reads_of_work {l : Login} (h : (b.work o l).outcome n = .ok v) :
    ∃ j, o.ofJson? j = some v := by
  cases o with
  | request r =>
    obtain ⟨environment, -, judged⟩ := bind_eq_ok_iff.1 ((run_requestWith b r l n).2.symm.trans h)
    obtain ⟨_, _, -, -, -, read⟩ := verdict_eq_ok_iff.1 judged
    obtain ⟨j, -, read⟩ := Option.bind_eq_some_iff.1 read
    exact ⟨j, read⟩
  | terminate session =>
    obtain ⟨-, _, -, read⟩ := ((l.inquires_terminateSession session).value n v).1 h
    obtain ⟨j, -, read⟩ := Option.bind_eq_some_iff.1 read
    exact ⟨j, read⟩
  | list =>
    obtain ⟨-, _, -, read⟩ := (l.inquires_listEnvironments.value n v).1 h
    obtain ⟨j, -, read⟩ := Option.bind_eq_some_iff.1 read
    exact ⟨j, read⟩

/-- **What a broker returns has been read** from what the portal sent. -/
theorem reads_of_outcome (h : (b.carryOut o).outcome n = .ok v) : ∃ j, o.ofJson? j = some v := by
  rw [outcome_carryOut, beforeReturn, outcome_bind] at h
  obtain ⟨l, -, works⟩ := bind_eq_ok_iff.1 h
  exact reads_of_work works

end Broker

end TrainingPortal
