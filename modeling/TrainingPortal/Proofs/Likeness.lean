import Mathlib.Tactic.SplitIfs
import TrainingPortal.Proofs.Outcomes

/-!
# Runs that look alike

Two calls may differ in what authorises them and in what they carry, and yet the requests that they
lead to look alike to someone who sees them through a `Veil`, which hides the one, the other or
both. `Call.Alike` says so of calls. Either can then be sent exactly if the other can, so the same
comes back to both (`Call.Alike.value_attempt`). `PortalM.AlikeOn` says of two operations, each on
its network, that related values or errors that seem equal come of them, that they log the same and
that their requests look alike. It is closed under sequencing (`AlikeOn.bind`), so that two
operations of the same shape look alike as soon as their calls do.
-/

namespace TrainingPortal

open Http

namespace Traced

@[simp] theorem entries_append (s t : List Event) : entries (s ++ t) = entries s ++ entries t :=
  List.filterMap_append

@[simp] theorem entries_logged (log : List LogEntry) : entries (log.map .logged) = log := by
  rw [entries, List.filterMap_map]
  exact List.filterMap_some

end Traced

/-- Values that are related, or errors of which `see` sees the same. -/
inductive Related {ε α β : Type} (see : ε → ε) (V : α → β → Prop) : Except ε α → Except ε β → Prop
  | ok {a : α} {b : β} (h : V a b) : Related see V (.ok a) (.ok b)
  | error {e e' : ε} (h : see e' = see e) : Related see V (.error e) (.error e')

section Related

variable {ε α β : Type} {see : ε → ε} {V : α → β → Prop}

theorem related_iff {r : Except ε α} {r' : Except ε β} :
    Related see V r r' ↔ (∃ e e', r = .error e ∧ r' = .error e' ∧ see e' = see e) ∨
      ∃ a b, r = .ok a ∧ r' = .ok b ∧ V a b := by
  constructor
  · rintro (⟨h⟩ | ⟨h⟩)
    · exact .inr ⟨_, _, rfl, rfl, h⟩
    · exact .inl ⟨_, _, rfl, rfl, h⟩
  · rintro (⟨e, e', rfl, rfl, h⟩ | ⟨a, b, rfl, rfl, h⟩)
    · exact .error h
    · exact .ok h

theorem Related.mapError_eq {r r' : Except ε α} (h : Related see (· = ·) r r') :
    r'.mapError see = r.mapError see := by
  cases h with
  | ok h => rw [h]
  | error h => exact congrArg Except.error h

theorem Related.refl (r : Except ε α) : Related see (· = ·) r r := by
  cases r with
  | ok a => exact .ok rfl
  | error e => exact .error rfl

end Related

namespace Http

/-! ## Calls -/

/-- What is not seen of a request. -/
structure Veil where
  /-- The header that authorises the call. -/
  authorization : Bool := false
  body : Bool := false

/-- A request as it is seen through a veil. The header for a user named in the URL, which comes
before the one for the call, is always seen. -/
def Veil.view (v : Veil) (q : Request) : Request :=
  { q with
    authorizations := if v.authorization then q.authorizations.dropLast else q.authorizations
    body := if v.body then "" else q.body }

/-- The URL of a request is always seen. -/
theorem Veil.url_of_view {v : Veil} {q q' : Request} (h : v.view q' = v.view q) :
    q'.url = q.url := by
  change (v.view q').url = (v.view q).url
  rw [h]

/-- Calls that differ at most in what the veil hides. -/
structure Call.Alike (v : Veil) (c c' : Call) : Prop where
  method : c'.method = c.method := by rfl
  address : c'.address = c.address := by rfl
  query : c'.query = c.query := by rfl
  wantsJson : c'.wantsJson = c.wantsJson := by rfl
  contentType : c'.body.contentType = c.body.contentType := by rfl
  /-- Both authorisations may stand in a header, or neither. -/
  header : c'.authorization.value.all inHeader = c.authorization.value.all inHeader
  authorization : v.authorization = false → c'.authorization = c.authorization
  body : v.body = false → c'.body.text = c.body.text

namespace Call.Alike

variable {v : Veil} {c c' : Call}

theorem view_requestTo (h : c.Alike v c') (url : Url) :
    v.view (c'.requestTo url) = v.view (c.requestTo url) := by
  have authorizations : (v.view (c'.requestTo url)).authorizations =
      (v.view (c.requestTo url)).authorizations := by
    simp only [Veil.view, requestTo, List.dropLast_concat]
    split
    case isTrue => rfl
    case isFalse shown => rw [h.authorization (Bool.not_eq_true _ ▸ shown)]
  have body : (v.view (c'.requestTo url)).body = (v.view (c.requestTo url)).body := by
    simp only [Veil.view, requestTo]
    split
    case isTrue => rfl
    case isFalse shown => exact h.body (Bool.not_eq_true _ ▸ shown)
  rw [Veil.view, Veil.view] at authorizations body ⊢
  dsimp only at authorizations body
  rw [authorizations, body]
  simp only [requestTo, h.method, h.query, h.wantsJson, h.contentType]

/-- Requests that look alike, or the same reason why there is none. -/
theorem request (h : c.Alike v c') :
    Related id (fun q q' => v.view q' = v.view q) c.request c'.request := by
  rw [Call.request_eq, Call.request_eq, h.address]
  cases Url.parse c.address with
  | error fault => cases fault <;> exact .error rfl
  | ok url =>
    have view := h.view_requestTo url
    have written : (c'.requestTo url).url = (c.requestTo url).url := Veil.url_of_view view
    simp only [h.header, written]
    split_ifs
    · exact .error rfl
    · exact .error rfl
    · exact .ok view

theorem departure (h : c.Alike v c') (connected : Bool) :
    Related id (fun q q' => v.view q' = v.view q) (c.departure connected)
      (c'.departure connected) := by
  have alike := h.request
  unfold Call.departure
  generalize c.request = r at alike ⊢
  generalize c'.request = r' at alike ⊢
  cases alike with
  | error same => exact .error same
  | ok view =>
    simp only [Veil.url_of_view view]
    split_ifs
    · exact .ok view
    · exact .error rfl

/-- The same comes back to calls that look alike. -/
theorem value_attempt (h : c.Alike v c') (n : Network) :
    (attempt c' n).value = (attempt c n).value := by
  have alike := h.departure n.connected
  rw [attempt_eq, attempt_eq]
  generalize c.departure n.connected = d at alike ⊢
  generalize c'.departure n.connected = d' at alike ⊢
  cases alike with
  | @error failure failure' same =>
    obtain rfl : failure' = failure := same
    rfl
  | ok view => simp only [Veil.url_of_view view]

theorem requests_attempt (h : c.Alike v c') (n : Network) :
    (Traced.requests (attempt c' n).trace).map v.view =
      (Traced.requests (attempt c n).trace).map v.view := by
  have alike := h.departure n.connected
  rw [Http.requests_attempt, Http.requests_attempt]
  generalize c.departure n.connected = d at alike ⊢
  generalize c'.departure n.connected = d' at alike ⊢
  cases alike with
  | error => rfl
  | ok view => exact congrArg ([·]) view

end Call.Alike

theorem entries_attempt (c : Call) (n : Network) : Traced.entries (attempt c n).trace = [] := by
  obtain ⟨sent, eq⟩ := trace_attempt c n
  simp [eq, Traced.entries, Event.entry?]

end Http

/-! ## Operations -/

namespace PortalM

variable {α β γ δ : Type}

/-- Whether two operations, each on its network, look alike: errors that `see` takes for equal or
values related by `V` come of them, they leave equal networks, and nobody tells their logs or,
through the veil, their requests apart. -/
structure AlikeOn (see : PortalError → PortalError) (v : Veil) (V : α → β → Prop) (x : PortalM α)
    (n : Network) (y : PortalM β) (n' : Network) : Prop where
  outcome : Related see V (x.outcome n) (y.outcome n')
  left : y.left n' = x.left n
  log : Traced.entries (y.trace n') = Traced.entries (x.trace n)
  requests : (Traced.requests (y.trace n')).map v.view = (Traced.requests (x.trace n)).map v.view

/-- Whether two operations look alike on every network. -/
def Alike (see : PortalError → PortalError) (v : Veil) (V : α → β → Prop) (x : PortalM α)
    (y : PortalM β) : Prop :=
  ∀ n, AlikeOn see v V x n y n

variable {see : PortalError → PortalError} {v : Veil} {V : α → β → Prop} {W : γ → δ → Prop}
  {n n' : Network}

theorem Alike.refl (x : PortalM α) : Alike see v (· = ·) x x :=
  fun _ => ⟨.refl _, rfl, rfl, rfl⟩

theorem AlikeOn.bind {x : PortalM α} {y : PortalM β} {f : α → PortalM γ} {g : β → PortalM δ}
    (hx : AlikeOn see v V x n y n') (hf : ∀ a b, V a b → Alike see v W (f a) (g b)) :
    AlikeOn see v W (x >>= f) n (y >>= g) n' := by
  obtain ⟨outcome, left, log, requests⟩ := hx
  constructor <;>
    simp only [outcome_bind, left_bind, trace_bind, Traced.entries_append, Traced.requests_append,
      List.map_append, left, log, requests] <;>
    generalize x.outcome n = r at outcome ⊢ <;> generalize y.outcome n' = r' at outcome ⊢
  case outcome =>
    cases outcome with
    | ok h => exact (hf _ _ h _).outcome
    | error h => exact .error h
  case left =>
    cases outcome with
    | ok h => exact (hf _ _ h _).left
    | error => rfl
  case log =>
    cases outcome with
    | ok h => exact congrArg _ (hf _ _ h _).log
    | error => rfl
  case requests =>
    cases outcome with
    | ok h => exact congrArg _ (hf _ _ h _).requests
    | error => rfl

theorem Alike.bind {x : PortalM α} {y : PortalM β} {f : α → PortalM γ} {g : β → PortalM δ}
    (hx : Alike see v V x y) (hf : ∀ a b, V a b → Alike see v W (f a) (g b)) :
    Alike see v W (x >>= f) (y >>= g) := fun n => (hx n).bind hf

/-- Operations that look alike up to a value and go on alike from it. -/
theorem Alike.bind_eq {x y : PortalM α} {f : α → PortalM γ} {g : α → PortalM δ}
    (hx : Alike see v (· = ·) x y) (hf : ∀ a, Alike see v W (f a) (g a)) :
    Alike see v W (x >>= f) (y >>= g) :=
  hx.bind fun a _ h => h ▸ hf a

/-- Operations that go on alike after the same one look alike. -/
theorem Alike.after {x : PortalM α} {f : α → PortalM γ} {g : α → PortalM δ}
    (hf : ∀ a, Alike see v W (f a) (g a)) : Alike see v W (x >>= f) (x >>= g) :=
  (Alike.refl x).bind_eq hf

/-- What a quiet operation logs before does not tell what follows apart. -/
theorem Quiet.bind_alikeOn {P : LogEntry → Prop} {x : PortalM α} {a : α} {f : α → PortalM γ}
    {g : α → PortalM δ} (hx : Quiet P x (.ok a)) (hf : AlikeOn see v W (f a) n (g a) n') :
    AlikeOn see v W (x >>= f) n (x >>= g) n' := by
  obtain ⟨log, -, run⟩ := hx.run_bind
  refine ⟨?_, ?_, ?_, ?_⟩ <;>
    simp only [PortalM.outcome, PortalM.left, PortalM.trace, run, Traced.entries_append,
      Traced.requests_append, List.map_append]
  · exact hf.outcome
  · exact hf.left
  · exact congrArg _ hf.log
  · exact congrArg _ hf.requests

/-- Operations that say nothing and make no call look alike if the same, or something related, comes
of them. -/
theorem Quiet.alike {x : PortalM α} {y : PortalM β} {r : Except PortalError α}
    {r' : Except PortalError β} (hx : Quiet (fun _ => False) x r)
    (hy : Quiet (fun _ => False) y r') (h : Related see V r r') : Alike see v V x y := by
  have silent {γ : Type} {z : PortalM γ} {s : Except PortalError γ}
      (hz : Quiet (fun _ => False) z s) (n : Network) : z n = ⟨(s, n), []⟩ := by
    obtain ⟨log, none, hz⟩ := hz
    rw [hz, List.eq_nil_iff_forall_not_mem.2 none]
    rfl
  intro n
  have runs := silent hx n
  have runs' := silent hy n
  refine ⟨?_, ?_, ?_, ?_⟩ <;> simp only [PortalM.outcome, PortalM.left, PortalM.trace, runs, runs']
  exact h

theorem alike_call {c c' : Call} (h : c.Alike v c') (context : String) :
    Alike see v (· = ·) (Portal.call context c) (Portal.call context c') := by
  intro n
  have value := h.value_attempt n
  refine ⟨?_, ?_, ?_, ?_⟩ <;> simp only [outcome, left, trace, run_call]
  · rw [value]
    exact .refl _
  · rw [value]
  · rw [entries_attempt, entries_attempt]
  · exact h.requests_attempt n

end PortalM

end TrainingPortal
