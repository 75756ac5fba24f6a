import Mathlib.Tactic.Choose
import TrainingPortal.Portal.Answer
import TrainingPortal.Proofs.Network
import TrainingPortal.Proofs.Stateful

/-!
# Operations with no call and with one

Everything that this client does on a portal is put together from two kinds of operations.

* A `Quiet` operation makes no call: what it logs and what comes of it is the same on every network.
* An `Exchange` makes exactly one call: it logs something before, and what it logs afterwards and
  what comes of it is decided by what comes back.

Both carry a condition `P` on the log entries. They are closed under sequencing as far as the number
of calls allows (`Quiet.bind`, `Quiet.bind_exchange`, `Exchange.bind`), so one lemma for each
operation says which of the two it is. Both are `Causal`: they see no replies but those they take.
-/

namespace TrainingPortal

open Http

namespace PortalM

variable {α β : Type}

/-- What comes of an operation on a network. -/
def outcome (x : PortalM α) (n : Network) : Except PortalError α := (x n).value.1

/-- The network that an operation leaves. -/
def left (x : PortalM α) (n : Network) : Network := (x n).value.2

/-- What an operation lets the outside see. -/
def trace (x : PortalM α) (n : Network) : List Event := (x n).trace

theorem run_bind (x : PortalM α) (f : α → PortalM β) (n : Network) :
    (x >>= f) n =
      match x.outcome n with
      | .ok a => ⟨(f a (x.left n)).value, x.trace n ++ (f a (x.left n)).trace⟩
      | .error e => ⟨(.error e, x.left n), x.trace n⟩ := by
  change Traced.mk (ExceptT.bindCont f (x n).value.1 (x n).value.2).value
    ((x n).trace ++ (ExceptT.bindCont f (x n).value.1 (x n).value.2).trace) = _
  unfold outcome left trace
  cases (x n).value.1 with
  | ok a => rfl
  | error e => exact congrArg _ (List.append_nil _)

theorem bind_eq_error_iff {r : Except PortalError α} {f : α → Except PortalError β}
    {e : PortalError} : r >>= f = .error e ↔ r = .error e ∨ ∃ a, r = .ok a ∧ f a = .error e := by
  cases r with
  | error e' =>
    change Except.error e' = .error e ↔ _
    simp
  | ok a =>
    change f a = .error e ↔ _
    simp

theorem mapError_eq_ok_iff {ε : Type} {r : Except ε α} {f : ε → PortalError} {a : α} :
    r.mapError f = .ok a ↔ r = .ok a := by
  cases r with
  | error e => exact ⟨nofun, nofun⟩
  | ok b =>
    change (.ok b : Except PortalError α) = .ok a ↔ _
    simp

theorem outcome_bind (x : PortalM α) (f : α → PortalM β) (n : Network) :
    (x >>= f).outcome n = x.outcome n >>= fun a => (f a).outcome (x.left n) := by
  rw [outcome, run_bind]
  cases x.outcome n <;> rfl

theorem left_bind (x : PortalM α) (f : α → PortalM β) (n : Network) :
    (x >>= f).left n =
      match x.outcome n with
      | .ok a => (f a).left (x.left n)
      | .error _ => x.left n := by
  rw [left, run_bind]
  cases x.outcome n <;> rfl

theorem trace_bind (x : PortalM α) (f : α → PortalM β) (n : Network) :
    (x >>= f).trace n = x.trace n ++
      match x.outcome n with
      | .ok a => (f a).trace (x.left n)
      | .error _ => [] := by
  rw [trace, run_bind]
  cases x.outcome n with
  | ok a => rfl
  | error e => exact (List.append_nil _).symm

theorem calls_bind (x : PortalM α) (f : α → PortalM β) (n : Network) :
    Traced.calls ((x >>= f).trace n) = Traced.calls (x.trace n) ++
      match x.outcome n with
      | .ok a => Traced.calls ((f a).trace (x.left n))
      | .error _ => [] := by
  rw [trace_bind, Traced.calls_append]
  cases x.outcome n <;> rfl

/-! ## Operations without a call -/

/-- `x` makes no call, and `r` comes of it on every network. -/
def Quiet (P : LogEntry → Prop) (x : PortalM α) (r : Except PortalError α) : Prop :=
  ∃ log : List LogEntry, (∀ e ∈ log, P e) ∧ ∀ n, x n = ⟨(r, n), log.map .logged⟩

namespace Quiet

variable {P : LogEntry → Prop} {x : PortalM α} {f : α → PortalM β}

theorem pure (a : α) : Quiet P (pure a) (.ok a) := ⟨[], by simp, fun _ => rfl⟩

theorem throw (e : PortalError) : Quiet P (throw e : PortalM α) (.error e) :=
  ⟨[], by simp, fun _ => rfl⟩

theorem log {level : LogLevel} {area : LogArea} {text : String} (h : P ⟨level, area, text⟩) :
    Quiet P (Traced.log level area text : PortalM Unit) (.ok ()) :=
  ⟨[⟨level, area, text⟩], by simpa using h, fun _ => rfl⟩

/-- A quiet operation adds to the log of what follows it. -/
theorem run_bind {a : α} (hx : Quiet P x (.ok a)) :
    ∃ log : List LogEntry, (∀ e ∈ log, P e) ∧
      ∀ {β : Type} (f : α → PortalM β) (n : Network),
        (x >>= f) n = ⟨(f a n).value, log.map .logged ++ (f a n).trace⟩ := by
  obtain ⟨log, hP, hx⟩ := hx
  refine ⟨log, hP, fun f n => ?_⟩
  rw [PortalM.run_bind, outcome, left, trace, hx]

theorem bind_error {e : PortalError} (hx : Quiet P x (.error e)) :
    Quiet P (x >>= f) (.error e) := by
  obtain ⟨log, hP, hx⟩ := hx
  refine ⟨log, hP, fun n => ?_⟩
  rw [PortalM.run_bind, outcome, left, trace, hx]

theorem bind_ok {a : α} {r : Except PortalError β} (hx : Quiet P x (.ok a))
    (hf : Quiet P (f a) r) : Quiet P (x >>= f) r := by
  obtain ⟨log, hP, hx⟩ := hx.run_bind
  obtain ⟨more, hP', hf⟩ := hf
  refine ⟨log ++ more, List.forall_mem_append.2 ⟨hP, hP'⟩, fun n => ?_⟩
  rw [hx, hf, List.map_append]

theorem bind {r : Except PortalError α} {g : α → Except PortalError β} (hx : Quiet P x r)
    (hf : ∀ a, Quiet P (f a) (g a)) : Quiet P (x >>= f) (r >>= g) := by
  cases r with
  | error e => exact hx.bind_error
  | ok a => exact hx.bind_ok (hf a)

/-- What follows may keep what came before. -/
theorem bind_keep {f : α → PortalM α} {r : Except PortalError α} (hx : Quiet P x r)
    (hf : ∀ a, Quiet P (f a) (.ok a)) : Quiet P (x >>= f) r := by
  cases r with
  | error e => exact hx.bind_error
  | ok a => exact hx.bind_ok (hf a)

theorem outcome_eq {r : Except PortalError α} (hx : Quiet P x r) (n : Network) :
    x.outcome n = r := by
  obtain ⟨log, -, hx⟩ := hx
  rw [outcome, hx]

theorem left_eq {r : Except PortalError α} (hx : Quiet P x r) (n : Network) : x.left n = n := by
  obtain ⟨log, -, hx⟩ := hx
  rw [left, hx]

theorem calls_eq {r : Except PortalError α} (hx : Quiet P x r) (n : Network) :
    Traced.calls (x.trace n) = [] := by
  obtain ⟨log, -, hx⟩ := hx
  rw [trace, hx, Traced.calls_logged]

theorem requests_eq {r : Except PortalError α} (hx : Quiet P x r) (n : Network) :
    Traced.requests (x.trace n) = [] := by
  obtain ⟨log, -, hx⟩ := hx
  rw [trace, hx, Traced.requests_logged]

theorem mem_trace {r : Except PortalError α} (hx : Quiet P x r) {n : Network} {event : Event}
    (h : event ∈ x.trace n) : ∃ e, P e ∧ event = .logged e := by
  obtain ⟨log, hP, hx⟩ := hx
  rw [trace, hx] at h
  obtain ⟨e, he, rfl⟩ := List.mem_map.1 h
  exact ⟨e, hP e he, rfl⟩

end Quiet

/-! ## Operations with one call -/

theorem run_call (context : String) (c : Call) (n : Network) :
    Portal.call context c n =
      ⟨((attempt c n).value.1.mapError (.network context), (attempt c n).value.2),
        (attempt c n).trace⟩ := by
  have lifted : (liftM (attempt c) : PortalM _) n =
      ⟨(.ok (attempt c n).value.1, (attempt c n).value.2), (attempt c n).trace ++ []⟩ := rfl
  rw [Portal.call, run_bind, outcome, left, trace, lifted, List.append_nil]
  cases (attempt c n).value.1 with
  | ok response => exact congrArg _ (List.append_nil _)
  | error failure => exact congrArg _ (List.append_nil _)

/-- `x` makes the call `c` and no other, and `judge` says what comes of it. -/
def Exchange (P : LogEntry → Prop) (x : PortalM α) (c : Call)
    (judge : Except TransportFailure Response → Except PortalError α) : Prop :=
  ∃ (before : List LogEntry) (after : Except TransportFailure Response → List LogEntry),
    (∀ e ∈ before, P e) ∧ (∀ a, ∀ e ∈ after a, P e) ∧
    ∀ n, x n = ⟨(judge (attempt c n).value.1, (attempt c n).value.2),
      before.map .logged ++ (attempt c n).trace ++ (after (attempt c n).value.1).map .logged⟩

theorem Quiet.bind_exchange {P : LogEntry → Prop} {x : PortalM α} {a : α} {f : α → PortalM β}
    {c : Call} {judge : Except TransportFailure Response → Except PortalError β}
    (hx : Quiet P x (.ok a)) (hf : Exchange P (f a) c judge) : Exchange P (x >>= f) c judge := by
  obtain ⟨log, hP, hx⟩ := hx.run_bind
  obtain ⟨before, after, hbefore, hafter, hf⟩ := hf
  refine ⟨log ++ before, after, List.forall_mem_append.2 ⟨hP, hbefore⟩, hafter, fun n => ?_⟩
  simp only [hx, hf, List.map_append, List.append_assoc]

namespace Exchange

variable {P : LogEntry → Prop} {x : PortalM α} {c : Call}
  {judge : Except TransportFailure Response → Except PortalError α} {n : Network}

/-- The call itself. -/
theorem call (context : String) (c : Call) :
    Exchange P (Portal.call context c) c (·.mapError (.network context)) := by
  refine ⟨[], fun _ => [], by simp, by simp, fun n => ?_⟩
  rw [run_call]
  exact congrArg _ (List.append_nil _).symm

/-- What follows need only be quiet after the values that can come of the call. -/
theorem bind_of {f : α → PortalM β} {g : α → Except PortalError β} (hx : Exchange P x c judge)
    (hf : ∀ back a, judge back = .ok a → Quiet P (f a) (g a)) :
    Exchange P (x >>= f) c (fun back => judge back >>= g) := by
  obtain ⟨before, after, hbefore, hafter, hx⟩ := hx
  choose! log hP hf using hf
  refine ⟨before, fun back => after back ++ (match judge back with
    | .ok a => log back a
    | .error _ => []), hbefore, fun back => ?_, fun n => ?_⟩
  · refine List.forall_mem_append.2 ⟨hafter back, ?_⟩
    cases h : judge back with
    | ok a => exact hP back a h
    | error e => simp
  · rw [PortalM.run_bind, outcome, left, trace, hx]
    cases h : judge (attempt c n).value.1 with
    | ok a =>
      simp only [hf _ a h, h, List.map_append, List.append_assoc]
      rfl
    | error e =>
      simp only [h, List.append_nil]
      rfl

theorem bind {f : α → PortalM β} {g : α → Except PortalError β} (hx : Exchange P x c judge)
    (hf : ∀ a, Quiet P (f a) (g a)) : Exchange P (x >>= f) c (fun back => judge back >>= g) :=
  hx.bind_of fun _ a _ => hf a

theorem mono {Q : LogEntry → Prop} (hx : Exchange P x c judge) (h : ∀ e, P e → Q e) :
    Exchange Q x c judge :=
  let ⟨before, after, hbefore, hafter, hx⟩ := hx
  ⟨before, after, fun e he => h e (hbefore e he), fun a e he => h e (hafter a e he), hx⟩

theorem congr {judge' : Except TransportFailure Response → Except PortalError α}
    (hx : Exchange P x c judge) (h : ∀ back, judge back = judge' back) : Exchange P x c judge' :=
  funext h ▸ hx

theorem outcome_eq (hx : Exchange P x c judge) (n : Network) :
    x.outcome n = judge (attempt c n).value.1 := by
  obtain ⟨before, after, -, -, hx⟩ := hx
  rw [outcome, hx]

theorem left_eq (hx : Exchange P x c judge) (n : Network) : x.left n = (attempt c n).value.2 := by
  obtain ⟨before, after, -, -, hx⟩ := hx
  rw [left, hx]

theorem calls_eq (hx : Exchange P x c judge) (n : Network) : Traced.calls (x.trace n) = [c] := by
  obtain ⟨before, after, -, -, hx⟩ := hx
  simp [trace, hx]

theorem requests_eq (hx : Exchange P x c judge) (n : Network) :
    Traced.requests (x.trace n) = Traced.requests (attempt c n).trace := by
  obtain ⟨before, after, -, -, hx⟩ := hx
  simp [trace, hx]

theorem length_requests (hx : Exchange P x c judge) (n : Network) :
    (Traced.requests (x.trace n)).length ≤ 1 := by
  rw [hx.requests_eq]
  exact length_requests_attempt c n

theorem mem_trace (hx : Exchange P x c judge) {event : Event} (h : event ∈ x.trace n) :
    (∃ e, P e ∧ event = .logged e) ∨ event ∈ (attempt c n).trace := by
  obtain ⟨before, after, hbefore, hafter, hx⟩ := hx
  rw [trace, hx, List.mem_append, List.mem_append] at h
  rcases h with (h | h) | h
  · obtain ⟨e, he, rfl⟩ := List.mem_map.1 h
    exact .inl ⟨e, hbefore e he, rfl⟩
  · exact .inr h
  · obtain ⟨e, he, rfl⟩ := List.mem_map.1 h
    exact .inl ⟨e, hafter _ e he, rfl⟩

end Exchange

/-! ## Operations and the replies they take -/

/-- `x` takes a reply for each request that it sends and sees no others. -/
structure Causal (x : PortalM α) : Prop where
  left : ∀ n, x.left n = n.skip (Traced.requests (x.trace n)).length
  congr : ∀ {n n'}, n.Agree (Traced.requests (x.trace n)).length n' →
    x.outcome n' = x.outcome n ∧ x.trace n' = x.trace n

theorem Quiet.causal {P : LogEntry → Prop} {x : PortalM α} {r : Except PortalError α}
    (hx : Quiet P x r) : Causal x := by
  obtain ⟨log, -, hx⟩ := hx
  refine ⟨fun n => ?_, fun _ => ⟨?_, ?_⟩⟩
  · simp [PortalM.left, trace, hx]
  · simp [outcome, hx]
  · simp [trace, hx]

theorem Exchange.causal {P : LogEntry → Prop} {x : PortalM α} {c : Call}
    {judge : Except TransportFailure Response → Except PortalError α} (hx : Exchange P x c judge) :
    Causal x where
  left n := by rw [hx.left_eq, hx.requests_eq, ← left_attempt]
  congr {n n'} h := by
    rw [hx.requests_eq] at h
    obtain ⟨same, sameTrace⟩ := attempt_congr h
    refine ⟨by rw [hx.outcome_eq, hx.outcome_eq, same], ?_⟩
    obtain ⟨before, after, -, -, hx⟩ := hx
    rw [trace, trace, hx, hx, same, sameTrace]

theorem Causal.bind {x : PortalM α} {f : α → PortalM β} (hx : Causal x) (hf : ∀ a, Causal (f a)) :
    Causal (x >>= f) := by
  refine ⟨fun n => ?_, fun {n n'} h => ?_⟩
  · rw [left_bind, trace_bind]
    cases x.outcome n with
    | ok a =>
      simp only [(hf a).left, hx.left n, Traced.requests_append, List.length_append,
        Network.skip_skip]
    | error e => simpa using hx.left n
  · rw [trace_bind, Traced.requests_append, List.length_append] at h
    obtain ⟨same, sameTrace⟩ := hx.congr (h.mono (Nat.le_add_right _ _))
    rw [outcome_bind, outcome_bind, trace_bind, trace_bind, same, sameTrace]
    cases ho : x.outcome n with
    | error e => exact ⟨rfl, rfl⟩
    | ok a =>
      -- what is left of the two networks agrees on what `f a` will take
      rw [ho] at h
      have rest : (x.left n).Agree (Traced.requests ((f a).trace (x.left n))).length
          (x.left n') := by
        rw [hx.left n', sameTrace, hx.left n]
        exact (hx.left n ▸ h).skip
      obtain ⟨sameF, sameTraceF⟩ := (hf a).congr rest
      exact ⟨sameF, congrArg _ sameTraceF⟩

/-! ## What operations show -/

/-- Every event that `x` lets the outside see satisfies `Q`. -/
def Shows (Q : Event → Prop) (x : PortalM α) : Prop := ∀ n, ∀ event ∈ x.trace n, Q event

section Shows

variable {P : LogEntry → Prop} {Q : Event → Prop} {x : PortalM α} {f : α → PortalM β}

theorem Quiet.shows {r : Except PortalError α} (hx : Quiet P x r) (hQ : ∀ e, P e → Q (.logged e)) :
    Shows Q x := by
  intro n event h
  obtain ⟨e, he, rfl⟩ := hx.mem_trace h
  exact hQ e he

theorem Exchange.shows {c : Call}
    {judge : Except TransportFailure Response → Except PortalError α} (hx : Exchange P x c judge)
    (hQ : ∀ e, P e → Q (.logged e)) (called : Q (.called c)) (sent : ∀ r, Q (.sent r)) :
    Shows Q x := by
  intro n event h
  rcases hx.mem_trace h with ⟨e, he, rfl⟩ | h
  · exact hQ e he
  · rcases mem_trace_attempt h with rfl | ⟨r, rfl⟩
    · exact called
    · exact sent r

theorem Shows.bind (hx : Shows Q x) (hf : ∀ a, Shows Q (f a)) : Shows Q (x >>= f) := by
  intro n event h
  rw [trace_bind] at h
  rcases List.mem_append.1 h with h | h
  · exact hx n event h
  · cases ho : x.outcome n with
    | ok a =>
      rw [ho] at h
      exact hf a (x.left n) event h
    | error e =>
      rw [ho] at h
      cases h

end Shows

end PortalM

end TrainingPortal
