import TrainingPortal.Proofs.Stateful

/-!
# Steps that are only logged

A computation may log on its way to a value. Where that is all it does, what it comes to and the
state it leaves can be looked at alone, and its trace needs no more than a name for what it is made
of (`Traced.IsLog`). `Stateful.Logs` says so of a computation that changes nothing, and
`Stateful.Leads` of one that goes on as another one does, so that a sequence of such steps is
followed one by one.
-/

namespace TrainingPortal

namespace Traced

/-- Whether a trace holds entries of the log only. -/
def IsLog (trace : List Event) : Prop := ∃ log : List LogEntry, trace = log.map .logged

theorem isLog_nil : IsLog [] := ⟨[], rfl⟩

theorem isLog_logged (entry : LogEntry) : IsLog [.logged entry] := ⟨[entry], rfl⟩

theorem IsLog.append {s t : List Event} (hs : IsLog s) (ht : IsLog t) : IsLog (s ++ t) := by
  obtain ⟨log, rfl⟩ := hs
  obtain ⟨log', rfl⟩ := ht
  exact ⟨log ++ log', List.map_append.symm⟩

/-- The lines printed in a trace. -/
def lines (trace : List Event) : List String := trace.filterMap Event.line?

theorem output_eq (trace : List Event) :
    output trace = String.join ((lines trace).map (· ++ "\n")) := rfl

@[simp] theorem lines_append (s t : List Event) : lines (s ++ t) = lines s ++ lines t :=
  List.filterMap_append

@[simp] theorem openings_append (s t : List Event) :
    openings (s ++ t) = openings s ++ openings t :=
  List.filterMap_append

@[simp] theorem openings_nil : openings [] = [] := rfl

@[simp] theorem calls_nil : calls [] = [] := rfl

@[simp] theorem openings_logged (entry : LogEntry) (trace : List Event) :
    openings (.logged entry :: trace) = openings trace := rfl

@[simp] theorem calls_logged_cons (entry : LogEntry) (trace : List Event) :
    calls (.logged entry :: trace) = calls trace := rfl

theorem IsLog.calls {trace : List Event} (h : IsLog trace) : calls trace = [] := by
  obtain ⟨log, rfl⟩ := h
  exact calls_logged log

theorem IsLog.requests {trace : List Event} (h : IsLog trace) : requests trace = [] := by
  obtain ⟨log, rfl⟩ := h
  exact requests_logged log

theorem IsLog.lines {trace : List Event} (h : IsLog trace) : lines trace = [] := by
  obtain ⟨log, rfl⟩ := h
  simp [Traced.lines, Event.line?]

theorem IsLog.openings {trace : List Event} (h : IsLog trace) : openings trace = [] := by
  obtain ⟨log, rfl⟩ := h
  simp [Traced.openings, Event.address?]

end Traced

open Traced

namespace Stateful

variable {ε σ α β : Type} {x : ExceptT ε (StateT σ Traced) α}
  {f : α → ExceptT ε (StateT σ Traced) β} {state state' : σ}

theorem run_bind (x : ExceptT ε (StateT σ Traced) α) (f : α → ExceptT ε (StateT σ Traced) β)
    (state : σ) :
    (x >>= f) state = match (x state).value with
      | (.ok a, state') => ⟨(f a state').value, (x state).trace ++ (f a state').trace⟩
      | (.error e, state') => ⟨(.error e, state'), (x state).trace⟩ := by
  change Traced.mk (ExceptT.bindCont f (x state).value.1 (x state).value.2).value
    ((x state).trace ++ (ExceptT.bindCont f (x state).value.1 (x state).value.2).trace) = _
  generalize (x state).trace = trace
  generalize (x state).value = result
  obtain ⟨outcome, state'⟩ := result
  cases outcome with
  | ok a => rfl
  | error e => exact congrArg _ (List.append_nil _)

theorem get_bind (f : σ → ExceptT ε (StateT σ Traced) β) (state : σ) :
    ((get : ExceptT ε (StateT σ Traced) σ) >>= f) state = f state state := rfl

theorem run_lift (x : Traced α) (state : σ) :
    (liftM x : ExceptT ε (StateT σ Traced) α) state = ⟨(.ok x.value, state), x.trace⟩ :=
  congrArg (Traced.mk _) ((List.append_nil _).trans (List.append_nil _))

theorem lift_bind (x : Traced α) (f : α → ExceptT ε (StateT σ Traced) β) (state : σ) :
    ((liftM x : ExceptT ε (StateT σ Traced) α) >>= f) state =
      ⟨(f x.value state).value, x.trace ++ (f x.value state).trace⟩ := by
  rw [run_bind, run_lift]

/-- Whether a computation is only logged, whatever the state. -/
def Silent (x : ExceptT ε (StateT σ Traced) α) : Prop := ∀ state, IsLog (x state).trace

namespace Silent

theorem pure (a : α) : Silent (pure a : ExceptT ε (StateT σ Traced) α) := fun _ => isLog_nil

theorem throw (e : ε) : Silent (throw e : ExceptT ε (StateT σ Traced) α) := fun _ => isLog_nil

theorem get : Silent (get : ExceptT ε (StateT σ Traced) σ) := fun _ => isLog_nil

theorem modify (g : σ → σ) : Silent (modify g : ExceptT ε (StateT σ Traced) PUnit) :=
  fun _ => isLog_nil

theorem lift {x : Traced α} (h : IsLog x.trace) :
    Silent (liftM x : ExceptT ε (StateT σ Traced) α) := by
  intro state
  rw [run_lift]
  exact h

theorem bind (hx : Silent x) (hf : ∀ a, Silent (f a)) : Silent (x >>= f) := by
  intro state
  have hx := hx state
  rw [run_bind]
  generalize (x state).value = result
  obtain ⟨outcome, state'⟩ := result
  cases outcome with
  | ok a => exact hx.append (hf a state')
  | error e => exact hx

theorem forM {items : List β} {act : β → ExceptT ε (StateT σ Traced) PUnit}
    (h : ∀ item, Silent (act item)) : Silent (items.forM act) := by
  induction items with
  | nil => exact .pure _
  | cons item items ih => exact (h item).bind fun _ => ih

end Silent

/-- Whether a computation leaves this state as it is, is only logged, and comes to `r`. -/
def Logs (x : ExceptT ε (StateT σ Traced) α) (state : σ) (r : Except ε α) : Prop :=
  (x state).value = (r, state) ∧ IsLog (x state).trace

/-- Whether a computation logs something in this state and then does what another one does. -/
def Leads (x y : ExceptT ε (StateT σ Traced) α) (state : σ) : Prop :=
  ∃ trace, IsLog trace ∧ x state = ⟨(y state).value, trace ++ (y state).trace⟩

theorem Leads.refl (x : ExceptT ε (StateT σ Traced) α) (state : σ) : Leads x x state :=
  ⟨[], isLog_nil, rfl⟩

theorem Leads.trans {x y z : ExceptT ε (StateT σ Traced) α} (hxy : Leads x y state)
    (hyz : Leads y z state) : Leads x z state := by
  obtain ⟨s, hs, eq⟩ := hxy
  obtain ⟨t, ht, eq'⟩ := hyz
  exact ⟨s ++ t, hs.append ht, by rw [eq, eq', List.append_assoc]⟩

namespace Logs

variable {r : Except ε α}

theorem pure (a : α) : Logs (pure a : ExceptT ε (StateT σ Traced) α) state (.ok a) :=
  ⟨rfl, isLog_nil⟩

theorem throw (e : ε) : Logs (throw e : ExceptT ε (StateT σ Traced) α) state (.error e) :=
  ⟨rfl, isLog_nil⟩

theorem get : Logs (get : ExceptT ε (StateT σ Traced) σ) state (.ok state) := ⟨rfl, isLog_nil⟩

theorem lift {x : Traced α} (h : IsLog x.trace) :
    Logs (liftM x : ExceptT ε (StateT σ Traced) α) state (.ok x.value) := by
  rw [Logs, run_lift]
  exact ⟨rfl, h⟩

theorem leads {a : α} (h : Logs x state (.ok a)) : Leads (x >>= f) (f a) state := by
  obtain ⟨value, log⟩ := h
  refine ⟨_, log, ?_⟩
  rw [run_bind, value]

theorem bind_error {e : ε} (h : Logs x state (.error e)) : Logs (x >>= f) state (.error e) := by
  obtain ⟨value, log⟩ := h
  rw [Logs, run_bind, value]
  exact ⟨rfl, log⟩

theorem of_leads {y : ExceptT ε (StateT σ Traced) α} (hx : Leads x y state) (hy : Logs y state r) :
    Logs x state r := by
  obtain ⟨s, hs, eq⟩ := hx
  obtain ⟨value, log⟩ := hy
  rw [Logs, eq]
  exact ⟨value, hs.append log⟩

theorem bind_ok {a : α} {r : Except ε β} (hx : Logs x state (.ok a)) (hf : Logs (f a) state r) :
    Logs (x >>= f) state r :=
  hf.of_leads hx.leads

end Logs

end Stateful

end TrainingPortal
