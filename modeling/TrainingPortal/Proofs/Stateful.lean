import TrainingPortal.Trace

/-!
# Computations in steps

A computation that may fail succeeds exactly if each of its steps does (`bind_eq_ok_iff`). With a
state, a step that succeeds hands its value and the state on to the next (`Stateful.bind_runs`), and
one that fails ends the computation (`Stateful.bind_fails`). Traces are left aside.
-/

namespace TrainingPortal

theorem bind_eq_ok_iff {ε α β : Type} {x : Except ε α} {f : α → Except ε β} {b : β} :
    x >>= f = .ok b ↔ ∃ a, x = .ok a ∧ f a = .ok b := by
  cases x with
  | error e => exact ⟨nofun, nofun⟩
  | ok a =>
    change f a = .ok b ↔ _
    simp

theorem Traced.value_bind {ε α β : Type} (x : ExceptT ε Traced α) (f : α → ExceptT ε Traced β) :
    (x >>= f).run.value = x.run.value >>= fun a => (f a).run.value := by
  change (ExceptT.bindCont f x.run.value).value = _
  cases x.run.value <;> rfl

theorem Traced.value_ofExcept {ε α : Type} (x : Except ε α) :
    (liftM x : ExceptT ε Traced α).run.value = x := by
  cases x <;> rfl

namespace Stateful

variable {ε σ α β : Type} {x : ExceptT ε (StateT σ Traced) α}
  {f : α → ExceptT ε (StateT σ Traced) β} {state state' : σ}

theorem value_bind (x : ExceptT ε (StateT σ Traced) α) (f : α → ExceptT ε (StateT σ Traced) β)
    (state : σ) :
    ((x >>= f) state).value = match (x state).value with
      | (.ok a, state) => (f a state).value
      | (.error e, state) => (.error e, state) := by
  change (ExceptT.bindCont f (x state).value.1 (x state).value.2).value = _
  generalize (x state).value = result
  obtain ⟨outcome, state⟩ := result
  cases outcome <;> rfl

theorem bind_runs {a : α} (h : (x state).value = (.ok a, state')) :
    ((x >>= f) state).value = (f a state').value := by
  rw [value_bind, h]

theorem bind_fails {e : ε} (h : (x state).value = (.error e, state')) :
    ((x >>= f) state).value = (.error e, state') := by
  rw [value_bind, h]

theorem value_get (state : σ) :
    ((get : ExceptT ε (StateT σ Traced) σ) state).value = (.ok state, state) :=
  rfl

end Stateful

end TrainingPortal
