import TrainingPortal.Proofs.Profiles.Operations
import TrainingPortal.Proofs.Profiles.Registry
import TrainingPortal.Selection

/-!
# The first profile

The first profile that is added becomes the current one, so that a command that names no portal
means it (`ProfileStore.first_added_is_current`), as long as the current name is one of a profile.
That is so from the start, unless a file says otherwise, and every operation keeps it so
(`Operation.coherent_perform`, `coherent_run`).

A file may name a current profile that it does not hold. Adding a profile does not then make it
current, even if it is the only one (`first_added_is_not_current`).
-/

namespace TrainingPortal

open Text

namespace Profiles

variable {p : Profiles} {name : String} {c : Credentials}

/-- A profile that is added to none is current unless another name was. -/
theorem current?_add_of_empty (empty : p.portals.entries = []) :
    (p.add name c).current? = some (name, c) ↔ p.current = none ∨ p.current = some name := by
  have none_else (other : String) : (p.portals.insert name c).get? other =
      if other = name then some c else none := by
    rw [ProfileTable.get?_insert, ProfileTable.get?, empty]
    rfl
  rw [current?, add]
  cases p.current with
  | none => simp [none_else]
  | some current => by_cases same : current = name <;> simp [none_else, same]

/-- Where no profile is, none can be current. -/
theorem current_of_empty (coherent : p.registry.Coherent) (empty : p.portals.entries = []) :
    p.current = none := by
  by_contra named
  obtain ⟨name, named⟩ := Option.ne_none_iff_exists'.1 named
  have known := ProfileTable.mem_toFinmap.1 (coherent name named)
  rw [ProfileTable.contains, ProfileTable.get?, empty] at known
  cases known

/-- A command that does not say which portal it means talks to the current one. -/
theorem resolve_current (current : p.current? = some (name, c)) (fs : Files) (vars : Variables) :
    (Selection.resolve {} p fs vars).run.value = .ok ⟨name, c⟩ := by
  unfold Selection.resolve
  rw [current]
  rfl

end Profiles

namespace ProfileStore

variable {vars : Variables} {store store' : ProfileStore} {fs fs' : Files}

/-! ## The current name -/

namespace Operation

variable {op : Operation} {p p' : Profiles}

theorem Makes.coherent (makes : op.Makes p p') (coherent : p.registry.Coherent) :
    p'.registry.Coherent := by
  cases makes with
  | edit allowed => exact coherent.step? (Profiles.step?_of_allowed allowed)
  | save => exact coherent

/-- **No operation makes a name current that is not one of a profile**, unless it loads such a name
from a file. -/
theorem coherent_perform (vars : Variables) (op : Operation) (fs : Files)
    (coherent : store.profiles.registry.Coherent)
    (loads : ∀ path loaded, op = .load path →
      (ProfileStore.load path fs).value = (.ok loaded, fs) → loaded.profiles.registry.Coherent) :
    (op.perform vars store fs).value.1.2.profiles.registry.Coherent := by
  have course := op.course vars store fs
  generalize (op.perform vars store fs).value = result at course ⊢
  obtain ⟨⟨outcome, store'⟩, fs'⟩ := result
  cases course with
  | refused => exact coherent
  | unsaved makes | saved makes => exact makes.coherent coherent
  | loaded loaded => exact loads _ _ rfl loaded
  | adjusted => exact coherent

end Operation

/-! ## One operation after another -/

/-- An operation with the variables and the files that it finds. -/
structure Step where
  vars : Variables
  files : Files
  operation : Operation

namespace Step

/-- The store after a step. -/
def after (store : ProfileStore) (s : Step) : ProfileStore :=
  (s.operation.perform s.vars store s.files).value.1.2

/-- Whether the current name is one of a profile in what a step loads. -/
def LoadsCoherent (s : Step) : Prop :=
  ∀ path loaded, s.operation = .load path →
    (load path s.files).value = (.ok loaded, s.files) → loaded.profiles.registry.Coherent

end Step

/-- The store after several steps. -/
def run (store : ProfileStore) (steps : List Step) : ProfileStore := steps.foldl Step.after store

theorem coherent_run {steps : List Step} (loads : ∀ s ∈ steps, s.LoadsCoherent)
    (coherent : store.profiles.registry.Coherent) :
    (run store steps).profiles.registry.Coherent := by
  induction steps generalizing store with
  | nil => exact coherent
  | cons s rest ih =>
    obtain ⟨first, others⟩ := List.forall_mem_cons.1 loads
    exact ih others (s.operation.coherent_perform s.vars s.files coherent first)

/-- **The first profile that is added is current.** After any operations, if there is no profile,
one that is added successfully is current exactly if no other name was. That is always so if the
current names in the files that were loaded were those of profiles; the file then keeps the profile
as the current one, and a command that names no portal talks to it. -/
theorem first_added_is_current (store : ProfileStore) (steps : List Step) {name : String}
    {c : Credentials} (empty : (run store steps).profiles.portals.entries = [])
    (added : ((Edit.add name c).perform vars (run store steps) fs).value =
      ((.ok (), store'), fs')) :
    (store'.profiles.current? = some (name, c) ↔
      (run store steps).profiles.current = none ∨
        (run store steps).profiles.current = some name) ∧
    (store.profiles.registry.Coherent → (∀ s ∈ steps, s.LoadsCoherent) →
      store'.profiles.current? = some (name, c) ∧
      Holds fs' (store'.file vars) store'.profiles ∧
      ∀ fs vars, (Selection.resolve {} store'.profiles fs vars).run.value = .ok ⟨name, c⟩) := by
  obtain ⟨rfl, saved⟩ := Edit.perform_inv added
  have promoted := @Profiles.current?_add_of_empty _ name c empty
  refine ⟨promoted, fun coherent loads => ?_⟩
  have current := promoted.2 (.inl (Profiles.current_of_empty (coherent_run loads coherent) empty))
  exact ⟨current, holds_of_save saved, Profiles.resolve_current current⟩

/-- Profiles are added and removed again; the next one that is added is current. -/
theorem first_added_is_current_again :
    let steps : List Step := [⟨[], {}, .edit (.add "a" oddCredentials)⟩,
      ⟨[], {}, .adjust { httpTimeout := 5 }⟩, ⟨[], {}, .edit (.remove "a")⟩]
    (run (nested {}) steps).profiles.portals.entries = [] ∧
      ∃ store' fs', ((Edit.add "b" oddCredentials).perform [] (run (nested {}) steps) {}).value =
          ((.ok (), store'), fs') ∧ store'.profiles.current? = some ("b", oddCredentials) := by
  intro steps
  have empty : (run (nested {}) steps).profiles.portals.entries = [] := by decide +kernel
  have outcome : ((Edit.add "b" oddCredentials).perform [] (run (nested {}) steps) {}).value.1.1 =
      .ok () := by decide +kernel
  have loads : ∀ s ∈ steps, s.LoadsCoherent := by
    simp [steps, Step.LoadsCoherent]
  generalize performed : ((Edit.add "b" oddCredentials).perform [] (run (nested {}) steps) {}).value
    = result at outcome ⊢
  obtain ⟨⟨_, store'⟩, fs'⟩ := result
  obtain rfl : _ = Except.ok () := outcome
  obtain ⟨-, promoted⟩ := first_added_is_current (nested {}) steps empty performed
  exact ⟨empty, store', fs', rfl, (promoted nofun loads).1⟩

/-- A tree with a file that names a current profile and holds none. -/
def ghostly : Files :=
  ⟨[], [(["config.toml".toList], .file (Utf8.bytes "current_portal = \"ghost\"\n"))]⟩

/-- What is loaded from it. -/
def ghost : ProfileStore := { profiles := { current := some "ghost" }, path := some "config.toml" }

/-- The first profile that is added to what this file holds is not current. -/
theorem first_added_is_not_current :
    Holds ghostly "config.toml" ghost.profiles ∧ ghost.profiles.portals.entries = [] ∧
      ∃ store' fs', ((Edit.add "a" oddCredentials).perform [] ghost ghostly).value =
          ((.ok (), store'), fs') ∧ store'.profiles.current? = none := by
  have read : ghostly.readText "config.toml" = .ok "current_portal = \"ghost\"\n" := by
    decide +kernel
  have holds : Holds ghostly "config.toml" ghost.profiles :=
    holds_of_read (by decide +kernel) read (by decide +kernel)
  have outcome : ((Edit.add "a" oddCredentials).perform [] ghost ghostly).value.1.1 = .ok () := by
    decide +kernel
  have current : Profiles.current? ((Edit.add "a" oddCredentials).perform [] ghost
      ghostly).value.1.2.profiles = none := by decide +kernel
  generalize ((Edit.add "a" oddCredentials).perform [] ghost ghostly).value = result
    at outcome current ⊢
  obtain ⟨⟨_, store'⟩, fs'⟩ := result
  obtain rfl : _ = Except.ok () := outcome
  exact ⟨holds, rfl, store', fs', rfl, current⟩

end ProfileStore

end TrainingPortal
