import TrainingPortal.Proofs.Profiles.Store

/-!
# What can be done with a store

Besides the changes, which are saved at once, a store can be saved as it is, have its settings
adjusted, and be replaced by what is loaded from a file. `Operation.Course` lists what an operation
can come to, and `Operation.course` says that it comes to one of these:

* it is refused, for one of the reasons of `Operation.Refuses`, and nothing happens;
* it is made in memory, and saving what it makes succeeds or fails;
* the profiles of a file take the place of those in memory, or the settings are adjusted.
-/

namespace TrainingPortal

namespace ProfileStore

/-- What can be done with a store. -/
inductive Operation
  | edit (edit : Edit)
  /-- Takes the profiles that are kept at a path. -/
  | load (path : String)
  | save
  /-- Adjusts the settings in memory. -/
  | adjust (settings : Settings)

variable {vars : Variables} {store store' : ProfileStore} {fs fs' : Files} {e : Failure}

/-! ## Loading -/

/-- Why the profiles at a path are not loaded. -/
inductive Unloadable (fs : Files) (path : String) : Failure → Prop
  | unreadable {cause : FileError} (there : fs.exists? path = true)
    (h : fs.readText path = .error cause) : Unloadable fs path (.profilesUnreadable path cause)
  | malformed {document : String} (read : fs.readText path = .ok document)
    (h : Profiles.ofDocument? document = none) :
    Unloadable fs path (.profilesMalformed path document)

/-- Loading leaves the files as they are, and fails only if the file cannot be read or parsed. -/
theorem value_load (path : String) (fs : Files) :
    (∃ loaded, (load path fs).value = (.ok loaded, fs)) ∨
      ∃ e, Unloadable fs path e ∧ (load path fs).value = (.error e, fs) := by
  rw [load, Stateful.bind_runs (value_log _ _ fs), Stateful.bind_runs (Stateful.value_get fs)]
  cases there : fs.exists? path with
  | false => exact .inl ⟨_, rfl⟩
  | true =>
    rw [if_neg (by decide)]
    cases read : fs.readText path with
    | error cause => exact .inr ⟨_, .unreadable there read, rfl⟩
    | ok document =>
      dsimp only
      cases reads : Profiles.ofDocument? document with
      | none => exact .inr ⟨_, .malformed read reads, rfl⟩
      | some p => exact .inl ⟨_, rfl⟩

/-! ## The operations -/

namespace Operation

/-- The computation that carries out an operation. -/
def perform (vars : Variables) : Operation → StoreM Unit
  | .edit change => change.perform vars
  | .load path => do
    let loaded ← (ProfileStore.load path).run
    match loaded with
    | .ok loaded => set loaded
    | .error e => throw e
  | .save => saveNow vars
  | .adjust settings => change fun p => { p with settings }

/-- Why an operation is refused. -/
inductive Refuses (store : ProfileStore) (fs : Files) : Operation → Failure → Prop
  | edit {edit : Edit} {e : Failure} (h : edit.Refuses store.profiles e) :
    Refuses store fs (.edit edit) e
  | load {path : String} {e : Failure} (h : Unloadable fs path e) : Refuses store fs (.load path) e

/-- The profiles that an operation is to save. -/
inductive Makes (p : Profiles) : Operation → Profiles → Prop
  | edit {edit : Edit} (allowed : edit.Allowed p) : Makes p (.edit edit) (edit.apply p)
  | save : Makes p .save p

/-- What an operation on a store can come to: how it ends, the store and the files then. -/
inductive Course (vars : Variables) (store : ProfileStore) (fs : Files) :
    Operation → Except Failure Unit → ProfileStore → Files → Prop
  | refused {op : Operation} {e : Failure} (why : op.Refuses store fs e) :
    Course vars store fs op (.error e) store fs
  | unsaved {op : Operation} {p : Profiles} {e : Failure} {fs' : Files}
    (makes : op.Makes store.profiles p)
    (failed : (ProfileStore.save vars { store with profiles := p } fs).value = (.error e, fs')) :
    Course vars store fs op (.error e) { store with profiles := p } fs'
  | saved {op : Operation} {p : Profiles} {fs' : Files} (makes : op.Makes store.profiles p)
    (saved : (ProfileStore.save vars { store with profiles := p } fs).value = (.ok (), fs')) :
    Course vars store fs op (.ok ()) { store with profiles := p } fs'
  | loaded {path : String} {loaded : ProfileStore}
    (h : (ProfileStore.load path fs).value = (.ok loaded, fs)) :
    Course vars store fs (.load path) (.ok ()) loaded fs
  | adjusted (settings : Settings) :
    Course vars store fs (.adjust settings) (.ok ())
      { store with profiles := { store.profiles with settings } } fs

theorem course_of_makes {op : Operation} {p : Profiles} (makes : op.Makes store.profiles p)
    (performed : (op.perform vars store fs).value =
      (saveNow vars { store with profiles := p } fs).value) :
    Course vars store fs op (op.perform vars store fs).value.1.1
      (op.perform vars store fs).value.1.2 (op.perform vars store fs).value.2 := by
  rw [performed, value_saveNow]
  cases saved : (ProfileStore.save vars { store with profiles := p } fs).value with
  | mk outcome fs' =>
    cases outcome with
    | ok u => exact .saved makes saved
    | error e => exact .unsaved makes saved

/-- **Every operation takes one of these courses.** -/
theorem course (vars : Variables) (op : Operation) (store : ProfileStore) (fs : Files) :
    Course vars store fs op (op.perform vars store fs).value.1.1
      (op.perform vars store fs).value.1.2 (op.perform vars store fs).value.2 := by
  cases op with
  | edit edit =>
    rcases edit.allowed_or_refuses store.profiles with allowed | ⟨e, refuses⟩
    · exact course_of_makes (.edit allowed) (Edit.value_perform allowed vars fs)
    · rw [perform, Edit.value_perform_of_refuses refuses]
      exact .refused (.edit refuses)
  | load path =>
    rw [perform, StoreM.bind_runs (StoreM.value_lift _ store fs)]
    rcases value_load path fs with ⟨loaded, h⟩ | ⟨e, unloadable, h⟩
    · rw [h]
      exact .loaded h
    · rw [h]
      exact .refused (.load unloadable)
  | save => exact course_of_makes .save rfl
  | adjust settings => exact .adjusted settings

end Operation

end ProfileStore

end TrainingPortal
