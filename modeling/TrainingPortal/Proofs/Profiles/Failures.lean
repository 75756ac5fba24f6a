import TrainingPortal.Proofs.Parents
import TrainingPortal.Proofs.Profiles.Operations

/-!
# What a failure leaves

An operation on a store that is refused leaves everything as it is. One whose result cannot be saved
leaves in memory what it would have left had it been saved, and does not touch any file; all that it
may leave behind are directories (`Operation.failure_leaves`), and none of them is where the path of
the store leads (`Unsaved.exists?_eq`).

Directories that are left behind can make a path lead to a file that it did not lead to before, if
the path goes up again from one of them (`found_after_failure`).
-/

namespace TrainingPortal

open Text

namespace Files

/-- A tree with the same files as another one, found on the same paths, those apart that go up from
something that was missing. -/
structure SameFiles (fs fs' : Files) : Prop where
  places : ∀ place content,
    fs'.entry? place = some (.file content) ↔ fs.entry? place = some (.file content)
  found : ∀ path content, fs.read path = .ok content → fs'.read path = .ok content
  missing : Sound fs → ∀ path, ¬ fs.GoesUpFromMissing path →
    ∀ content, fs'.read path = .ok content → fs.read path = .ok content

theorem Grows.sameFiles {fs fs' : Files} (h : Grows fs fs') : SameFiles fs fs' where
  places _ _ := h.entry?_file_iff
  found _ _ := h.read_of_read
  missing sound _ down _ := (h.read_iff sound down).1

end Files

namespace ProfileStore

variable {vars : Variables} {store store' : ProfileStore} {fs fs' : Files} {e : Failure}

/-- Why a store is not saved, and the tree that this leaves. -/
inductive Unsaved (vars : Variables) (store : ProfileStore) (fs fs' : Files) : Failure → Prop
  | undirected {cause : FileError}
    (h : fs.withDirectory (store.file vars) = (.error cause, fs')) :
    Unsaved vars store fs fs'
      (.directoryNotCreated ((Path.parent? (store.file vars)).getD "") cause)
  | unwritable (prepared : fs.withDirectory (store.file vars) = (.ok (), fs'))
    (h : ¬ store.profiles.settings.Fits) : Unsaved vars store fs fs' .profilesUnwritable
  | unaccepted {cause : FileError} (prepared : fs.withDirectory (store.file vars) = (.ok (), fs'))
    (document : String) (rendered : store.profiles.render? = some document)
    (h : fs'.write (store.file vars) (Utf8.bytes document) = .error cause) :
    Unsaved vars store fs fs' (.profilesNotWritten (store.file vars) cause)

/-- Saving fails for one of these reasons. -/
theorem unsaved_of_save (h : (save vars store fs).value = (.error e, fs')) :
    Unsaved vars store fs fs' e := by
  cases prepared : fs.withDirectory (store.file vars) with
  | mk outcome fs₁ =>
    cases outcome with
    | error cause =>
      cases (save_undirected prepared).symm.trans h
      exact .undirected prepared
    | ok u =>
      cases rendered : store.profiles.render? with
      | none =>
        cases (save_unrendered prepared rendered).symm.trans h
        refine .unwritable prepared fun fits => ?_
        obtain ⟨document, some⟩ := store.profiles.render?_isSome.2 fits
        cases rendered.symm.trans some
      | some document =>
        cases written : fs₁.write (store.file vars) (Utf8.bytes document) with
        | error cause =>
          cases (save_refused prepared rendered written).symm.trans h
          exact .unaccepted prepared document rendered written
        | ok fs₂ => cases (save_runs prepared rendered written).symm.trans h

theorem Unsaved.prepared (h : Unsaved vars store fs fs' e) :
    ∃ outcome, fs.withDirectory (store.file vars) = (outcome, fs') := by
  cases h with
  | undirected prepared | unwritable prepared | unaccepted prepared => exact ⟨_, prepared⟩

theorem Unsaved.grows (h : Unsaved vars store fs fs' e) : Files.Grows fs fs' := by
  obtain ⟨outcome, prepared⟩ := h.prepared
  exact Files.grows_of_withDirectory prepared

/-- Where a store cannot be saved, its path leads to something exactly if it did before. -/
theorem Unsaved.exists?_eq (h : Unsaved vars store fs fs' e) (sound : fs.Sound)
    (down : ¬ fs.GoesUpFromMissing (store.file vars)) :
    fs'.exists? (store.file vars) = fs.exists? (store.file vars) := by
  obtain ⟨outcome, prepared⟩ := h.prepared
  exact Files.exists?_of_withDirectory prepared sound down

namespace Operation

variable {op : Operation} {p p' q : Profiles}

theorem Makes.unique (h : op.Makes p q) (h' : op.Makes p p') : q = p' := by
  cases h <;> cases h' <;> rfl

/-- What an operation that succeeds leaves in memory is what it makes. -/
theorem Makes.eq_of_perform (makes : op.Makes store.profiles p)
    (h : (op.perform vars store fs).value = ((.ok (), store'), fs')) :
    store' = { store with profiles := p } := by
  have course := op.course vars store fs
  rw [h] at course
  cases course with
  | saved makes' => rw [makes.unique makes']
  | loaded | adjusted => cases makes

/-- No operation leaves gaps in a tree. -/
theorem sound_perform (vars : Variables) (op : Operation) (store : ProfileStore)
    (sound : fs.Sound) : (op.perform vars store fs).value.2.Sound := by
  have course := op.course vars store fs
  generalize (op.perform vars store fs).value = result at course ⊢
  obtain ⟨⟨outcome, store'⟩, fs'⟩ := result
  cases course with
  | refused | loaded | adjusted => exact sound
  | unsaved makes failed => exact (unsaved_of_save failed).grows.sound sound
  | saved makes saved =>
    obtain ⟨document, fs₁, prepared, -, written⟩ := save_inv saved
    exact ((Files.grows_of_withDirectory prepared).sound sound).write written

/-- **What a failure leaves.** Either the operation was refused, and the store and the files are as
they were. Or what it makes of the profiles is in memory, as it is wherever the operation succeeds,
but could not be saved: it is kept as soon as saving it succeeds, and until then no file was
created, changed or removed, and the path of the store leads to something only if it did before. -/
theorem failure_leaves (h : (op.perform vars store fs).value = ((.error e, store'), fs')) :
    (op.Refuses store fs e ∧ store' = store ∧ fs' = fs) ∨
    ∃ p, op.Makes store.profiles p ∧ Unsaved vars store' fs fs' e ∧
      store' = { store with profiles := p } ∧
      (∀ vars₁ fs₁ fs₂ store₁,
        (op.perform vars₁ store fs₁).value = ((.ok (), store₁), fs₂) → store₁ = store') ∧
      (∀ vars₁ fs₁ fs₂, (ProfileStore.save vars₁ store' fs₁).value = (.ok (), fs₂) →
        Holds fs₂ (store'.file vars₁) p) ∧
      fs.SameFiles fs' ∧
      (fs.Sound → ¬ fs.GoesUpFromMissing (store.file vars) →
        fs'.exists? (store.file vars) = fs.exists? (store.file vars)) := by
  have course := op.course vars store fs
  rw [h] at course
  cases course with
  | refused why => exact .inl ⟨why, rfl, rfl⟩
  | unsaved makes failed =>
    have unsaved := unsaved_of_save failed
    exact .inr ⟨_, makes, unsaved, rfl, fun vars₁ fs₁ fs₂ store₁ done => makes.eq_of_perform done,
      fun vars₁ fs₁ fs₂ saved => holds_of_save saved, unsaved.grows.sameFiles, unsaved.exists?_eq⟩

/-- Profiles that no document holds, to be kept at a path. -/
def unsavable (path : String) : ProfileStore where
  profiles := { settings.httpTimeout := 0x8000000000000000 }
  path := some path

/-- A tree with an empty file. -/
def oneFile : Files := ⟨[], [(["config.toml".toList], .file [])]⟩

/-- A profile that is added and not saved is in memory, and the directory that was created for its
file contains no file. -/
theorem failure_leaves_directory :
    let store := unsavable "new/config.toml"
    let added := { store with profiles := store.profiles.add "a" oddCredentials }
    oneFile.Sound ∧ ¬ oneFile.GoesUpFromMissing (store.file []) ∧
      ∃ fs', ((Operation.edit (.add "a" oddCredentials)).perform [] store oneFile).value =
          ((.error .profilesUnwritable, added), fs') ∧
        fs'.entry? ["new".toList] = some .directory ∧ oneFile.SameFiles fs' ∧
        fs'.exists? (store.file []) = oneFile.exists? (store.file []) := by
  intro store added
  have outcome : ((Operation.edit (.add "a" oddCredentials)).perform []
      store oneFile).value.1.1 = .error .profilesUnwritable := by decide +kernel
  have directory : Files.entry? ((Operation.edit (.add "a" oddCredentials)).perform []
      store oneFile).value.2 ["new".toList] = some .directory := by decide +kernel
  generalize performed : ((Operation.edit (.add "a" oddCredentials)).perform []
    store oneFile).value = result at outcome directory ⊢
  obtain ⟨⟨_, store'⟩, fs'⟩ := result
  obtain rfl : _ = Except.error Failure.profilesUnwritable := outcome
  have sound : oneFile.Sound := Files.sound_of_entries (by decide)
  have down : ¬ oneFile.GoesUpFromMissing (store.file []) :=
    Files.not_goesUpFromMissing (by decide)
  obtain ⟨refused, -⟩ | ⟨p, makes, -, rfl, -, -, same, absent⟩ := failure_leaves performed
  · cases refused with
    | edit refused => cases refused
  · cases makes
    exact ⟨sound, down, fs', rfl, directory, same, absent sound down⟩

/-- Such profiles with a path that goes up from a directory. -/
def upward : ProfileStore := unsavable "new/../config.toml"

/-- A file that is not found before is found after a failure. -/
theorem found_after_failure :
    let after := ((Operation.edit (.add "a" oddCredentials)).perform [] upward oneFile).value
    after.1.1 = .error .profilesUnwritable ∧ oneFile.read (upward.file []) = .error .notFound ∧
      after.2.read (upward.file []) = .ok [] ∧
      ¬ ∀ content, after.2.read (upward.file []) = .ok content ↔
        oneFile.read (upward.file []) = .ok content := by
  intro after
  have missing : oneFile.read (upward.file []) = .error .notFound := by decide +kernel
  have found : after.2.read (upward.file []) = .ok [] := by decide +kernel
  refine ⟨by decide +kernel, missing, found, fun same => ?_⟩
  cases missing.symm.trans ((same []).1 found)

end Operation

end ProfileStore

end TrainingPortal
