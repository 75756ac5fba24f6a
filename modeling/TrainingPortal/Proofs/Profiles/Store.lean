import TrainingPortal.Profiles.Store
import TrainingPortal.Proofs.Directories
import TrainingPortal.Proofs.Profiles.Document
import TrainingPortal.Proofs.Stateful

/-!
# Profiles and their file

A store that is saved is loaded again as it was (`ProfileStore.save_load`).

* Saving does one of four things (`save_undirected`, `save_unrendered`, `save_refused` and
  `save_runs`), and only the last of them succeeds (`save_inv`).
* What was saved is loaded again (`holds_of_save`), because the file is found where it was written
  and its document is read as the profiles it was written for.
* A change that may be made changes the profiles in memory and saves them (`Edit.value_perform`);
  one that may not is refused and changes nothing (`Edit.perform_refused`).
-/

namespace TrainingPortal

open Text

namespace ProfileStore

theorem value_log (level : LogLevel) (text : String) (fs : Files) :
    (log level text fs).value = (.ok (), fs) := rfl

/-- The file of a store. -/
def file (vars : Variables) (store : ProfileStore) : String := store.path.getD (defaultPath vars)

variable {vars : Variables} {store : ProfileStore} {fs fs₁ fs' : Files}

/-! ## Saving -/

theorem value_prepareDirectory (path : String) (fs : Files) :
    (prepareDirectory path fs).value =
      match fs.withDirectory path with
      | (.ok (), fs) => (.ok (), fs)
      | (.error e, fs) => (.error (.directoryNotCreated ((Path.parent? path).getD "") e), fs) := by
  unfold prepareDirectory Files.withDirectory
  cases Path.parent? path with
  | none => rfl
  | some parent =>
    rw [Stateful.bind_runs (Stateful.value_get fs)]
    dsimp only
    split_ifs
    · generalize fs.makeDirectories parent = made
      obtain ⟨made, fs'⟩ := made
      cases made <;> rfl
    · rfl

theorem prepareDirectory_runs {path : String} (h : fs.withDirectory path = (.ok (), fs')) :
    (prepareDirectory path fs).value = (.ok (), fs') := by
  rw [value_prepareDirectory, h]

section

variable {document : String} {e : FileError}

theorem save_undirected (h : fs.withDirectory (store.file vars) = (.error e, fs')) :
    (save vars store fs).value =
      (.error (.directoryNotCreated ((Path.parent? (store.file vars)).getD "") e), fs') := by
  rw [save, Stateful.bind_runs (value_log _ _ fs)]
  refine Stateful.bind_fails ?_
  rw [file] at h ⊢
  rw [value_prepareDirectory, h]

theorem save_unrendered (prepared : fs.withDirectory (store.file vars) = (.ok (), fs'))
    (rendered : store.profiles.render? = none) :
    (save vars store fs).value = (.error .profilesUnwritable, fs') := by
  rw [save, rendered, Stateful.bind_runs (value_log _ _ fs)]
  exact Stateful.bind_runs (prepareDirectory_runs prepared)

theorem save_refused (prepared : fs.withDirectory (store.file vars) = (.ok (), fs'))
    (rendered : store.profiles.render? = some document)
    (refused : fs'.write (store.file vars) (Utf8.bytes document) = .error e) :
    (save vars store fs).value = (.error (.profilesNotWritten (store.file vars) e), fs') := by
  rw [save, rendered, Stateful.bind_runs (value_log _ _ fs)]
  refine (Stateful.bind_runs (prepareDirectory_runs prepared)).trans
    ((Stateful.bind_runs (Stateful.value_get fs')).trans ?_)
  rw [file] at refused ⊢
  rw [refused]
  rfl

theorem save_runs (prepared : fs.withDirectory (store.file vars) = (.ok (), fs₁))
    (rendered : store.profiles.render? = some document)
    (written : fs₁.write (store.file vars) (Utf8.bytes document) = .ok fs') :
    (save vars store fs).value = (.ok (), fs') := by
  rw [save, rendered, Stateful.bind_runs (value_log _ _ fs)]
  refine (Stateful.bind_runs (prepareDirectory_runs prepared)).trans
    ((Stateful.bind_runs (Stateful.value_get fs₁)).trans ?_)
  rw [file] at written
  rw [written]
  rfl

end

/-- A store was saved only if its document was written to its file. -/
theorem save_inv (h : (save vars store fs).value = (.ok (), fs')) :
    ∃ (document : String) (fs₁ : Files), fs.withDirectory (store.file vars) = (.ok (), fs₁) ∧
      store.profiles.render? = some document ∧
        fs₁.write (store.file vars) (Utf8.bytes document) = .ok fs' := by
  cases prepared : fs.withDirectory (store.file vars) with
  | mk outcome fs₁ =>
    cases outcome with
    | error e => cases (save_undirected prepared).symm.trans h
    | ok u =>
      cases rendered : store.profiles.render? with
      | none => cases (save_unrendered prepared rendered).symm.trans h
      | some document =>
        cases written : fs₁.write (store.file vars) (Utf8.bytes document) with
        | error e => cases (save_refused prepared rendered written).symm.trans h
        | ok fs₂ =>
          obtain rfl : fs₂ = fs' := by
            cases (save_runs prepared rendered written).symm.trans h
            rfl
          exact ⟨document, fs₁, rfl, rfl, written⟩

/-- Where a store was saved, it can be saved again. -/
theorem writable_of_save (h : (save vars store fs).value = (.ok (), fs')) :
    fs'.Writable (store.file vars) := by
  obtain ⟨document, fs₁, prepared, -, written⟩ := save_inv h
  exact Files.writable_write prepared written

theorem exists_save (fits : store.profiles.settings.Fits)
    (writable : fs.Writable (store.file vars)) :
    ∃ fs', (save vars store fs).value = (.ok (), fs') := by
  obtain ⟨fs₁, prepared, accepts⟩ := writable
  obtain ⟨document, rendered⟩ := store.profiles.render?_isSome.2 fits
  obtain ⟨fs', written⟩ := Files.exists_write accepts (Utf8.bytes document)
  exact ⟨fs', save_runs prepared rendered written⟩

/-- Where the limits of calls do not fit, nothing is saved, wherever the file is. -/
theorem exists_error_of_unfit (unfit : ¬ store.profiles.settings.Fits) :
    ∃ e fs', (save vars store fs).value = (.error e, fs') ∧
      (fs.Writable (store.file vars) → e = .profilesUnwritable) := by
  have rendered : store.profiles.render? = none := by
    by_contra some
    exact unfit (store.profiles.render?_isSome.1 (Option.ne_none_iff_exists'.1 some))
  cases prepared : fs.withDirectory (store.file vars) with
  | mk outcome fs₁ =>
    cases outcome with
    | error e =>
      refine ⟨_, _, save_undirected prepared, fun ⟨_, made, _⟩ => ?_⟩
      cases prepared.symm.trans made
    | ok u => exact ⟨_, _, save_unrendered prepared rendered, fun _ => rfl⟩

/-! ## Loading -/

/-- Whether loading the file at a path gives certain profiles and leaves the tree as it is. -/
def Holds (fs : Files) (path : String) (p : Profiles) : Prop :=
  (load path fs).value = (.ok { profiles := p, path := some path }, fs)

theorem holds_of_read {path document : String} {p : Profiles} (there : fs.exists? path = true)
    (read : fs.readText path = .ok document) (reads : Profiles.ofDocument? document = some p) :
    Holds fs path p := by
  rw [Holds, load, Stateful.bind_runs (value_log _ _ fs)]
  refine (Stateful.bind_runs (Stateful.value_get fs)).trans ?_
  rw [there, if_neg (by decide), read]
  dsimp only
  rw [reads]
  rfl

/-- **What was saved is loaded again.** -/
theorem holds_of_save (h : (save vars store fs).value = (.ok (), fs')) :
    Holds fs' (store.file vars) store.profiles := by
  obtain ⟨document, fs₁, -, rendered, written⟩ := save_inv h
  obtain ⟨there, read⟩ := Files.readText_write written
  exact holds_of_read there read (Profiles.ofDocument?_render rendered)

/-! ## Changing -/

namespace StoreM

variable {α β : Type} {x : StoreM α} {f : α → StoreM β} {store' : ProfileStore}

theorem value_bind (x : StoreM α) (f : α → StoreM β) (store : ProfileStore) (fs : Files) :
    ((x >>= f) store fs).value = match (x store fs).value with
      | ((.ok a, store), fs) => (f a store fs).value
      | ((.error e, store), fs) => ((.error e, store), fs) := by
  change (ExceptT.bindCont f (x store fs).value.1.1 (x store fs).value.1.2
    (x store fs).value.2).value = _
  generalize (x store fs).value = result
  obtain ⟨⟨outcome, store⟩, fs⟩ := result
  cases outcome <;> rfl

theorem bind_runs {a : α} (h : (x store fs).value = ((.ok a, store'), fs')) :
    ((x >>= f) store fs).value = (f a store' fs').value := by
  rw [value_bind, h]

theorem bind_fails {e : Failure} (h : (x store fs).value = ((.error e, store'), fs')) :
    ((x >>= f) store fs).value = ((.error e, store'), fs') := by
  rw [value_bind, h]

theorem value_get (store : ProfileStore) (fs : Files) :
    ((get : StoreM ProfileStore) store fs).value = ((.ok store, store), fs) :=
  rfl

theorem value_throw (e : Failure) (store : ProfileStore) (fs : Files) :
    ((throw e : StoreM α) store fs).value = ((.error e, store), fs) :=
  rfl

theorem value_lift (x : FilesM α) (store : ProfileStore) (fs : Files) :
    ((liftM x.run : StoreM (Except Failure α)) store fs).value =
      ((.ok (x fs).value.1, store), (x fs).value.2) :=
  rfl

end StoreM

theorem value_note (level : LogLevel) (text : String) (store : ProfileStore) (fs : Files) :
    (note level text store fs).value = ((.ok (), store), fs) :=
  rfl

theorem value_change (f : Profiles → Profiles) (store : ProfileStore) (fs : Files) :
    (change f store fs).value = ((.ok (), { store with profiles := f store.profiles }), fs) :=
  rfl

theorem value_saveNow (vars : Variables) (store : ProfileStore) (fs : Files) :
    (saveNow vars store fs).value =
      (((save vars store fs).value.1, store), (save vars store fs).value.2) := by
  rw [saveNow, StoreM.bind_runs (StoreM.value_get store fs),
    StoreM.bind_runs (StoreM.value_lift _ store fs)]
  cases (save vars store fs).value.1 <;> rfl

theorem value_add {c : Credentials} (valid : c.validate = .ok ()) (vars : Variables) (name : String)
    (store : ProfileStore) (fs : Files) :
    (add vars name c store fs).value =
      (saveNow vars { store with profiles := store.profiles.add name c } fs).value := by
  rw [add, valid]
  -- only the store that is saved matters, not what saving it does
  generalize saveNow vars = save
  dsimp only
  rw [StoreM.bind_runs (value_note _ _ store fs), StoreM.bind_runs (StoreM.value_get store fs)]
  split_ifs
  · rw [StoreM.bind_runs (value_change _ store fs), StoreM.bind_runs (value_note _ _ _ fs)]
  · rw [StoreM.bind_runs (value_change _ store fs)]

theorem value_select {name : String} (known : store.profiles.portals.contains name = true)
    (vars : Variables) (fs : Files) :
    (select vars name store fs).value =
      (saveNow vars { store with profiles := store.profiles.select name } fs).value := by
  rw [select]
  generalize saveNow vars = save
  rw [StoreM.bind_runs (StoreM.value_get store fs), known, if_neg (by decide),
    StoreM.bind_runs (value_note _ _ store fs), StoreM.bind_runs (value_change _ store fs)]

theorem value_remove {name : String} (known : store.profiles.portals.contains name = true)
    (vars : Variables) (fs : Files) :
    (remove vars name store fs).value =
      (saveNow vars { store with profiles := store.profiles.remove name } fs).value := by
  rw [remove]
  generalize saveNow vars = save
  rw [StoreM.bind_runs (StoreM.value_get store fs), known, if_neg (by decide),
    StoreM.bind_runs (value_note _ _ store fs), StoreM.bind_runs (StoreM.value_get store fs)]
  split_ifs
  · rw [StoreM.bind_runs (value_note _ _ store fs), StoreM.bind_runs (value_change _ store fs)]
  · rw [StoreM.bind_runs (value_change _ store fs)]

/-- A change to the profiles. -/
inductive Edit
  | add (name : String) (c : Credentials)
  | select (name : String)
  | remove (name : String)

namespace Edit

/-- The computation that makes a change and saves. -/
def perform (vars : Variables) : Edit → StoreM Unit
  | add name c => ProfileStore.add vars name c
  | select name => ProfileStore.select vars name
  | remove name => ProfileStore.remove vars name

/-- The profiles after a change. -/
def apply : Edit → Profiles → Profiles
  | add name c, p => p.add name c
  | select name, p => p.select name
  | remove name, p => p.remove name

/-- Whether a change may be made: credentials that are added are valid, and any other change is to
a profile that is there. -/
def Allowed : Edit → Profiles → Prop
  | add _ c, _ => c.validate = .ok ()
  | select name, p => p.portals.contains name = true
  | remove name, p => p.portals.contains name = true

@[simp] theorem settings_apply (edit : Edit) (p : Profiles) :
    (edit.apply p).settings = p.settings := by
  cases edit <;> rfl

/-- A change that may be made is made in memory, and the store is saved. -/
theorem value_perform {edit : Edit} (allowed : edit.Allowed store.profiles) (vars : Variables)
    (fs : Files) :
    (edit.perform vars store fs).value =
      (saveNow vars { store with profiles := edit.apply store.profiles } fs).value := by
  cases edit with
  | add name c => exact value_add allowed vars name store fs
  | select name => exact value_select allowed vars fs
  | remove name => exact value_remove allowed vars fs

/-- Why a change is not made. -/
inductive Refuses (p : Profiles) : Edit → Failure → Prop
  | invalid {name : String} {c : Credentials} {e : PortalError} (h : c.validate = .error e) :
    Refuses p (.add name c) (.portal e)
  | unknownSelected {name : String} (h : p.portals.contains name = false) :
    Refuses p (.select name) (.profileUnknown name)
  | unknownRemoved {name : String} (h : p.portals.contains name = false) :
    Refuses p (.remove name) (.profileUnknown name)

theorem allowed_or_refuses (edit : Edit) (p : Profiles) :
    edit.Allowed p ∨ ∃ e, edit.Refuses p e := by
  cases edit with
  | add name c =>
    cases valid : c.validate with
    | ok u => exact .inl valid
    | error e => exact .inr ⟨_, .invalid valid⟩
  | select name =>
    cases known : p.portals.contains name with
    | true => exact .inl known
    | false => exact .inr ⟨_, .unknownSelected known⟩
  | remove name =>
    cases known : p.portals.contains name with
    | true => exact .inl known
    | false => exact .inr ⟨_, .unknownRemoved known⟩

/-- A change that is refused leaves everything as it is. -/
theorem value_perform_of_refuses {edit : Edit} {e : Failure}
    (h : edit.Refuses store.profiles e)
    (vars : Variables) (fs : Files) :
    (edit.perform vars store fs).value = ((.error e, store), fs) := by
  cases h with
  | invalid invalid =>
    rw [perform, ProfileStore.add, invalid]
    rfl
  | unknownSelected unknown =>
    rw [perform, ProfileStore.select, StoreM.bind_runs (StoreM.value_get store fs), unknown]
    exact StoreM.bind_fails (StoreM.value_throw _ store fs)
  | unknownRemoved unknown =>
    rw [perform, ProfileStore.remove, StoreM.bind_runs (StoreM.value_get store fs), unknown]
    exact StoreM.bind_fails (StoreM.value_throw _ store fs)

/-- A change that may not be made is refused: the store and its file stay as they are. -/
theorem perform_refused {edit : Edit} (refused : ¬ edit.Allowed store.profiles) (vars : Variables)
    (fs : Files) : ∃ e, (edit.perform vars store fs).value = ((.error e, store), fs) := by
  obtain ⟨e, refuses⟩ := (edit.allowed_or_refuses store.profiles).resolve_left refused
  exact ⟨e, value_perform_of_refuses refuses vars fs⟩

/-- A change that succeeds was made in memory, and the changed store was saved. -/
theorem perform_inv {edit : Edit} {store' : ProfileStore}
    (h : (edit.perform vars store fs).value = ((.ok (), store'), fs')) :
    store' = { store with profiles := edit.apply store.profiles } ∧
      (save vars store' fs).value = (.ok (), fs') := by
  by_cases allowed : edit.Allowed store.profiles
  · rw [value_perform allowed, value_saveNow] at h
    obtain ⟨saved, rfl⟩ := Prod.mk.inj h
    obtain ⟨saved, rfl⟩ := Prod.mk.inj saved
    exact ⟨rfl, Prod.ext (Prod.mk.inj saved).1 rfl⟩
  · obtain ⟨e, refused⟩ := perform_refused allowed vars fs
    cases refused.symm.trans h

/-- A change that may be made succeeds where the profiles can be saved. -/
theorem exists_perform {edit : Edit} (allowed : edit.Allowed store.profiles)
    (fits : store.profiles.settings.Fits) (writable : fs.Writable (store.file vars)) :
    ∃ fs', (edit.perform vars store fs).value =
      ((.ok (), { store with profiles := edit.apply store.profiles }), fs') := by
  obtain ⟨fs', saved⟩ := @exists_save vars { store with profiles := edit.apply store.profiles } fs
    (by simpa using fits) writable
  exact ⟨fs', by rw [value_perform allowed, value_saveNow, saved]⟩

end Edit

/-! ## Saved and loaded again -/

/-- **What was saved is loaded again, whatever the profiles hold.** If the limits of calls fit into
a document, saving succeeds wherever a file can be written, and the file then holds the profiles; if
one of them does not fit, saving fails. A change that may be made succeeds under the same
conditions, and after every change that succeeds the file holds what is in memory. -/
theorem save_load (vars : Variables) :
    (∀ (store : ProfileStore) (fs : Files), store.profiles.settings.Fits →
      fs.Writable (store.file vars) →
        ∃ fs', (save vars store fs).value = (.ok (), fs') ∧
          Holds fs' (store.file vars) store.profiles) ∧
    (∀ (store : ProfileStore) (fs : Files), ¬ store.profiles.settings.Fits →
      ∃ e fs', (save vars store fs).value = (.error e, fs') ∧
        (fs.Writable (store.file vars) → e = .profilesUnwritable)) ∧
    (∀ (edit : Edit) (store : ProfileStore) (fs : Files), edit.Allowed store.profiles →
      store.profiles.settings.Fits → fs.Writable (store.file vars) →
        ∃ store' fs', (edit.perform vars store fs).value = ((.ok (), store'), fs')) ∧
    ∀ (edit : Edit) (store store' : ProfileStore) (fs fs' : Files),
      (edit.perform vars store fs).value = ((.ok (), store'), fs') →
        store' = { store with profiles := edit.apply store.profiles } ∧
          Holds fs' (store'.file vars) store'.profiles := by
  refine ⟨fun store fs fits writable => ?_, fun store fs unfit => exists_error_of_unfit unfit,
    fun edit store fs allowed fits writable => ⟨_, Edit.exists_perform allowed fits writable⟩,
    fun edit store store' fs fs' performed => ?_⟩
  · obtain ⟨fs', saved⟩ := exists_save fits writable
    exact ⟨fs', saved, holds_of_save saved⟩
  · obtain ⟨made, saved⟩ := Edit.perform_inv performed
    exact ⟨made, holds_of_save saved⟩

/-- Profiles kept in a file whose directory is missing from an empty tree. -/
def nested (p : Profiles) : ProfileStore where
  profiles := p
  path := some (Path.ofNames ["nested".toList, "config.toml".toList])

theorem writable_nested (p : Profiles) (vars : Variables) :
    Files.Writable {} ((nested p).file vars) := by
  have clear : Files.Clear {} ["nested".toList] := by
    intro place _
    unfold Files.entry?
    split_ifs
    · exact .inr rfl
    · exact .inl rfl
  exact @Files.writable_ofNames {} ["nested".toList] "config.toml".toList (by decide +kernel) clear
    (by decide +kernel)

/-- Credentials of all kinds of characters. -/
def oddCredentials : Credentials :=
  ⟨"http://a", "\"\"\"", "'''\n", "a\\.b\r\n", "\x00\x7f\uFEFF", ["", "\"'\n"]⟩

/-- A name and credentials of all kinds of characters are kept, and a limit that does not fit is
not. -/
theorem save_load_nested :
    (∃ fs', (save [] (nested {}) {}).value = (.ok (), fs') ∧
        Holds fs' ((nested {}).file []) {}) ∧
      (∃ fs', (save [] (nested { settings.httpTimeout := 0x8000000000000000 }) {}).value =
        (.error .profilesUnwritable, fs')) ∧
      ∃ fs', ((Edit.add "a.\n\"b'" oddCredentials).perform [] (nested {}) {}).value =
          ((.ok (), nested (({} : Profiles).add "a.\n\"b'" oddCredentials)), fs') ∧
        Holds fs' ((nested {}).file []) (({} : Profiles).add "a.\n\"b'" oddCredentials) := by
  have fits : Settings.Fits {} := by decide
  have writable := writable_nested {} []
  obtain ⟨saves, fails, succeeds, changes⟩ := save_load []
  refine ⟨saves (nested {}) {} fits writable, ?_, ?_⟩
  · obtain ⟨e, fs', failed, unwritable⟩ := fails
      (nested { settings.httpTimeout := 0x8000000000000000 }) {} (by decide)
    obtain rfl := unwritable (writable_nested _ [])
    exact ⟨fs', failed⟩
  · have allowed : (Edit.add "a.\n\"b'" oddCredentials).Allowed (nested {}).profiles := by
      change oddCredentials.validate = .ok ()
      decide +kernel
    obtain ⟨store', fs', performed⟩ := succeeds _ (nested {}) {} allowed fits writable
    obtain ⟨rfl, holds⟩ := changes _ _ _ _ _ performed
    exact ⟨fs', performed, holds⟩

end ProfileStore

end TrainingPortal
