import TrainingPortal.Proofs.Profiles.Registry
import TrainingPortal.Run.Commands

/-!
# One run of the program after another

Runs of the program for commands on profiles, which know of each other only through the file that
they load and save, are the commands on a registry (`Launch.refines_registry`).

One run is one command (`Launch.outcome_step`): where the command succeeds on the registry of the
profiles kept in the file, the run succeeds, the file then keeps profiles of the registry that the
command makes, and it can still be written; where the command fails, the run fails and leaves the
world as it was. The rest is induction over the runs.
-/

namespace TrainingPortal

open Text

/-! ## What is kept in a file -/

namespace ProfileStore

/-- The profiles kept at a path: those in the document there, and none where no file is. -/
inductive Keeps (fs : Files) (path : String) : Profiles → Prop
  | missing (h : fs.exists? path = false) : Keeps fs path {}
  | document {document : String} {p : Profiles} (read : fs.readText path = .ok document)
    (reads : Profiles.ofDocument? document = some p) : Keeps fs path p

variable {vars : Variables} {store : ProfileStore} {fs fs' : Files} {path : String} {p : Profiles}

theorem Keeps.fits (h : Keeps fs path p) : p.settings.Fits := by
  cases h with
  | missing => exact (by decide : ({} : Settings).Fits)
  | document _ reads => exact Profiles.fits_of_document reads

theorem exists?_of_readText {document : String} (h : fs.readText path = .ok document) :
    fs.exists? path = true := by
  obtain ⟨content, read, -⟩ := bind_eq_ok_iff.1 h
  exact Files.exists?_of_read read

theorem Keeps.holds (h : Keeps fs path p) : Holds fs path p := by
  cases h with
  | missing missing =>
    rw [Holds, load, Stateful.bind_runs (value_log _ _ fs)]
    refine (Stateful.bind_runs (Stateful.value_get fs)).trans ?_
    rw [missing]
    rfl
  | document read reads => exact holds_of_read (exists?_of_readText read) read reads

theorem keeps_of_save (h : (save vars store fs).value = (.ok (), fs')) :
    Keeps fs' (store.file vars) store.profiles := by
  obtain ⟨document, fs₁, -, rendered, written⟩ := save_inv h
  exact .document (Files.readText_write written).2 (Profiles.ofDocument?_render rendered)

end ProfileStore

open ProfileStore

/-! ## Commands in steps -/

namespace CommandM

theorem value_lift {α : Type} (x : Traced α) (world : World) :
    ((liftM x : CommandM α) world).value = (.ok x.value, world) :=
  rfl

theorem value_onFiles {α : Type} (x : FilesM α) (world : World) :
    (onFiles x world).value =
      ((x world.files).value.1, { world with files := (x world.files).value.2 }) := by
  rw [onFiles, Stateful.bind_runs (Stateful.value_get world)]
  refine (Stateful.bind_runs (value_lift (x world.files) world)).trans ?_
  obtain ⟨outcome, files⟩ := (x world.files).value
  cases outcome <;> rfl

theorem value_onStore (x : StoreM Unit) (store : ProfileStore) (world : World) :
    (onStore x store world).value =
      ((x store world.files).value.1.1.map fun _ => (x store world.files).value.1.2,
        { world with files := (x store world.files).value.2 }) := by
  rw [onStore, Stateful.bind_runs (Stateful.value_get world)]
  refine (Stateful.bind_runs (value_lift (x store world.files) world)).trans ?_
  obtain ⟨⟨outcome, store⟩, files⟩ := (x store world.files).value
  cases outcome <;> rfl

theorem value_print (line : String) (world : World) :
    (print line world).value = (.ok (), world) :=
  rfl

theorem value_forM_print (lines : List String) (world : World) :
    (lines.forM print world).value = (.ok (), world) := by
  induction lines with
  | nil => rfl
  | cons line lines ih => exact (Stateful.bind_runs (value_print line world)).trans ih

end CommandM

section

open CommandM

variable {vars : Variables} {path : String} {p : Profiles} {world : World} {edit : Edit}

theorem value_edit_of_allowed (allowed : edit.Allowed p) (keeps : Keeps world.files path p)
    (writable : world.files.Writable path) :
    ∃ world', (onStore (edit.perform vars) ⟨p, some path⟩ world).value =
        (.ok ⟨edit.apply p, some path⟩, world') ∧
      Keeps world'.files path (edit.apply p) ∧ world'.files.Writable path := by
  obtain ⟨fs, performed⟩ :=
    @Edit.exists_perform vars ⟨p, some path⟩ world.files edit allowed keeps.fits writable
  obtain ⟨-, saved⟩ := Edit.perform_inv performed
  refine ⟨{ world with files := fs }, ?_, keeps_of_save saved, writable_of_save saved⟩
  rw [value_onStore, performed]
  rfl

theorem value_edit_of_refused (refused : ¬ edit.Allowed p) :
    ∃ e, (onStore (edit.perform vars) ⟨p, some path⟩ world).value = (.error e, world) := by
  obtain ⟨e, refused⟩ :=
    @Edit.perform_refused ⟨p, some path⟩ edit refused vars world.files
  refine ⟨e, ?_⟩
  rw [value_onStore, refused]
  rfl

end

/-! ## One run -/

/-- A run of the program for a command on profiles. -/
structure Launch where
  around : Surroundings
  options : CommonOptions
  command : ProfileCommand

namespace Launch

/-- The report of a run. -/
def report (l : Launch) (world : World) : Run.Report :=
  Run.report l.around ⟨l.options, l.command.action⟩ world

/-- The path of the file of profiles. -/
def path (l : Launch) : String := defaultPath l.around.vars

/-- What a run comes to: how its command ends, and the world then. -/
def outcome (l : Launch) (world : World) : Except Failure Unit × World :=
  (Run.run l.around ⟨l.options, l.command.action⟩ world).value

theorem world_report (l : Launch) (world : World) :
    (l.report world).world = (l.outcome world).2 := by
  unfold report outcome Run.report
  rfl

theorem failure_report (l : Launch) (world : World) :
    (l.report world).failure = match (l.outcome world).1 with
      | .ok () => none
      | .error e => some e := by
  unfold report outcome Run.report
  rfl

variable {l : Launch} {p : Profiles} {world : World} {r : Registry}

/-- A run performs its command on the profiles kept in its file. -/
theorem outcome_of_keeps (keeps : Keeps world.files l.path p) :
    l.outcome world = (Run.perform l.around ⟨p, some l.path⟩
      ⟨l.options, l.command.action⟩ world).value := by
  have loaded : (CommandM.onFiles (load l.path) world).value =
      (.ok ⟨p, some l.path⟩, world) := by
    rw [CommandM.value_onFiles, keeps.holds]
  rw [outcome, Run.run]
  exact (Stateful.bind_runs loaded).trans (Stateful.bind_runs (CommandM.value_lift _ world))

theorem outcome_list (keeps : Keeps world.files l.path p) (h : l.command = .list) :
    l.outcome world = (.ok (), world) := by
  rw [outcome_of_keeps keeps, h]
  simp only [Run.perform, ProfileCommand.action, Run.list]
  cases l.options.output with
  | json => rfl
  | text => exact CommandM.value_forM_print _ world

section

variable {edit : Edit}

theorem outcome_edit (keeps : Keeps world.files l.path p) (h : l.command = edit.command) :
    ∃ line, l.outcome world = ((CommandM.onStore (edit.perform l.around.vars) ⟨p, some l.path⟩ >>=
      fun _ => CommandM.print line) world).value := by
  rw [outcome_of_keeps keeps, h]
  cases edit <;> exact ⟨_, rfl⟩

theorem outcome_edit_of_allowed (keeps : Keeps world.files l.path p)
    (writable : world.files.Writable l.path) (h : l.command = edit.command)
    (allowed : edit.Allowed p) :
    ∃ world', l.outcome world = (.ok (), world') ∧ Keeps world'.files l.path (edit.apply p) ∧
      world'.files.Writable l.path := by
  obtain ⟨line, outcome⟩ := outcome_edit keeps h
  obtain ⟨world', made, keeps', writable'⟩ :=
    @value_edit_of_allowed l.around.vars _ p world edit allowed keeps writable
  exact ⟨world', outcome.trans (Stateful.bind_runs made), keeps', writable'⟩

theorem outcome_edit_of_refused (keeps : Keeps world.files l.path p)
    (h : l.command = edit.command) (refused : ¬ edit.Allowed p) :
    ∃ e, l.outcome world = (.error e, world) := by
  obtain ⟨line, outcome⟩ := outcome_edit keeps h
  obtain ⟨e, fails⟩ := @value_edit_of_refused l.around.vars l.path p world edit refused
  exact ⟨e, outcome.trans (Stateful.bind_fails fails)⟩

end

section

variable {name : String} {c : Credentials}

theorem outcome_add (keeps : Keeps world.files l.path p) (h : l.command = .add name c true) :
    ∃ line, l.outcome world =
      ((CommandM.onStore ((Edit.add name c).perform l.around.vars) ⟨p, some l.path⟩ >>= fun store =>
        CommandM.onStore ((Edit.select name).perform l.around.vars) store >>= fun _ =>
          CommandM.print line) world).value := by
  rw [outcome_of_keeps keeps, h]
  exact ⟨_, rfl⟩

/-- Credentials that are added and made current are saved twice. -/
theorem outcome_add_of_valid (keeps : Keeps world.files l.path p)
    (writable : world.files.Writable l.path) (h : l.command = .add name c true)
    (valid : c.validate = .ok ()) :
    ∃ world', l.outcome world = (.ok (), world') ∧
      Keeps world'.files l.path ((p.add name c).select name) ∧
      world'.files.Writable l.path := by
  obtain ⟨line, outcome⟩ := outcome_add keeps h
  obtain ⟨world₁, added, keeps₁, writable₁⟩ :=
    @value_edit_of_allowed l.around.vars _ p world (.add name c) valid keeps writable
  have known : (p.add name c).portals.contains name = true := by
    rw [Profiles.add, ProfileTable.contains, ProfileTable.get?_insert, if_pos rfl]
    rfl
  obtain ⟨world₂, selected, keeps₂, writable₂⟩ :=
    @value_edit_of_allowed l.around.vars _ (p.add name c) world₁ (.select name) known keeps₁
      writable₁
  refine ⟨world₂, outcome.trans ?_, keeps₂, writable₂⟩
  exact (Stateful.bind_runs added).trans (Stateful.bind_runs selected)

theorem outcome_add_of_invalid (keeps : Keeps world.files l.path p)
    (h : l.command = .add name c true) (invalid : c.validate ≠ .ok ()) :
    ∃ e, l.outcome world = (.error e, world) := by
  obtain ⟨line, outcome⟩ := outcome_add keeps h
  obtain ⟨e, fails⟩ := @value_edit_of_refused l.around.vars l.path p world (.add name c) invalid
  exact ⟨e, outcome.trans (Stateful.bind_fails fails)⟩

end

/-- Every command makes one change, adds and selects, or lists. -/
theorem command_cases (command : ProfileCommand) :
    (∃ edit : Edit, command = edit.command) ∨ (∃ name c, command = .add name c true) ∨
      command = .list := by
  cases command with
  | add name c makeCurrent =>
    cases makeCurrent with
    | false => exact .inl ⟨.add name c, rfl⟩
    | true => exact .inr (.inl ⟨name, c, rfl⟩)
  | select name => exact .inl ⟨.select name, rfl⟩
  | remove name => exact .inl ⟨.remove name, rfl⟩
  | list => exact .inr (.inr rfl)

/-- **A run is its command on the registry of the profiles in its file.** It succeeds if the command
does, and then keeps what the command makes; if the command fails, the world stays as it was. -/
theorem outcome_step (keeps : Keeps world.files l.path p)
    (writable : world.files.Writable l.path) :
    (∃ p' world', p.registry.step? l.command = some p'.registry ∧
      l.outcome world = (.ok (), world') ∧ Keeps world'.files l.path p' ∧
      world'.files.Writable l.path) ∨
    (p.registry.step? l.command = none ∧ ∃ e, l.outcome world = (.error e, world)) := by
  obtain ⟨edit, command⟩ | ⟨name, c, command⟩ | command := command_cases l.command
  · by_cases allowed : edit.Allowed p
    · obtain ⟨world', done⟩ := outcome_edit_of_allowed keeps writable command allowed
      exact .inl ⟨_, world', command ▸ Profiles.step?_of_allowed allowed, done⟩
    · exact .inr ⟨command ▸ Profiles.step?_of_refused allowed,
        outcome_edit_of_refused keeps command allowed⟩
  · by_cases valid : c.validate = .ok ()
    · obtain ⟨world', done⟩ := outcome_add_of_valid keeps writable command valid
      exact .inl ⟨_, world', command ▸ Profiles.step?_of_valid valid, done⟩
    · exact .inr ⟨command ▸ Profiles.step?_of_invalid valid,
        outcome_add_of_invalid keeps command valid⟩
  · exact .inl ⟨p, world, by rw [command]; rfl, outcome_list keeps command, keeps, writable⟩

/-! ## Run after run -/

/-- Which runs succeed, one started in the world that the one before left, and the world after
them. -/
def runAll (world : World) : List Launch → List Bool × World
  | [] => ([], world)
  | l :: rest =>
    let (successes, final) := runAll (l.report world).world rest
    ((l.report world).failure.isNone :: successes, final)

/-- A run that fails or lists changes nothing. -/
theorem unchanged (keeps : Keeps world.files l.path p) (writable : world.files.Writable l.path)
    (h : (l.report world).failure.isSome ∨ l.command = .list) : (l.report world).world = world := by
  rw [failure_report, world_report] at *
  rcases h with failed | lists
  · obtain ⟨p', world', -, ran, -⟩ | ⟨-, e, ran⟩ := outcome_step keeps writable
    · rw [ran] at failed
      cases failed
    · rw [ran]
  · rw [outcome_list keeps lists]

/-- **Runs with one file are commands on a registry.** Which of them succeed, and what their file
keeps in the end, is what the commands come to on the registry of what the file kept in the
beginning. The current name is always one of a profile, and the settings stay. A further run that
fails or lists changes nothing. -/
theorem refines_registry {path : String} {launches : List Launch} {p : Profiles} {world : World}
    (located : ∀ l ∈ launches, l.path = path) (keeps : Keeps world.files path p)
    (writable : world.files.Writable path) (coherent : p.registry.Coherent) :
    (runAll world launches).1 = (p.registry.applyAll (launches.map (·.command))).1 ∧
      ∃ p', Keeps (runAll world launches).2.files path p' ∧
        p'.registry = (p.registry.applyAll (launches.map (·.command))).2 ∧
        p'.registry.Coherent ∧ p'.settings = p.settings ∧
        ∀ l : Launch, l.path = path →
          (l.report (runAll world launches).2).failure.isSome ∨ l.command = .list →
          (l.report (runAll world launches).2).world = (runAll world launches).2 := by
  induction launches generalizing p world with
  | nil =>
    refine ⟨rfl, p, keeps, rfl, coherent, rfl, ?_⟩
    rintro l rfl changeless
    exact unchanged keeps writable changeless
  | cons l rest ih =>
    obtain ⟨rfl, located⟩ := List.forall_mem_cons.1 located
    simp only [runAll, List.map_cons, Registry.applyAll]
    rcases outcome_step keeps writable with ⟨p₁, world₁, made, ran, keeps₁, writable₁⟩ |
      ⟨refused, e, ran⟩
    · obtain ⟨successes, p', keeps', final, coherent', settings, changeless⟩ :=
        ih located keeps₁ writable₁ (coherent.step? made)
      rw [failure_report, world_report, ran, made]
      refine ⟨congrArg _ successes, p', keeps', final, coherent', ?_, changeless⟩
      exact settings.trans (Registry.settings_of_step? made)
    · obtain ⟨successes, p', done⟩ := ih located keeps writable coherent
      rw [failure_report, world_report, ran, refused]
      exact ⟨congrArg _ successes, p', done⟩

/-- A run with a file whose directory is missing from an empty tree. -/
def nested (command : ProfileCommand) : Launch where
  around := { vars := [(pathVariable, Path.ofNames ["nested".toList, "config.toml".toList])] }
  options := {}
  command := command

/-- The second profile takes the place of the first one and is removed. -/
def nestedRuns : List Launch :=
  [nested (.add "a" oddCredentials false), nested (.add "b" oddCredentials true),
    nested (.remove "b"), nested (.select "b"), nested .list]

/-- A profile that was removed cannot be selected, and the other one is still there. -/
theorem refines_registry_nested :
    ∃ p', (runAll ⟨{}, ⟨true, []⟩⟩ nestedRuns).1 = [true, true, true, false, true] ∧
      Keeps (runAll ⟨{}, ⟨true, []⟩⟩ nestedRuns).2.files (nested .list).path p' ∧
      p'.current = none ∧ p'.portals.contains "a" = true := by
  have keeps : Keeps {} (nested .list).path {} := .missing (by decide +kernel)
  have writable : Files.Writable {} (nested .list).path := by
    have path : (nested .list).path = Path.ofNames ["nested".toList, "config.toml".toList] := by
      decide +kernel
    rw [path]
    exact writable_nested {} []
  obtain ⟨successes, p', kept, final, -⟩ := @refines_registry (nested .list).path nestedRuns {}
    ⟨{}, ⟨true, []⟩⟩ (by simp [nestedRuns, path, nested]) keeps writable nofun
  have portals : p'.portals.toFinmap = _ := congrArg Registry.portals final
  refine ⟨p', successes.trans (by decide +kernel), kept,
    (congrArg Registry.current final).trans (by decide +kernel), ?_⟩
  rw [← ProfileTable.mem_toFinmap, portals]
  decide +kernel

end Launch

end TrainingPortal
