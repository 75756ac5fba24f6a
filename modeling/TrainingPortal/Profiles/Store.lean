import TrainingPortal.Failure
import TrainingPortal.Profiles.Document
import TrainingPortal.Trace

/-!
# The file of profiles

Profiles kept in a file. Loading reads a file if there is one and starts with defaults otherwise.
Every change is made in memory first and then saved; if saving fails the change stays in memory.
-/

namespace TrainingPortal

open Text

/-- Computations that read and write files and may fail. -/
abbrev FilesM := ExceptT Failure (StateT Files Traced)

/-- Profiles with the path of their file, if it is settled. -/
structure ProfileStore where
  profiles : Profiles := {}
  path : Option String := none
  deriving Inhabited

namespace ProfileStore

/-- The variable that names the file of profiles. -/
def pathVariable : String := "WORKSHOP_CLI_CONFIG"

/-- The directory of configuration files. -/
def directory (vars : Variables) : String :=
  let fallback :=
    Path.join (((vars.get? "HOME").filter (!·.isEmpty)).getD "/root") ".config"
  match vars.get? "XDG_CONFIG_HOME" with
  | some path => if Path.isAbsolute path then path else fallback
  | none => fallback

/-- The path of the file of profiles. -/
def defaultPath (vars : Variables) : String :=
  (vars.get? pathVariable).getD
    (Path.join (Path.join (directory vars) "workshop-cli") "config.toml")

/-- Logs an entry about profiles. -/
def log (level : LogLevel) (text : String) : FilesM Unit := Traced.log level .profiles text

/-- The profiles in the file at a path. -/
def load (path : String) : FilesM ProfileStore := do
  log .debug s!"Loading config from: {quoted path}"
  let fs ← get
  if !fs.exists? path then
    log .info "Config file doesn't exist, using defaults"
    return { path := some path }
  else
    match fs.readText path with
    | .error e => throw (.profilesUnreadable path e)
    | .ok document =>
      match Profiles.ofDocument? document with
      | none => throw (.profilesMalformed path document)
      | some profiles =>
        log .debug s!"Loaded config with {profiles.portals.entries.length} portals"
        return { profiles, path := some path }

/-- Creates the directory of a file if it is missing. -/
def prepareDirectory (path : String) : FilesM Unit := do
  match Path.parent? path with
  | none => pure ()
  | some parent =>
    let fs ← get
    if !parent.isEmpty && !fs.exists? parent then
      let (made, fs) := fs.makeDirectories parent
      set fs
      match made with
      | .error e => throw (.directoryNotCreated parent e)
      | .ok () => log .info s!"Created config directory: {quoted parent}"

/-- Writes the profiles into their file. -/
def save (vars : Variables) (store : ProfileStore) : FilesM Unit := do
  let path := store.path.getD (defaultPath vars)
  log .debug s!"Saving config to: {quoted path}"
  prepareDirectory path
  match store.profiles.render? with
  | none => throw .profilesUnwritable
  | some document =>
    match (← get).write path (Utf8.bytes document) with
    | .error e => throw (.profilesNotWritten path e)
    | .ok fs =>
      set fs
      log .info "Config saved successfully"

/-- Computations on a store that is kept whatever happens. -/
abbrev StoreM := ExceptT Failure (StateT ProfileStore (StateT Files Traced))

/-- Saves the store at hand. -/
def saveNow (vars : Variables) : StoreM Unit := do
  let store ← get
  let saved ← (save vars store).run
  match saved with
  | .ok () => pure ()
  | .error e => throw e

/-- Logs an entry about profiles. -/
def note (level : LogLevel) (text : String) : StoreM Unit := Traced.log level .profiles text

/-- Changes the profiles in memory. -/
def change (f : Profiles → Profiles) : StoreM Unit :=
  modify fun store => { store with profiles := f store.profiles }

/-- Adds a profile, which becomes current if none is, and saves. -/
def add (vars : Variables) (name : String) (c : Credentials) : StoreM Unit := do
  match c.validate with
  | .error e => throw (.portal e)
  | .ok () =>
    note .info s!"Adding portal: {name}"
    if (← get).profiles.current.isNone then
      change (·.add name c)
      note .info s!"Set {name} as current portal"
    else change (·.add name c)
    saveNow vars

/-- Makes a profile current and saves. -/
def select (vars : Variables) (name : String) : StoreM Unit := do
  if !(← get).profiles.portals.contains name then throw (.profileUnknown name)
  note .info s!"Setting current portal to: {name}"
  change (·.select name)
  saveNow vars

/-- Removes a profile and saves. -/
def remove (vars : Variables) (name : String) : StoreM Unit := do
  if !(← get).profiles.portals.contains name then throw (.profileUnknown name)
  note .info s!"Removing portal: {name}"
  if (← get).profiles.current = some name then
    note .warn "Removed current portal, clearing current selection"
  change (·.remove name)
  saveNow vars

end ProfileStore

end TrainingPortal
