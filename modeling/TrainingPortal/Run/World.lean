import TrainingPortal.Parameter.Assembly
import TrainingPortal.Portal.Broker
import TrainingPortal.Profiles.Store
import TrainingPortal.Selection

/-!
# The world of a command

What a command finds when it starts and may change: files and the network. The rest is fixed: the
environment variables, whether a browser can be opened, whether output is coloured, and what is
remarked on texts that cannot be read. The parts of the library that know only one piece of the
world are lifted into it here.
-/

namespace TrainingPortal

/-- What a command cannot change. -/
structure Surroundings where
  vars : Variables := []
  /-- Whether opening an address in a browser succeeds. -/
  browserOpens : Bool := false
  /-- Whether output is coloured. -/
  colours : Bool := false
  /-- What is remarked on what cannot be read or written. -/
  remarks : Remarks := {}
  deriving Inhabited

/-- What a command can change. -/
structure World where
  files : Files
  network : Http.Network
  deriving Inhabited

/-- Computations of a command. -/
abbrev CommandM := ExceptT Failure (StateT World Traced)

namespace CommandM

/-- An outcome with errors of portal operations. -/
def ofPortal {α : Type} : Except PortalError α → CommandM α
  | .ok value => return value
  | .error e => throw (.portal e)

/-- A computation over the network. -/
def onNetwork {α : Type} (x : PortalM α) : CommandM α := do
  let world ← get
  let (outcome, network) ← (x.run.run world.network : Traced _)
  set { world with network }
  ofPortal outcome

/-- A computation on a store of profiles and files. -/
def onStore (x : ProfileStore.StoreM Unit) (store : ProfileStore) : CommandM ProfileStore := do
  let world ← get
  let ((outcome, store), files) ← ((x.run.run store).run world.files : Traced _)
  set { world with files }
  match outcome with
  | .ok () => return store
  | .error e => throw e

/-- A computation on files. -/
def onFiles {α : Type} (x : FilesM α) : CommandM α := do
  let world ← get
  let (outcome, files) ← (x.run.run world.files : Traced _)
  set { world with files }
  match outcome with
  | .ok value => return value
  | .error e => throw e

/-- A computation that changes nothing. -/
def ofTraced {α : Type} (x : ExceptT Failure Traced α) : CommandM α := do
  match ← (x.run : Traced _) with
  | .ok value => return value
  | .error e => throw e

/-- Prints a line. -/
def print (line : String) : CommandM Unit := Traced.print line

end CommandM

end TrainingPortal
