import TrainingPortal.Json.Record
import TrainingPortal.Text.Quoted

/-!
# The catalog of workshop environments

A portal lists its environments, each with a state and the workshop it serves. Only a running
environment can serve new sessions; of several that run the same workshop the last one listed is
chosen (`Environment.select?`).
-/

namespace TrainingPortal

/-- The state of an environment. -/
inductive EnvironmentState
  /-- New sessions can be served. -/
  | running
  /-- Any other state, by its name. -/
  | other (name : String)
  deriving DecidableEq, Inhabited

namespace EnvironmentState

/-- The name of the running state. -/
def runningName : String := "RUNNING"

/-- The state with a name. -/
def ofName (name : String) : EnvironmentState :=
  if name = runningName then running else other name

/-- The name of a state. -/
def name : EnvironmentState → String
  | running => runningName
  | other name => name

/-- A state for a reader. -/
def describe : EnvironmentState → String
  | running => "Running"
  | other name => "Other(" ++ Text.quoted name ++ ")"

/-- A state, written by its name. -/
def toJson (s : EnvironmentState) : Json := .text s.name

/-- A state read from its name. -/
def ofJson? (j : Json) : Option EnvironmentState := (Json.toText? j).map ofName

end EnvironmentState

/-- A workshop environment as listed in the catalog. -/
structure Environment where
  name : String := ""
  state : EnvironmentState := .other ""
  workshop : String := ""
  deriving DecidableEq, Inhabited

namespace Environment

/-- Whether new sessions can be served. -/
def isRunning (e : Environment) : Bool := e.state == .running

/-- An environment for a reader. -/
def describe (e : Environment) : String :=
  "EnvironmentDescriptor \x7b name: " ++ Text.quoted e.name ++ ", state: " ++ e.state.describe ++
    ", workshop: WorkshopSummary \x7b name: " ++ Text.quoted e.workshop ++ " \x7d \x7d"

/-- An environment as an object. -/
def toJson (e : Environment) : Json :=
  .object [("name", .text e.name), ("state", e.state.toJson),
    ("workshop", .object [("name", .text e.workshop)])]

/-- The name of a workshop, read from a record of its own. -/
def workshopOfJson? (j : Json) : Option String := do
  match ← Json.fields? ["name"] j with
  | [name] => Json.optional "" Json.toText? name
  | _ => none

/-- An environment read from a record; every field may be missing. -/
def ofJson? (j : Json) : Option Environment := do
  match ← Json.fields? ["name", "state", "workshop"] j with
  | [name, state, workshop] =>
    return {
      name := ← Json.optional "" Json.toText? name
      state := ← Json.optional (.other "") EnvironmentState.ofJson? state
      workshop := ← Json.optional "" workshopOfJson? workshop }
  | _ => none

/-- The environments of a catalog, read from its record. -/
def listingOfJson? (j : Json) : Option (List Environment) := do
  match ← Json.fields? ["environments"] j with
  | [environments] => Json.optional [] (Json.toList? ofJson?) environments
  | _ => none

/-! ## Choosing an environment -/

/-- Whether a session of the workshop can be requested from the environment. -/
def serves (workshop : String) (e : Environment) : Bool := e.workshop == workshop && e.isRunning

/-- The last running environment that serves the workshop, with its position. -/
def selectIndexed? (environments : List Environment) (workshop : String) :
    Option (Environment × Nat) :=
  environments.zipIdx.reverse.find? (serves workshop ·.1)

/-- The last running environment that serves the workshop. -/
def select? (environments : List Environment) (workshop : String) : Option Environment :=
  (selectIndexed? environments workshop).map (·.1)

/-- The workshops that the catalog lists for the environments of this name. -/
def workshopsOf (environments : List Environment) (name : String) : List String :=
  (environments.filter (·.name == name)).map (·.workshop)

end Environment

end TrainingPortal
