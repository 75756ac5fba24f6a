import TrainingPortal.Dotenv.Binding
import TrainingPortal.Parameter
import TrainingPortal.Trace

/-!
# Gathering parameters

Session parameters are given as literals `NAME=VALUE`, as files `NAME=PATH` whose content is the
value, and as dotenv files that bind many names. They are applied in this order, the first fault
ends it, and what was set before stays set.
-/

namespace TrainingPortal

/-- Computations on a set of parameters that is kept whatever happens. -/
abbrev AssemblyM := ExceptT PortalError (StateT ParameterSet Traced)

namespace ParameterSet

/-- The name and the value in an item, which stand on either side of its first `=`. -/
def split (item : String) : Except PortalError (String × String) :=
  match Text.cutAt '=' item.toList with
  | (name, some value) => .ok (String.ofList name, String.ofList value)
  | (_, none) => .error (.precondition s!"invalid parameter format {item}")

/-- Applies a literal. -/
def applyLiteral (item : String) : AssemblyM Unit := do
  let (name, value) ← split item
  modify (ParameterSet.set · name value)

/-- Applies literals. -/
def applyLiterals (items : List String) : AssemblyM Unit := items.forM applyLiteral

/-- Applies a file. -/
def applyFile (fs : Files) (item : String) : AssemblyM Unit := do
  let (name, path) ← split item
  match fs.readText path with
  | .ok content => modify (ParameterSet.set · name content)
  | .error e =>
    throw (.precondition s!"cannot read parameter data file {path}: {e.message}")

/-- Applies files. -/
def applyFiles (fs : Files) (items : List String) : AssemblyM Unit := items.forM (applyFile fs)

/-- Applies a dotenv file, up to its first fault. -/
def applyEnvFile (fs : Files) (vars : Variables) (path : String) : AssemblyM Unit := do
  let (bindings, fault?) := Dotenv.read fs vars path
  modify (setAll · bindings)
  match fault? with
  | some fault =>
    throw (.precondition s!"cannot read parameters data file {path}: {fault.message}")
  | none => Traced.log .debug .parameters s!"Loaded parameters from {path}"

/-- Applies dotenv files. -/
def applyEnvFiles (fs : Files) (vars : Variables) (paths : List String) : AssemblyM Unit :=
  paths.forM (applyEnvFile fs vars)

/-- The parameters that literals, files and dotenv files give. -/
def assemble (fs : Files) (vars : Variables) (literals files envFiles : List String) :
    Traced (Except PortalError (List Parameter)) := do
  let all : AssemblyM Unit := do
    applyLiterals literals
    applyFiles fs files
    applyEnvFiles fs vars envFiles
  let (outcome, parameters) ← all.run.run []
  return outcome.map fun () => parameters

end ParameterSet

end TrainingPortal
