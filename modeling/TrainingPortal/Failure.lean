import TrainingPortal.Dotenv.Binding
import TrainingPortal.PortalError
import TrainingPortal.Text.Quoted

/-!
# Failures of a command

Everything that a command can fail with: an error of a portal operation, or trouble with the
environment, the files and the profiles on this side. `message` is what is shown first, `causes`
what lies beneath, which for what cannot be read or written in some format is a remark of its reader
or writer.
-/

namespace TrainingPortal

open Text

/-- Why a command failed. -/
inductive Failure
  | portal (error : PortalError)
  /-- An environment variable is not set. -/
  | variableUnset (name : String)
  /-- There is no dotenv file at the path. -/
  | envFileMissing (path : String)
  /-- The dotenv file cannot be read to its end. -/
  | envFileFault (path : String) (fault : Dotenv.Fault)
  /-- The dotenv file does not bind a name. -/
  | envFileLacks (name path : String)
  /-- There is no profile of this name. -/
  | profileUnknown (name : String)
  /-- No profile was named and none is current. -/
  | noneSelected
  | profilesUnreadable (path : String) (cause : FileError)
  /-- The text of the file is not the TOML expected. -/
  | profilesMalformed (path text : String)
  /-- A number in the settings is too great for the file. -/
  | profilesUnwritable
  | directoryNotCreated (path : String) (cause : FileError)
  | profilesNotWritten (path : String) (cause : FileError)
  | browserNotOpened
  deriving DecidableEq

namespace Failure

/-- The text of a failure. -/
def message : Failure → String
  | portal error => error.message
  | variableUnset name => s!"{name} environment variable not set"
  | envFileMissing path => s!"Environment file not found: {path}"
  | envFileFault path _ => s!"Failed to load .env file '{path}'"
  | envFileLacks name path => s!"{name} not found in .env file: {path}"
  | profileUnknown name => s!"Portal '{name}' not found"
  | noneSelected =>
    "No training portal selected. Use 'workshop-cli portal add' or pass --portal-url."
  | profilesUnreadable path _ => "Failed to read config file: " ++ quoted path
  | profilesMalformed path _ => "Failed to parse config file: " ++ quoted path
  | profilesUnwritable => "Failed to serialize config to TOML"
  | directoryNotCreated path _ => "Failed to create config directory: " ++ quoted path
  | profilesNotWritten path _ => "Failed to write config file: " ++ quoted path
  | browserNotOpened => "unable to open web browser on workshop"

/-- The fault of a file beneath a failure, if there is one. -/
def fileCause? : Failure → Option String
  | envFileFault _ fault => some fault.message
  | profilesUnreadable _ cause | directoryNotCreated _ cause | profilesNotWritten _ cause =>
    some cause.message
  | _ => none

/-- The causes of a failure, the nearest first. -/
def causes (remarks : Remarks) : Failure → List String
  | portal error => error.causes remarks
  | profilesMalformed _ text => (remarks.toml text).toList
  | profilesUnwritable => remarks.number.toList
  | failure => failure.fileCause?.toList

/-- The failure and all its causes, joined. -/
def chain (remarks : Remarks) (failure : Failure) : String :=
  ": ".intercalate (failure.message :: failure.causes remarks)

end Failure

end TrainingPortal
