import TrainingPortal.Log.Filter
import TrainingPortal.Run.Commands

/-!
# The program

A whole run of the program: the log is set up first, then the command line is read, and only then
the command runs. If the file for the log cannot be opened the program says so and logs nothing.
-/

namespace TrainingPortal.Run

open Text

/-- The variable that names the file for the log. -/
def logFileVariable : String := "WORKSHOP_CLI_LOG_FILE"

/-- The variable that holds the log filter. -/
def logFilterVariable : String := "RUST_LOG"

/-- Where log entries go. -/
inductive LogSink
  | nowhere
  | errorStream
  | file (path : String)
  deriving DecidableEq

/-- What a run of the program leaves. -/
structure Outcome where
  exitCode : Nat
  output : String
  errors : String
  world : World
  trace : List Event
  /-- Why the command line was refused, or which text it asked for. -/
  stop : Option CommandLine.UsageStop := none

/-- The filter that variables ask for: warnings and errors if they say nothing. -/
def filterOf (vars : Variables) : LogFilter :=
  LogFilter.parse ((vars.get? logFilterVariable).getD "warn")

/-- Opens the file for the log, emptying it: where entries go, and what to tell the user. -/
def openLog (around : Surroundings) (files : Files) : LogSink × String × Files :=
  match around.vars.get? logFileVariable with
  | none => (.errorStream, "", files)
  | some path =>
    match files.write path [] with
    | .ok files => (.file path, "", files)
    | .error e =>
      let warning := Style.apply { colour := some .yellow } around.colours "Warning:"
      (.nowhere, warning ++ s!" cannot open log file: {e.message}\n", files)

/-- The entries that a filter keeps, as they are written. -/
def writeLog (vars : Variables) (stamp : String) (trace : List Event) : String :=
  String.join (((Traced.entries trace).filter (filterOf vars).keeps).map (LogEntry.write stamp))

/-- The report of a failure for the user. -/
def errorLine (around : Surroundings) (failure : Failure) : String :=
  Style.apply { bold := true, colour := some .red } around.colours "Error:" ++ " " ++
    failure.chain around.remarks ++ "\n"

/-- Puts the log of a run where it belongs: the text for the error stream, and the files. -/
def deliverLog (around : Surroundings) (sink : LogSink) (stamp : String) (trace : List Event)
    (files : Files) : String × Files :=
  let text := writeLog around.vars stamp trace
  match sink with
  | .nowhere => ("", files)
  | .errorStream => (text, files)
  | .file path =>
    match files.read path with
    | .error _ => ("", files)
    | .ok before => ("", (files.write path (before ++ Utf8.bytes text)).toOption.getD files)

/-- Runs the program with the words of a command line. -/
def execute (around : Surroundings) (words : List String) (stamp : String) (world : World) :
    Outcome :=
  let (sink, warning, files) := openLog around world.files
  let world := { world with files }
  match CommandLine.read around.vars words with
  | .error stop =>
    { exitCode := stop.exitCode
      output := if stop = .version then CommandLine.versionText ++ "\n" else ""
      errors := warning
      world
      trace := []
      stop := some stop }
  | .ok invocation =>
    let r := report around invocation world
    let trace := .logged ⟨.info, .main, "Starting workshop-cli"⟩ :: r.trace
    let (logged, files) := deliverLog around sink stamp trace r.world.files
    { exitCode := r.exitCode
      output := Traced.output trace
      errors :=
        warning ++ logged ++ (r.failure.map (errorLine around)).getD ""
      world := { r.world with files }
      trace }

/-- Whether variables ask for colours where the output is no terminal. -/
def coloursForced (vars : Variables) : Bool :=
  (vars.get? "CLICOLOR_FORCE").any (· != "0")

/-- Whether output is coloured. -/
def coloursFor (vars : Variables) (terminal : Bool) : Bool :=
  coloursForced vars ||
    (terminal && (vars.get? "NO_COLOR").isNone && (vars.get? "CLICOLOR") != some "0")

/-- The paths that a run may follow. -/
def pathsOf (vars : Variables) (words : List String) : List String :=
  (vars.get? logFileVariable).toList ++ ProfileStore.defaultPath vars ::
    match CommandLine.read vars words with
    | .error _ => []
    | .ok i =>
      match i.action with
      | .request o =>
        o.envFiles ++ o.portal.fromEnvFile.toList ++
          o.files.filterMap fun item => (ParameterSet.split item).toOption.map (·.2)
      | .catalog portal | .terminate _ portal => portal.fromEnvFile.toList
      | _ => []

end TrainingPortal.Run
