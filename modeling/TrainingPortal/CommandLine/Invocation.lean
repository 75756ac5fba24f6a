import TrainingPortal.CommandLine.Scan
import TrainingPortal.Selection

/-!
# The commands of the program

The grammar of the program's command line, and what a command line that fits it asks for.
-/

namespace TrainingPortal

/-- How results are printed. -/
inductive OutputFormat
  | text
  | json
  deriving DecidableEq, Inhabited

/-- What holds for every command. -/
structure CommonOptions where
  /-- Seconds for a call to a portal, in place of what the settings say. -/
  httpTimeout : Option UInt64 := none
  output : OutputFormat := .text
  deriving DecidableEq, Inhabited

/-- What a session is requested with. -/
structure RequestOptions where
  name : String
  environment : String := ""
  literals : List String := []
  files : List String := []
  envFiles : List String := []
  indexUrl : Option String := none
  user : Option String := none
  timeout : Option UInt32 := none
  noBrowser : Bool := false
  portal : Selection := {}
  deriving DecidableEq, Inhabited

/-- What the program is asked to do. -/
inductive Action
  /-- Request a session. -/
  | request (options : RequestOptions)
  /-- List the environments of a portal. -/
  | catalog (portal : Selection)
  /-- Terminate a session. -/
  | terminate (session : String) (portal : Selection)
  /-- Add a profile, and perhaps make it current. -/
  | add (name : String) (credentials : Credentials) (makeCurrent : Bool)
  /-- List the profiles. -/
  | list
  /-- Make a profile current. -/
  | select (name : String)
  /-- Remove a profile. -/
  | remove (name : String)
  deriving DecidableEq

/-- A command line that fits the grammar. -/
structure Invocation where
  options : CommonOptions
  action : Action
  deriving DecidableEq

namespace CommandLine

/-! ## Grammar -/

/-- The arguments of every command. -/
def commonArguments : List Argument :=
  [{ name := "http-timeout", form := .option .number64,
      fallback := some "WORKSHOP_CLI_HTTP_TIMEOUT" },
    { name := "output", form := .option (.word ["text", "json"]) }]

/-- The arguments that say which portal is meant. -/
def portalArguments : List Argument :=
  [{ name := "portal", short := some 'p' },
    { name := "portal-url" },
    { name := "client-id" },
    { name := "client-secret" },
    { name := "username" },
    { name := "password" },
    { name := "from-env", form := .flag },
    { name := "from-env-file", form := .option .path }]

/-- The arguments that hold robot credentials. -/
def robotArguments : List String := ["client-id", "client-secret", "username", "password"]

/-- The arguments that each name a portal of their own. -/
def originArguments : List String := ["portal-url", "from-env", "from-env-file"]

/-- What the arguments about the portal need of each other. -/
def portalRequirements : List Requirement :=
  [{ anyOf := "portal-url" :: robotArguments, needed := robotArguments },
    { anyOf := robotArguments, needed := ["portal-url"],
      unlessAny := ["from-env", "from-env-file"] }]

/-- A command without commands below it. -/
def leaf (name : String) (arguments : List Argument) : Command :=
  .mk name [] (commonArguments ++ arguments) [] [] []

/-- A command that talks to a portal. -/
def portalLeaf (name : String) (aliases : List String) (arguments : List Argument) : Command :=
  .mk name aliases (commonArguments ++ arguments ++ portalArguments) originArguments
    portalRequirements []

/-- A command with commands below it. -/
def branch (name : String) (children : List Command) : Command :=
  .mk name [] commonArguments [] [] children

/-- The command that requests a session. -/
def requestCommand : Command :=
  portalLeaf "request" []
    [{ name := "name", short := some 'n', required := true },
      { name := "environment-name" },
      { name := "param", repeatable := true },
      { name := "param-file", repeatable := true },
      { name := "params-file", form := .option .path, repeatable := true },
      { name := "index-url" },
      { name := "user" },
      { name := "timeout", form := .option .number32 },
      { name := "no-browser", form := .flag }]

/-- The command that lists the environments of a portal. -/
def catalogCommand : Command := portalLeaf "catalog" [] []

/-- The command that terminates a session. -/
def terminateCommand : Command :=
  portalLeaf "terminate" ["delete"] [{ name := "session", form := .positional, required := true }]

/-- The command that adds a profile. -/
def addCommand : Command :=
  leaf "add"
    [{ name := "name", required := true },
      { name := "url", required := true },
      { name := "client-id", required := true },
      { name := "client-secret", required := true },
      { name := "username", required := true },
      { name := "password", required := true },
      { name := "workshop", repeatable := true },
      { name := "set-current", form := .flag }]

/-- A command that is given the name of a profile. -/
def profileCommand (name : String) : Command :=
  leaf name [{ name := "profile", form := .positional, required := true }]

/-- The program. -/
def program : Command :=
  branch "workshop-cli"
    [branch "workshop" [requestCommand, catalogCommand],
      branch "session" [terminateCommand],
      branch "portal"
        [addCommand, leaf "list" [], profileCommand "select", profileCommand "remove"]]

/-- What the program says about its version. -/
def versionText : String := "workshop-cli 0.1.0"

/-! ## Meaning -/

namespace Frame

/-- The value of an argument. -/
def value? (f : Frame) (name : String) : Option String :=
  (f.given.find? (·.name == name)).bind (·.value)

/-- The values of a repeatable argument. -/
def values (f : Frame) (name : String) : List String :=
  (f.given.filter (·.name == name)).filterMap (·.value)

/-- The value of an argument that the grammar requires. -/
def required (f : Frame) (name : String) : String := (f.value? name).getD ""

/-- What the arguments say about the portal. -/
def selection (f : Frame) : Selection where
  portal := f.value? "portal"
  portalUrl := f.value? "portal-url"
  clientId := f.value? "client-id"
  clientSecret := f.value? "client-secret"
  username := f.value? "username"
  password := f.value? "password"
  fromEnv := f.has "from-env"
  fromEnvFile := f.value? "from-env-file"

/-- What the arguments say about the session requested. -/
def requestOptions (f : Frame) : RequestOptions where
  name := f.required "name"
  environment := (f.value? "environment-name").getD ""
  literals := f.values "param"
  files := f.values "param-file"
  envFiles := f.values "params-file"
  indexUrl := f.value? "index-url"
  user := f.value? "user"
  timeout := ((f.value? "timeout").bind natural?).map UInt32.ofNat
  noBrowser := f.has "no-browser"
  portal := f.selection

/-- The credentials of a profile that is to be added. -/
def credentials (f : Frame) : Credentials where
  url := f.required "url"
  clientId := f.required "client-id"
  clientSecret := f.required "client-secret"
  username := f.required "username"
  password := f.required "password"
  workshops := f.values "workshop"

/-- What a command asks for. -/
def action (f : Frame) : Action :=
  match f.command.name with
  | "request" => .request f.requestOptions
  | "catalog" => .catalog f.selection
  | "terminate" => .terminate (f.required "session") f.selection
  | "add" => .add (f.required "name") f.credentials (f.has "set-current")
  | "select" => .select (f.required "profile")
  | "remove" => .remove (f.required "profile")
  | _ => .list

end Frame

/-- The value of an argument of every command: the innermost one given, else the one for which a
variable stands in. -/
def common? (frames : List Frame) (name : String) : Option String :=
  let given := frames.flatMap fun f => f.given.filter (·.name == name)
  ((given.find? (!·.fromVariable)).or given.head?).bind (·.value)

/-- What is asked of every command. -/
def commonOptions (frames : List Frame) : CommonOptions where
  httpTimeout := ((common? frames "http-timeout").bind unsigned?).map UInt64.ofNat
  output := if common? frames "output" = some "json" then .json else .text

/-- What closed frames ask for, the innermost first. -/
def invocation? (frames : List Frame) : Option Invocation :=
  frames.head?.map fun f => { options := commonOptions frames, action := f.action }

/-- What a command line asks for. -/
def read (vars : Variables) (words : List String) : Except UsageStop Invocation := do
  match invocation? (← parse program vars words) with
  | some invocation => return invocation
  | none => throw .missingSubcommand

end CommandLine

end TrainingPortal
