import TrainingPortal.CommandLine.Invocation
import TrainingPortal.Run.World
import TrainingPortal.Style

/-!
# The commands

What each command does and prints. A command that talks to a portal does everything it can on this
side first: it gathers the parameters, finds out which portal is meant and checks the credentials.
-/

namespace TrainingPortal.Run

open Text CommandM

/-! ## What is printed -/

/-- A text padded on the right to a width. -/
def padRight (width : Nat) (s : String) : String :=
  s ++ String.ofList (List.replicate (width - s.length) ' ')

/-- The mark before the report of a success. -/
def tick (colours : Bool) : String := Style.apply { colour := some .brightGreen } colours "✓"

/-- A name that stands out. -/
def prominent (colours : Bool) (s : String) : String :=
  Style.apply { bold := true, colour := some .brightGreen } colours s

/-- A caption. -/
def caption (colours : Bool) (s : String) : String := Style.apply { dimmed := true } colours s

/-- A text in a colour. -/
def coloured (colour : Colour) (colours : Bool) (s : String) : String :=
  Style.apply { colour := some colour } colours s

/-- A session with the address that activates it, as JSON. -/
def sessionJson (s : Session) (activationUrl : String) : Json :=
  .object [("activationUrl", .text activationUrl),
    ("session", .object [("environment", .text s.environment), ("name", .text s.name),
      ("namespace", .text s.namespaceName), ("url", .text s.url), ("user", .text s.user),
      ("workshop", .text s.workshop)])]

/-- The lines of a status. -/
def statusLines (colours : Bool) (s : SessionStatus) : List String :=
  let line (title value : String) : String := caption colours title ++ " " ++ value
  [line "Started:" s.started, line "Expires:" s.expires, line "Expiring:" (toString s.expiring),
    line "Countdown:" (toString s.countdown), line "Extendable:" (toString s.extendable),
    line "Status:" (Style.apply { bold := true, colour := some .brightWhite } colours s.status)]

/-- The line of an environment. -/
def environmentLine (colours : Bool) (e : Environment) : String :=
  let state := padRight 12 e.state.name
  let state :=
    if e.isRunning then coloured .brightGreen colours state else caption colours state
  padRight 32 e.name ++ " " ++ state ++ " " ++ e.workshop

/-- The lines of a catalog. -/
def catalogLines (colours : Bool) (environments : List Environment) : List String :=
  if environments.isEmpty then
    [coloured .brightYellow colours "No workshop environments found"]
  else
    Style.apply { bold := true } colours
      (padRight 32 "ENVIRONMENT" ++ " " ++ padRight 12 "STATE" ++ " WORKSHOP") ::
      environments.map (environmentLine colours)

/-- The profiles as JSON. -/
def profilesJson (p : Profiles) : Json :=
  .array <| p.portals.entries.map fun (name, c) =>
    .object [("current", .bool (p.current == some name)), ("name", .text name),
      ("url", .text c.url), ("username", .text c.username),
      ("workshops", .array (c.workshops.map .text))]

/-- The lines of a profile. -/
def profileLines (colours : Bool) (current : Bool) (name : String) (c : Credentials) :
    List String :=
  let dot := coloured .brightGreen colours (if current then "●" else "○")
  let label := if current then prominent colours name else coloured .white colours name
  let line (title value : String) : String := "    " ++ caption colours title ++ ": " ++ value
  [dot ++ " " ++ label, line "URL" (coloured .cyan colours c.url),
    line "Username" (coloured .white colours c.username)] ++
    if c.workshops.isEmpty then [] else [line "Workshops" (", ".intercalate c.workshops)]

/-- The lines of all profiles. -/
def profilesLines (colours : Bool) (p : Profiles) : List String :=
  if p.portals.entries.isEmpty then
    [Style.apply { bold := true, colour := some .brightYellow } colours
        "⚠️  No training portals configured",
      "  " ++ coloured .cyan colours "workshop-cli portal add --help"]
  else
    p.portals.entries.flatMap fun (name, c) =>
      profileLines colours (p.current == some name) name c

/-! ## What is done -/

/-- The broker for the portal that is meant, and how that portal is called. -/
def brokerFor (around : Surroundings) (profiles : Profiles) (selection : Selection) :
    CommandM (Broker × String) := do
  let target ← ofTraced (selection.resolve profiles (← get).files around.vars)
  let broker ← ofPortal (Broker.ofCredentials target.credentials)
  return (broker, target.label)

/-- Opens an address in a browser. -/
def openBrowser (around : Surroundings) (address : String) : CommandM Unit := do
  Traced.log .info .workshop s!"Opening browser on {address}"
  Traced.emit (.opened address)
  if !around.browserOpens then throw .browserNotOpened

/-- The request that options stand for. -/
def sessionRequest (o : RequestOptions) (parameters : List Parameter) (settings : Settings) :
    SessionRequest where
  workshop := o.name
  environment := o.environment
  parameters := parameters
  indexUrl := o.indexUrl
  user := o.user
  timeout := o.timeout.getD settings.activationTimeout

/-- Reports an allocated session, and opens it unless told not to. -/
def reportSession (around : Surroundings) (output : OutputFormat) (noBrowser : Bool) (s : Session)
    (url : String) : CommandM Unit := do
  let colours := around.colours
  match output with
  | .json => print (sessionJson s url).pretty
  | .text =>
    print s!"Assigned training portal user {coloured .brightGreen colours (quoted s.user)}."
    print s!"Workshop session name is {coloured .brightGreen colours (quoted s.name)}."
    if noBrowser then
      print s!"Workshop activation URL is {coloured .brightBlue colours url}."
    else
      print s!"Opening workshop URL {coloured .brightBlue colours url}."
      openBrowser around url

/-- Requests a session. -/
def request (around : Surroundings) (output : OutputFormat) (profiles : Profiles)
    (o : RequestOptions) : CommandM Unit := do
  let parameters ← ofPortal (← (ParameterSet.assemble (← get).files around.vars o.literals
    o.files o.envFiles : Traced _))
  let (broker, label) ← brokerFor around profiles o.portal
  if output = .text then
    let workshop := coloured .cyan around.colours (quoted o.name)
    let portal := coloured .cyan around.colours (quoted label)
    print s!"Requesting workshop {workshop} from training portal {portal}."
  let session ← onNetwork (broker.requestWorkshop (sessionRequest o parameters profiles.settings))
  reportSession around output o.noBrowser session (broker.activationUrl session)

/-- Lists the environments of a portal. -/
def catalog (around : Surroundings) (output : OutputFormat) (profiles : Profiles)
    (selection : Selection) : CommandM Unit := do
  let (broker, _) ← brokerFor around profiles selection
  let environments ← onNetwork broker.listEnvironments
  match output with
  | .json => print (Json.array (environments.map Environment.toJson)).pretty
  | .text => (catalogLines around.colours environments).forM print

/-- Terminates a session. -/
def terminate (around : Surroundings) (output : OutputFormat) (profiles : Profiles)
    (session : String) (selection : Selection) : CommandM Unit := do
  let (broker, _) ← brokerFor around profiles selection
  let status ← onNetwork (broker.terminateSession session)
  match output with
  | .json => print status.toJson.pretty
  | .text => (statusLines around.colours status).forM print

/-- Adds a profile. -/
def add (around : Surroundings) (store : ProfileStore) (name : String) (c : Credentials)
    (makeCurrent : Bool) : CommandM Unit := do
  let store ← onStore (ProfileStore.add around.vars name c) store
  if makeCurrent then
    let _ ← onStore (ProfileStore.select around.vars name) store
  print s!"{tick around.colours} Added portal {prominent around.colours name}"

/-- Makes a profile current. -/
def select (around : Surroundings) (store : ProfileStore) (name : String) : CommandM Unit := do
  let _ ← onStore (ProfileStore.select around.vars name) store
  print s!"{tick around.colours} Current portal is now {prominent around.colours name}"

/-- Removes a profile. -/
def remove (around : Surroundings) (store : ProfileStore) (name : String) : CommandM Unit := do
  let _ ← onStore (ProfileStore.remove around.vars name) store
  let name := Style.apply { bold := true } around.colours name
  print s!"{tick around.colours} Removed portal {name}"

/-- Lists the profiles. -/
def list (around : Surroundings) (output : OutputFormat) (profiles : Profiles) : CommandM Unit :=
  match output with
  | .json => print (profilesJson profiles).compact
  | .text => (profilesLines around.colours profiles).forM print

/-- Does what is asked for. -/
def perform (around : Surroundings) (store : ProfileStore) (i : Invocation) : CommandM Unit :=
  let output := i.options.output
  match i.action with
  | .request o => request around output store.profiles o
  | .catalog portal => catalog around output store.profiles portal
  | .terminate session portal => terminate around output store.profiles session portal
  | .add name c makeCurrent => add around store name c makeCurrent
  | .list => list around output store.profiles
  | .select name => select around store name
  | .remove name => remove around store name

/-- Loads the profiles and does what is asked for. -/
def run (around : Surroundings) (i : Invocation) : CommandM Unit := do
  let store ← onFiles (ProfileStore.load (ProfileStore.defaultPath around.vars))
  Traced.log .debug .main
    s!"Loaded configuration with {store.profiles.portals.entries.length} portals"
  perform around store i

/-! ## Reports -/

/-- What came of a run. -/
structure Report where
  /-- The failure, if the run failed. -/
  failure : Option Failure
  trace : List Event
  world : World

/-- The report of a run in a world. -/
def report (around : Surroundings) (i : Invocation) (world : World) : Report :=
  let ⟨(outcome, world), trace⟩ := (run around i).run.run world
  { failure := match outcome with | .ok () => none | .error e => some e, trace, world }

/-- The exit code of a run. -/
def Report.exitCode (r : Report) : Nat := if r.failure.isSome then 1 else 0

end TrainingPortal.Run
