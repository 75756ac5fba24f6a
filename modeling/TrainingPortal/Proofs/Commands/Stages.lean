import TrainingPortal.Proofs.Parameters
import TrainingPortal.Proofs.Discipline
import TrainingPortal.Proofs.Profiles.Launches
import TrainingPortal.Proofs.Logs
import TrainingPortal.Proofs.Selection

/-!
# The stages of a command before a portal is called

A command that talks to a portal first loads the profiles, gathers its parameters, finds out which
portal is meant and checks the credentials. Each stage only logs, and a stage that fails is the last
one. So there are two cases (`PortalCommand.prepares_or_refuses`): either every stage succeeds, and
the command goes on with what they gave (`leads_run`), or some stage fails after those before it
succeeded, and its error is all that comes of the command (`logs_run_of_refuses`).
-/

namespace TrainingPortal

open Stateful Traced

/-! ## Parts of a command -/

namespace CommandM

variable {α : Type}

theorem run_onFiles (x : FilesM α) (world : World) :
    onFiles x world =
      ⟨((x world.files).value.1, { world with files := (x world.files).value.2 }),
        (x world.files).trace⟩ := by
  have lifted : (x.run.run world.files : Traced _) = x world.files := rfl
  rw [onFiles, get_bind, lift_bind, lifted]
  generalize (x world.files).trace = trace
  generalize (x world.files).value = result
  obtain ⟨outcome, files⟩ := result
  cases outcome <;> exact congrArg (Traced.mk _) (List.append_nil _)

theorem run_onNetwork (x : PortalM α) (world : World) :
    onNetwork x world =
      ⟨((x.outcome world.network).mapError .portal,
          { world with network := x.left world.network }), x.trace world.network⟩ := by
  have lifted : (x.run.run world.network : Traced _) = x world.network := rfl
  rw [onNetwork, get_bind, lift_bind, lifted, PortalM.outcome, PortalM.left, PortalM.trace]
  generalize (x world.network).trace = trace
  generalize (x world.network).value = result
  obtain ⟨outcome, files⟩ := result
  cases outcome <;> exact congrArg (Traced.mk _) (List.append_nil _)

theorem run_print (line : String) (world : World) :
    print line world = ⟨(.ok (), world), [.printed line]⟩ := run_lift _ world

theorem logs_ofTraced {x : ExceptT Failure Traced α} (h : IsLog x.run.trace) (world : World) :
    Logs (ofTraced x) world x.run.value := by
  refine Logs.of_leads (Logs.leads (Logs.lift h)) ?_
  cases x.run.value with
  | ok a => exact .pure a
  | error e => exact .throw e

theorem logs_ofPortal (r : Except PortalError α) (world : World) :
    Logs (ofPortal r) world (r.mapError .portal) := by
  cases r with
  | ok a => exact .pure a
  | error e => exact .throw _

end CommandM

/-! ## The stages before a portal is called -/

namespace ProfileStore

/-- How the file at a path keeps no profiles. -/
inductive Spoils (fs : Files) (path : String) : Failure → Prop
  | unreadable {e : FileError} (there : fs.exists? path = true)
    (unread : fs.readText path = .error e) : Spoils fs path (.profilesUnreadable path e)
  | malformed {document : String} (read : fs.readText path = .ok document)
    (malformed : Profiles.ofDocument? document = none) :
    Spoils fs path (.profilesMalformed path document)

variable {fs : Files} {path : String}

theorem keeps_or_spoils (fs : Files) (path : String) :
    (∃ p, Keeps fs path p) ∨ ∃ e, Spoils fs path e := by
  cases there : fs.exists? path with
  | false => exact .inl ⟨_, .missing there⟩
  | true =>
    cases read : fs.readText path with
    | error e => exact .inr ⟨_, .unreadable there read⟩
    | ok document =>
      cases reads : Profiles.ofDocument? document with
      | none => exact .inr ⟨_, .malformed read reads⟩
      | some p => exact .inl ⟨p, .document read reads⟩

theorem Keeps.unique {p p' : Profiles} (h : Keeps fs path p) (h' : Keeps fs path p') : p = p' := by
  cases h with
  | missing missing =>
    cases h' with
    | missing => rfl
    | document read => exact absurd (exists?_of_readText read) (by simp [missing])
  | document read reads =>
    cases h' with
    | missing missing => exact absurd (exists?_of_readText read) (by simp [missing])
    | document read' reads' =>
      obtain rfl := Except.ok.inj (read.symm.trans read')
      exact Option.some.inj (reads.symm.trans reads')

theorem Spoils.not_keeps {e : Failure} (h : Spoils fs path e) (p : Profiles) :
    ¬ Keeps fs path p := by
  intro h'
  cases h with
  | unreadable there unread =>
    cases h' with
    | missing missing => exact Bool.false_ne_true (missing.symm.trans there)
    | document read => exact nomatch unread.symm.trans read
  | malformed read malformed =>
    cases h' with
    | missing missing => exact absurd (exists?_of_readText read) (by simp [missing])
    | document read' reads =>
      obtain rfl := Except.ok.inj (read.symm.trans read')
      exact nomatch malformed.symm.trans reads

theorem silent_log (level : LogLevel) (text : String) : Silent (log level text) :=
  .lift (isLog_logged _)

theorem silent_load (path : String) : Silent (load path) := by
  refine (silent_log _ _).bind fun () => Silent.get.bind fun fs => ?_
  cases fs.exists? path with
  | false => exact (silent_log _ _).bind fun () => .pure _
  | true =>
    cases fs.readText path with
    | error e => exact .throw _
    | ok document =>
      dsimp only
      cases Profiles.ofDocument? document with
      | none => exact .throw _
      | some p => exact (silent_log _ _).bind fun () => .pure _

theorem value_load_of_spoils {e : Failure} (h : Spoils fs path e) :
    (load path fs).value = (.error e, fs) := by
  rw [load, Stateful.bind_runs (value_log _ _ fs)]
  refine (Stateful.bind_runs (Stateful.value_get fs)).trans ?_
  cases h with
  | unreadable there unread =>
    rw [there, unread]
    rfl
  | malformed read malformed =>
    rw [exists?_of_readText read, read]
    simp only [malformed]
    rfl

end ProfileStore

namespace ParameterSet

theorem silent_ofExcept {α : Type} (r : Except PortalError α) :
    Silent (liftM r : AssemblyM α) := by
  cases r <;> exact fun _ => isLog_nil

theorem silent_applyLiteral (item : String) : Silent (applyLiteral item) :=
  (silent_ofExcept _).bind fun _ => .modify _

theorem silent_applyFile (fs : Files) (item : String) : Silent (applyFile fs item) := by
  refine (silent_ofExcept _).bind fun (name, path) => ?_
  dsimp only
  cases fs.readText path with
  | ok content => exact .modify _
  | error e => exact .throw _

theorem silent_applyEnvFile (fs : Files) (vars : Variables) (path : String) :
    Silent (applyEnvFile fs vars path) := by
  unfold applyEnvFile
  obtain ⟨bindings, fault?⟩ := Dotenv.read fs vars path
  refine Silent.bind (.modify _) fun () => ?_
  cases fault? with
  | some fault => exact .throw _
  | none => exact .lift (isLog_logged _)

theorem isLog_assemble (fs : Files) (vars : Variables) (literals files envFiles : List String) :
    IsLog (assemble fs vars literals files envFiles).trace := by
  have all : Silent
      (do applyLiterals literals; applyFiles fs files; applyEnvFiles fs vars envFiles) :=
    (Silent.forM silent_applyLiteral).bind fun () =>
      (Silent.forM (silent_applyFile fs)).bind fun () => .forM (silent_applyEnvFile fs vars)
  exact (all []).append isLog_nil

end ParameterSet

namespace Traced

variable {ε α β : Type} {x : ExceptT ε Traced α} {f : α → ExceptT ε Traced β}

theorem isLog_bind (hx : IsLog x.run.trace) (hf : ∀ a, IsLog (f a).run.trace) :
    IsLog (x >>= f).run.trace := by
  refine IsLog.append hx ?_
  change IsLog (ExceptT.bindCont f x.run.value).trace
  cases x.run.value with
  | ok a => exact hf a
  | error e => exact isLog_nil

end Traced

theorem Credentials.isLog_fromEnvFile (fs : Files) (vars : Variables) (path : String) :
    IsLog (fromEnvFile fs vars path).run.trace := by
  refine isLog_bind (isLog_logged _) fun () => ?_
  cases fs.exists? path with
  | false => exact isLog_nil
  | true =>
    obtain ⟨bindings, fault?⟩ := Dotenv.read fs vars path
    cases fault? <;> exact isLog_nil

theorem Selection.Way.isLog_run (w : Situation) (way : Way) : IsLog (way.run w).run.trace := by
  cases way with
  | address => exact isLog_bind (isLog_logged _) fun c => isLog_nil
  | environment =>
    exact isLog_bind (isLog_bind (isLog_logged _) fun () => isLog_nil) fun c => isLog_nil
  | envFile path =>
    exact isLog_bind (Credentials.isLog_fromEnvFile w.files w.vars path) fun c => isLog_nil
  | profile name =>
    rw [run]
    cases w.profiles.portals.get? name <;> exact isLog_nil
  | current =>
    rw [run]
    cases w.profiles.current? with
    | some current => exact isLog_bind (isLog_logged _) fun () => isLog_nil
    | none => exact isLog_nil

theorem Selection.isLog_resolve (s : Selection) (profiles : Profiles) (fs : Files)
    (vars : Variables) : IsLog (s.resolve profiles fs vars).run.trace := by
  obtain ⟨way, first⟩ := exists_first s
  rw [resolve_of_first first ⟨profiles, fs, vars⟩]
  exact way.isLog_run _

/-! ## Commands that talk to a portal -/

/-- A command that talks to a portal. -/
inductive PortalCommand
  | request (options : RequestOptions)
  | catalog (portal : Selection)
  | terminate (session : String) (portal : Selection)

/-- What a command has when it turns to the portal. -/
structure Preparation where
  profiles : Profiles
  parameters : List Parameter
  target : Target

/-- The broker for a portal. -/
def Target.broker (target : Target) : Broker :=
  ⟨Endpoint.base target.credentials.url, target.credentials⟩

namespace PortalCommand

/-- The command as the program is asked for it. -/
def action : PortalCommand → Action
  | request o => .request o
  | catalog portal => .catalog portal
  | terminate session portal => .terminate session portal

/-- What a command says about the portal it means. -/
def selection : PortalCommand → Selection
  | request o => o.portal
  | catalog portal | terminate _ portal => portal

/-- What the portal is asked for. -/
def Value : PortalCommand → Type
  | request _ => Session
  | catalog _ => List Environment
  | terminate _ _ => SessionStatus

/-- The parameters that a command gathers; only a request has any. -/
def parameters (fs : Files) (vars : Variables) :
    PortalCommand → Except PortalError (List Parameter)
  | request o => (ParameterSet.assemble fs vars o.literals o.files o.envFiles).value
  | catalog _ | terminate _ _ => .ok []

/-- What the broker is asked to do. -/
def operation (settings : Settings) (parameters : List Parameter) :
    (c : PortalCommand) → Broker.Operation c.Value
  | request o => .request (Run.sessionRequest o parameters settings)
  | catalog _ => .list
  | terminate session _ => .terminate session

section

variable (around : Surroundings) (fs : Files) (c : PortalCommand)

/-- Every stage before the portal is called succeeds. -/
structure Prepares (p : Preparation) : Prop where
  profiles : ProfileStore.Keeps fs (ProfileStore.defaultPath around.vars) p.profiles
  parameters : c.parameters fs around.vars = .ok p.parameters
  target : (c.selection.resolve p.profiles fs around.vars).run.value = .ok p.target
  credentials : p.target.credentials.validate = .ok ()

/-- The stages before the portal is called succeed up to one that fails. -/
inductive Refuses : Failure → Prop
  | profiles {e : Failure}
    (spoilt : ProfileStore.Spoils fs (ProfileStore.defaultPath around.vars) e) : Refuses e
  | parameters {profiles : Profiles} {e : PortalError}
    (kept : ProfileStore.Keeps fs (ProfileStore.defaultPath around.vars) profiles)
    (faulty : c.parameters fs around.vars = .error e) : Refuses (.portal e)
  | target {profiles : Profiles} {parameters : List Parameter} {e : Failure}
    (kept : ProfileStore.Keeps fs (ProfileStore.defaultPath around.vars) profiles)
    (gathered : c.parameters fs around.vars = .ok parameters)
    (unresolved : (c.selection.resolve profiles fs around.vars).run.value = .error e) : Refuses e
  | credentials {profiles : Profiles} {parameters : List Parameter} {target : Target}
    {e : PortalError}
    (kept : ProfileStore.Keeps fs (ProfileStore.defaultPath around.vars) profiles)
    (gathered : c.parameters fs around.vars = .ok parameters)
    (resolved : (c.selection.resolve profiles fs around.vars).run.value = .ok target)
    (invalid : target.credentials.validate = .error e) : Refuses (.portal e)

end

variable {around : Surroundings} {fs : Files} {c : PortalCommand} {p : Preparation}

/-- There is only one way to succeed. -/
theorem Prepares.unique {p' : Preparation} (h : c.Prepares around fs p)
    (h' : c.Prepares around fs p') : p = p' := by
  obtain ⟨kept, gathered, resolved, -⟩ := h
  obtain ⟨kept', gathered', resolved', -⟩ := h'
  obtain ⟨profiles, parameters, target⟩ := p
  obtain ⟨profiles', parameters', target'⟩ := p'
  obtain rfl : profiles = profiles' := kept.unique kept'
  obtain rfl : parameters = parameters' := Except.ok.inj (gathered.symm.trans gathered')
  obtain rfl : target = target' := Except.ok.inj (resolved.symm.trans resolved')
  rfl

/-- No stage fails where every stage succeeds. -/
theorem Refuses.not_prepares {e : Failure} (h : c.Refuses around fs e) (p : Preparation) :
    ¬ c.Prepares around fs p := by
  rintro ⟨kept', gathered', resolved', valid⟩
  cases h with
  | profiles spoilt => exact spoilt.not_keeps _ kept'
  | parameters kept faulty => exact nomatch faulty.symm.trans gathered'
  | target kept gathered unresolved =>
    obtain rfl := kept.unique kept'
    exact nomatch unresolved.symm.trans resolved'
  | credentials kept gathered resolved invalid =>
    obtain rfl := kept.unique kept'
    obtain rfl := Except.ok.inj (resolved.symm.trans resolved')
    exact nomatch invalid.symm.trans valid

theorem prepares_or_refuses (around : Surroundings) (fs : Files) (c : PortalCommand) :
    (∃ p, c.Prepares around fs p) ∨ ∃ e, c.Refuses around fs e := by
  rcases ProfileStore.keeps_or_spoils fs (ProfileStore.defaultPath around.vars) with
    ⟨profiles, kept⟩ | ⟨e, spoilt⟩
  case inr => exact .inr ⟨e, .profiles spoilt⟩
  cases gathered : c.parameters fs around.vars with
  | error e => exact .inr ⟨_, .parameters kept gathered⟩
  | ok parameters =>
    cases resolved : (c.selection.resolve profiles fs around.vars).run.value with
    | error e => exact .inr ⟨e, .target kept gathered resolved⟩
    | ok target =>
      cases valid : target.credentials.validate with
      | error e => exact .inr ⟨_, .credentials kept gathered resolved valid⟩
      | ok => exact .inl ⟨⟨profiles, parameters, target⟩, kept, gathered, resolved, valid⟩

/-- The lines that a command prints before it calls the portal of this name. -/
def heading (around : Surroundings) (output : OutputFormat) (label : String) :
    PortalCommand → List String
  | request o =>
    let workshop := Run.coloured .cyan around.colours (Text.quoted o.name)
    let portal := Run.coloured .cyan around.colours (Text.quoted label)
    match output with
    | .json => []
    | .text => [s!"Requesting workshop {workshop} from training portal {portal}."]
  | catalog _ | terminate _ _ => []

/-- What a command does with what the broker returns. -/
def conclude (around : Surroundings) (output : OutputFormat) (b : Broker) :
    (c : PortalCommand) → c.Value → CommandM Unit
  | request o, s => Run.reportSession around output o.noBrowser s (b.activationUrl s)
  | catalog _, es =>
    match output with
    | .json => CommandM.print (Json.array (es.map Environment.toJson)).pretty
    | .text => (Run.catalogLines around.colours es).forM CommandM.print
  | terminate _ _, status =>
    match output with
    | .json => CommandM.print status.toJson.pretty
    | .text => (Run.statusLines around.colours status).forM CommandM.print

/-- What a command does with a broker for a portal that is called so. -/
def proceed (around : Surroundings) (output : OutputFormat) (settings : Settings)
    (parameters : List Parameter) (c : PortalCommand) (found : Broker × String) :
    CommandM Unit := do
  (c.heading around output found.2).forM CommandM.print
  let value ← CommandM.onNetwork (found.1.carryOut (c.operation settings parameters))
  c.conclude around output found.1 value

open CommandM

variable {world : World} {profiles : Profiles} {selection : Selection}

theorem logs_onFiles {α : Type} {x : FilesM α} {r : Except Failure α} (hx : Logs x world.files r) :
    Logs (onFiles x) world r := by
  obtain ⟨value, log⟩ := hx
  rw [Logs, run_onFiles, value]
  exact ⟨rfl, log⟩

theorem logs_brokerFor_of_unresolved {e : Failure}
    (unresolved : (selection.resolve profiles world.files around.vars).run.value = .error e) :
    Logs (Run.brokerFor around profiles selection) world (.error e) := by
  have resolves := logs_ofTraced (selection.isLog_resolve profiles world.files around.vars) world
  rw [unresolved] at resolves
  exact Logs.get.bind_ok resolves.bind_error

theorem logs_brokerFor_of_resolved {target : Target}
    (resolved : (selection.resolve profiles world.files around.vars).run.value = .ok target) :
    Logs (Run.brokerFor around profiles selection) world
      ((target.credentials.validate.mapError .portal).map fun () =>
        (target.broker, target.label)) := by
  have resolves := logs_ofTraced (selection.isLog_resolve profiles world.files around.vars) world
  rw [resolved] at resolves
  refine Logs.get.bind_ok (resolves.bind_ok ?_)
  have checks := logs_ofPortal (Broker.ofCredentials target.credentials) world
  rw [Broker.ofCredentials] at checks ⊢
  cases valid : target.credentials.validate with
  | ok =>
    rw [valid] at checks
    exact checks.bind_ok (.pure _)
  | error e =>
    rw [valid] at checks
    exact checks.bind_error

theorem proceed_of_silent {output : OutputFormat}
    (silent : ∀ label, c.heading around output label = []) (settings : Settings)
    (parameters : List Parameter) :
    c.proceed around output settings parameters = fun found =>
      onNetwork (found.1.carryOut (c.operation settings parameters)) >>=
        c.conclude around output found.1 :=
  funext fun found => by
    rw [proceed, silent]
    exact pure_bind _ _

theorem catalog_eq (around : Surroundings) (output : OutputFormat) (profiles : Profiles)
    (portal : Selection) :
    Run.catalog around output profiles portal =
      Run.brokerFor around profiles portal >>=
        (catalog portal).proceed around output profiles.settings [] := by
  rw [proceed_of_silent fun _ => rfl]
  refine congrArg (Run.brokerFor around profiles portal >>= ·) (funext fun (broker, label) => ?_)
  refine congrArg (onNetwork broker.listEnvironments >>= ·) (funext fun es => ?_)
  cases output <;> rfl

theorem terminate_eq (around : Surroundings) (output : OutputFormat) (profiles : Profiles)
    (session : String) (portal : Selection) :
    Run.terminate around output profiles session portal =
      Run.brokerFor around profiles portal >>=
        (terminate session portal).proceed around output profiles.settings [] := by
  rw [proceed_of_silent fun _ => rfl]
  refine congrArg (Run.brokerFor around profiles portal >>= ·) (funext fun (broker, label) => ?_)
  refine congrArg (onNetwork (broker.terminateSession session) >>= ·) (funext fun status => ?_)
  cases output <;> rfl

theorem request_eq (around : Surroundings) (output : OutputFormat) (profiles : Profiles)
    (o : RequestOptions) :
    Run.request around output profiles o = get >>= fun world =>
      liftM (ParameterSet.assemble world.files around.vars o.literals o.files o.envFiles) >>=
        fun gathered => ofPortal gathered >>= fun parameters =>
          Run.brokerFor around profiles o.portal >>=
            (request o).proceed around output profiles.settings parameters := by
  refine congrArg (get >>= ·) (funext fun world => ?_)
  refine congrArg (liftM (ParameterSet.assemble _ _ _ _ _) >>= ·) (funext fun r => ?_)
  refine congrArg (ofPortal r >>= ·) (funext fun parameters => ?_)
  refine congrArg (Run.brokerFor around profiles o.portal >>= ·) (funext fun (broker, label) => ?_)
  cases output with
  | text =>
    rfl
  | json =>
    rw [proceed_of_silent fun _ => rfl]
    rfl

/-- The stages of a command, its profiles loaded. -/
theorem leads_perform (around : Surroundings) (profiles : Profiles) (path : Option String)
    (options : CommonOptions) (c : PortalCommand) (world : World) :
    Leads (Run.perform around ⟨profiles, path⟩ ⟨options, c.action⟩)
      (ofPortal (c.parameters world.files around.vars) >>= fun parameters =>
        Run.brokerFor around profiles c.selection >>=
          c.proceed around options.output profiles.settings parameters) world := by
  have gathered (f : List Parameter → CommandM Unit) : (ofPortal (.ok []) >>= f) = f [] :=
    pure_bind _ _
  cases c with
  | request o =>
    change Leads (Run.request around options.output profiles o) _ world
    rw [request_eq]
    refine Logs.get.leads.trans ?_
    exact (Logs.lift (ParameterSet.isLog_assemble world.files around.vars _ _ _)).leads
  | catalog portal =>
    change Leads (Run.catalog around options.output profiles portal) _ world
    rw [catalog_eq, parameters, gathered, selection]
    exact .refl _ _
  | terminate session portal =>
    change Leads (Run.terminate around options.output profiles session portal) _ world
    rw [terminate_eq, parameters, gathered, selection]
    exact .refl _ _

/-- The same, from the start of a run. -/
theorem leads_loaded {profiles : Profiles}
    (kept : ProfileStore.Keeps world.files (ProfileStore.defaultPath around.vars) profiles)
    (options : CommonOptions) (c : PortalCommand) :
    Leads (Run.run around ⟨options, c.action⟩)
      (ofPortal (c.parameters world.files around.vars) >>= fun parameters =>
        Run.brokerFor around profiles c.selection >>=
          c.proceed around options.output profiles.settings parameters) world := by
  have loads := logs_onFiles ⟨kept.holds, ProfileStore.silent_load _ world.files⟩
  refine loads.leads.trans ((Logs.lift (isLog_logged _)).leads.trans ?_)
  exact leads_perform around profiles _ options c world

/-- Where every stage succeeds, a command logs that and turns to the portal. -/
theorem leads_run (h : c.Prepares around world.files p) (options : CommonOptions) :
    Leads (Run.run around ⟨options, c.action⟩)
      (c.proceed around options.output p.profiles.settings p.parameters
        (p.target.broker, p.target.label)) world := by
  obtain ⟨kept, gathered, resolved, valid⟩ := h
  refine (leads_loaded kept options c).trans ?_
  have gathers := logs_ofPortal (c.parameters world.files around.vars) world
  have found := logs_brokerFor_of_resolved resolved
  rw [gathered] at gathers ⊢
  rw [valid] at found
  exact gathers.leads.trans found.leads

/-- Where a stage fails, a command logs those before it and ends. -/
theorem logs_run_of_refuses {e : Failure} (h : c.Refuses around world.files e)
    (options : CommonOptions) : Logs (Run.run around ⟨options, c.action⟩) world (.error e) := by
  cases h with
  | profiles spoilt =>
    have loads := logs_onFiles ⟨ProfileStore.value_load_of_spoils spoilt,
      ProfileStore.silent_load _ world.files⟩
    exact loads.bind_error
  | parameters kept faulty =>
    refine .of_leads (leads_loaded kept options c) ?_
    have gathers := logs_ofPortal (c.parameters world.files around.vars) world
    rw [faulty] at gathers ⊢
    exact gathers.bind_error
  | target kept gathered unresolved =>
    refine .of_leads (leads_loaded kept options c) ?_
    have gathers := logs_ofPortal (c.parameters world.files around.vars) world
    rw [gathered] at gathers ⊢
    exact gathers.bind_ok (logs_brokerFor_of_unresolved unresolved).bind_error
  | credentials kept gathered resolved invalid =>
    refine .of_leads (leads_loaded kept options c) ?_
    have gathers := logs_ofPortal (c.parameters world.files around.vars) world
    have fails := logs_brokerFor_of_resolved resolved
    rw [gathered] at gathers ⊢
    rw [invalid] at fails
    exact gathers.bind_ok fails.bind_error

end PortalCommand

end TrainingPortal
