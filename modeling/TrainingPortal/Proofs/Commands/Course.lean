import TrainingPortal.Proofs.Commands.Stages
import TrainingPortal.Run.Process

/-!
# The course of a command

A run of a command that talks to a portal takes one of three courses: a stage before the portal is
called fails (`PortalCommand.seen_of_refuses`), or the broker returns an error (`seen_of_error`), or
it returns a value, which the command then reports (`seen_of_ok`). The operation of the broker
itself neither prints nor opens anything (`Broker.shows_carryOut`), so what the user sees of a run
is what the command prints before and after it. No course changes a file (`stages_in_order`).
-/

namespace TrainingPortal

open Stateful Traced

/-! ## What the user does not see -/

/-- Whether the user sees nothing of an event: neither a line nor a page. -/
def Event.Unseen (event : Event) : Prop := event.line? = none ∧ event.address? = none

namespace Traced

variable {trace : List Event}

theorem lines_of_unseen (h : ∀ event ∈ trace, event.Unseen) : lines trace = [] :=
  List.filterMap_eq_nil_iff.2 fun event mem => (h event mem).1

theorem openings_of_unseen (h : ∀ event ∈ trace, event.Unseen) : openings trace = [] :=
  List.filterMap_eq_nil_iff.2 fun event mem => (h event mem).2

@[simp] theorem lines_printed (ls : List String) : lines (ls.map .printed) = ls :=
  List.filterMap_map.trans (List.filterMap_some)

@[simp] theorem openings_printed (ls : List String) : openings (ls.map .printed) = [] := by
  simp [openings, Event.address?]

@[simp] theorem calls_printed (ls : List String) : calls (ls.map .printed) = [] := by
  simp [calls, Event.call?]

end Traced

namespace Broker

open PortalM Http

variable {α : Type}

theorem shows_logIn (b : Broker) : Shows Event.Unseen b.logIn := by
  cases valid : b.credentials.validate with
  | ok =>
    exact (Login.exchange_start valid b.base).shows (fun _ _ => ⟨rfl, rfl⟩) ⟨rfl, rfl⟩
      fun _ => ⟨rfl, rfl⟩
  | error e => exact (Login.quiet_start valid b.base).shows fun _ _ => ⟨rfl, rfl⟩

/-- **The user sees nothing of an operation.** -/
theorem shows_carryOut (b : Broker) (o : Operation α) : Shows Event.Unseen (b.carryOut o) := by
  have works (l : Login) : Shows Event.Unseen (b.work o l) :=
    shows_work_of (fun plain => plain.shows_of (fun _ _ => ⟨rfl, rfl⟩) (fun _ _ => ⟨rfl, rfl⟩)
      fun _ => ⟨rfl, rfl⟩) b o l
  intro n event mem
  obtain ⟨e, -, eq⟩ | ⟨l, -, log, -, eq⟩ := b.trace_carryOut o n
  · exact b.shows_logIn n event (eq ▸ mem)
  · rw [eq, List.mem_append, List.mem_append, List.mem_append] at mem
    rcases mem with mem | mem | mem | mem
    · exact b.shows_logIn n event mem
    · exact works l _ event mem
    · obtain rfl | ⟨r, rfl⟩ := mem_trace_attempt mem <;> exact ⟨rfl, rfl⟩
    · obtain ⟨e, -, rfl⟩ := List.mem_map.1 mem
      exact ⟨rfl, rfl⟩

end Broker

/-! ## Before and after the operation -/

theorem CommandM.run_forM_print (ls : List String) (world : World) :
    List.forM (m := CommandM) ls print world = ⟨(.ok (), world), ls.map .printed⟩ := by
  induction ls with
  | nil => rfl
  | cons line ls ih =>
    refine (run_bind (print line) (fun _ => List.forM (m := CommandM) ls print) world).trans ?_
    rw [run_print]
    exact congrArg (fun t : Traced (Except Failure Unit × World) =>
      Traced.mk t.value (Event.printed line :: t.trace)) ih

namespace PortalCommand

open CommandM

/-- The lines that a command prints about what the broker returned. -/
def told (around : Surroundings) (output : OutputFormat) (b : Broker) :
    (c : PortalCommand) → c.Value → List String
  | request o, s =>
    let url := b.activationUrl s
    let page := Run.coloured .brightBlue around.colours url
    let user := Run.coloured .brightGreen around.colours (Text.quoted s.user)
    let name := Run.coloured .brightGreen around.colours (Text.quoted s.name)
    match output with
    | .json => [(Run.sessionJson s url).pretty]
    | .text => [s!"Assigned training portal user {user}.", s!"Workshop session name is {name}.",
        if o.noBrowser then s!"Workshop activation URL is {page}."
        else s!"Opening workshop URL {page}."]
  | catalog _, es =>
    match output with
    | .json => [(Json.array (es.map Environment.toJson)).pretty]
    | .text => Run.catalogLines around.colours es
  | terminate _ _, status =>
    match output with
    | .json => [status.toJson.pretty]
    | .text => Run.statusLines around.colours status

/-- The address that a command opens when the broker returned a value, if it opens any. -/
def opened (output : OutputFormat) (b : Broker) : (c : PortalCommand) → c.Value → Option String
  | request o, s => if output = .text ∧ o.noBrowser = false then some (b.activationUrl s) else none
  | catalog _, _ | terminate _ _, _ => none

/-- What opening an address comes to. -/
def ending (around : Surroundings) : Option String → Except Failure Unit
  | none => .ok ()
  | some _ => if around.browserOpens then .ok () else .error .browserNotOpened

/-- The trace of opening an address. -/
def openingTrace : Option String → List Event
  | none => []
  | some address =>
    [.logged ⟨.info, .workshop, s!"Opening browser on {address}"⟩, .opened address]

variable {around : Surroundings} {output : OutputFormat} {c : PortalCommand} {world : World}

theorem run_openBrowser (around : Surroundings) (address : String) (world : World) :
    Run.openBrowser around address world =
      ⟨(ending around (some address), world), openingTrace (some address)⟩ := by
  refine (lift_bind _ _ world).trans ?_
  rw [lift_bind, ending]
  cases around.browserOpens <;> rfl

theorem run_conclude (around : Surroundings) (output : OutputFormat) (b : Broker)
    (c : PortalCommand) (v : c.Value) (world : World) :
    c.conclude around output b v world = ⟨(ending around (c.opened output b v), world),
      (c.told around output b v).map .printed ++ openingTrace (c.opened output b v)⟩ := by
  cases c with
  | request o =>
    cases output with
    | json => exact run_print _ world
    | text =>
      refine (run_bind _ _ world).trans ?_
      rw [run_print]
      dsimp only
      rw [run_bind, run_print]
      dsimp only
      cases quiet : o.noBrowser with
      | true =>
        rw [if_pos rfl, run_print]
        simp [opened, told, quiet, ending, openingTrace]
      | false =>
        rw [if_neg (by decide), run_bind, run_print]
        dsimp only
        rw [run_openBrowser]
        simp [opened, told, quiet, ending, openingTrace]
  | catalog portal =>
    cases output with
    | json => exact run_print _ world
    | text => exact (run_forM_print _ world).trans (congrArg _ (List.append_nil _).symm)
  | terminate session portal =>
    cases output with
    | json => exact run_print _ world
    | text => exact (run_forM_print _ world).trans (congrArg _ (List.append_nil _).symm)

/-! ## The courses of a run -/

/-- What a prepared command has the broker do. -/
def transaction (c : PortalCommand) (p : Preparation) : PortalM c.Value :=
  p.target.broker.carryOut (c.operation p.profiles.settings p.parameters)

/-- A command with a broker prints its heading, has the broker carry out the operation, and reports
the value that this returns, if it returns one. -/
theorem run_proceed (around : Surroundings) (output : OutputFormat) (c : PortalCommand)
    (p : Preparation) (world : World) :
    c.proceed around output p.profiles.settings p.parameters (p.target.broker, p.target.label)
        world =
      match (c.transaction p).outcome world.network with
      | .error e =>
        ⟨(.error (.portal e), { world with network := (c.transaction p).left world.network }),
          (c.heading around output p.target.label).map .printed ++
            (c.transaction p).trace world.network⟩
      | .ok v =>
        ⟨(ending around (c.opened output p.target.broker v),
            { world with network := (c.transaction p).left world.network }),
          (c.heading around output p.target.label).map .printed ++
            ((c.transaction p).trace world.network ++
              ((c.told around output p.target.broker v).map .printed ++
                openingTrace (c.opened output p.target.broker v)))⟩ := by
  rw [proceed, run_bind, run_forM_print]
  dsimp only
  rw [run_bind, run_onNetwork, transaction]
  dsimp only
  cases (p.target.broker.carryOut (c.operation p.profiles.settings p.parameters)).outcome
      world.network with
  | error e => rfl
  | ok v =>
    simp only [Except.mapError, run_conclude]

theorem report_eq (around : Surroundings) (i : Invocation) (world : World) :
    Run.report around i world =
      { failure := match (Run.run around i world).value.1 with | .ok () => none | .error e => some e
        trace := (Run.run around i world).trace
        world := (Run.run around i world).value.2 } := by
  unfold Run.report
  rfl

variable {options : CommonOptions} {p : Preparation}

theorem report_of_refuses {e : Failure} (h : c.Refuses around world.files e)
    (options : CommonOptions) :
    let r := Run.report around ⟨options, c.action⟩ world
    r.failure = some e ∧ IsLog r.trace ∧ r.world = world := by
  obtain ⟨value, logged⟩ := logs_run_of_refuses h options
  simp only [report_eq, value, logged, and_self]

theorem report_of_prepares (h : c.Prepares around world.files p) (options : CommonOptions) :
    let r := Run.report around ⟨options, c.action⟩ world
    let heading := (c.heading around options.output p.target.label).map Event.printed
    r.world.files = world.files ∧ ∃ log, IsLog log ∧
      match (c.transaction p).outcome world.network with
      | .error e =>
        r.failure = some (.portal e) ∧
          r.trace = log ++ (heading ++ (c.transaction p).trace world.network)
      | .ok v =>
        (r.failure = match ending around (c.opened options.output p.target.broker v) with
          | .ok () => none
          | .error e => some e) ∧
          r.trace = log ++ (heading ++ ((c.transaction p).trace world.network ++
            ((c.told around options.output p.target.broker v).map .printed ++
              openingTrace (c.opened options.output p.target.broker v)))) := by
  obtain ⟨log, logged, eq⟩ := leads_run h options
  rw [report_eq, eq, run_proceed]
  cases (c.transaction p).outcome world.network <;> exact ⟨rfl, log, logged, rfl, rfl⟩

/-! ## What the user sees -/

/-- What the user sees of a run: its exit code, the lines printed and the address opened. -/
structure Seen (r : Run.Report) (exitCode : Nat) (printed : List String)
    (address : Option String) : Prop where
  exitCode : r.exitCode = exitCode
  lines : lines r.trace = printed
  openings : openings r.trace = address.toList

theorem Seen.output_eq {r : Run.Report} {exitCode : Nat} {printed : List String}
    {address : Option String} (h : Seen r exitCode printed address) :
    Traced.output r.trace = String.join (printed.map (· ++ "\n")) := by
  rw [Traced.output_eq, h.lines]

@[simp] theorem openings_openingTrace (address : Option String) :
    openings (openingTrace address) = address.toList := by
  cases address <;> rfl

@[simp] theorem lines_openingTrace (address : Option String) :
    lines (openingTrace address) = [] := by
  cases address <;> rfl

@[simp] theorem calls_openingTrace (address : Option String) :
    calls (openingTrace address) = [] := by
  cases address <;> rfl

/-- The user sees nothing of what the broker does. -/
theorem unseen_transaction (c : PortalCommand) (p : Preparation) (n : Http.Network) :
    ∀ event ∈ (c.transaction p).trace n, event.Unseen :=
  p.target.broker.shows_carryOut _ n

theorem seen_of_refuses (options : CommonOptions) (world : World) {e : Failure}
    (h : c.Refuses around world.files e) :
    Seen (Run.report around ⟨options, c.action⟩ world) 1 [] none := by
  obtain ⟨failure, logged, -⟩ := report_of_refuses h options
  exact ⟨by simp [Run.Report.exitCode, failure], logged.lines, logged.openings⟩

theorem seen_of_error (options : CommonOptions) (world : World) {e : PortalError}
    (h : c.Prepares around world.files p)
    (failed : (c.transaction p).outcome world.network = .error e) :
    Seen (Run.report around ⟨options, c.action⟩ world) 1
      (c.heading around options.output p.target.label) none := by
  obtain ⟨-, log, logged, ends⟩ := report_of_prepares h options
  rw [failed] at ends
  obtain ⟨failure, trace⟩ := ends
  have unseen := c.unseen_transaction p world.network
  refine ⟨by simp [Run.Report.exitCode, failure], ?_, ?_⟩
  · simp [trace, logged.lines, lines_of_unseen unseen]
  · simp [trace, logged.openings, openings_of_unseen unseen]

theorem seen_of_ok (options : CommonOptions) (world : World) {v : c.Value}
    (h : c.Prepares around world.files p)
    (returned : (c.transaction p).outcome world.network = .ok v) :
    Seen (Run.report around ⟨options, c.action⟩ world)
      (if (c.opened options.output p.target.broker v).isSome ∧ around.browserOpens = false
        then 1 else 0)
      (c.heading around options.output p.target.label ++
        c.told around options.output p.target.broker v)
      (c.opened options.output p.target.broker v) := by
  obtain ⟨-, log, logged, ends⟩ := report_of_prepares h options
  rw [returned] at ends
  obtain ⟨failure, trace⟩ := ends
  have unseen := c.unseen_transaction p world.network
  refine ⟨?_, ?_, ?_⟩
  · rw [Run.Report.exitCode, failure]
    cases c.opened options.output p.target.broker v with
    | none => rfl
    | some address => cases opens : around.browserOpens <;> simp [ending, opens]
  · simp [trace, logged.lines, lines_of_unseen unseen]
  · simp [trace, logged.openings, openings_of_unseen unseen]

/-! ## Runs of the program -/

/-- Whether a run of the program shows what the run of its command shows, after one more entry of
the log. -/
structure Wraps (whole : Run.Outcome) (r : Run.Report) : Prop where
  exitCode : whole.exitCode = r.exitCode
  output : whole.output = Traced.output r.trace
  trace : whole.trace = .logged ⟨.info, .main, "Starting workshop-cli"⟩ :: r.trace

theorem Seen.whole {r : Run.Report} {exitCode : Nat} {printed : List String}
    {address : Option String} (seen : Seen r exitCode printed address) {whole : Run.Outcome}
    (wraps : Wraps whole r) :
    whole.exitCode = exitCode ∧ Traced.openings whole.trace = address.toList ∧
      whole.output = String.join (printed.map (· ++ "\n")) := by
  obtain ⟨code, output, trace⟩ := wraps
  rw [code, output, trace, openings_logged]
  exact ⟨seen.exitCode, seen.openings, seen.output_eq⟩

theorem wraps_execute {words : List String} {i : Invocation}
    (read : CommandLine.read around.vars words = .ok i) (stamp : String) (world : World) :
    Wraps (Run.execute around words stamp world)
      (Run.report around i { world with files := (Run.openLog around world.files).2.2 }) := by
  rcases opened : Run.openLog around world.files with ⟨sink, warning, files⟩
  have printed (entry : LogEntry) (trace : List Event) :
      Traced.output (.logged entry :: trace) = Traced.output trace := rfl
  unfold Run.execute
  constructor <;> simp only [read, opened, printed]

/-! ## The order of the stages -/

theorem calls_report_of_prepares (h : c.Prepares around world.files p) (options : CommonOptions) :
    calls (Run.report around ⟨options, c.action⟩ world).trace =
      calls ((c.transaction p).trace world.network) := by
  obtain ⟨-, log, logged, ends⟩ := report_of_prepares h options
  cases outcome : (c.transaction p).outcome world.network <;> rw [outcome] at ends <;>
    simp [ends.2, logged.calls]

theorem files_report (around : Surroundings) (options : CommonOptions) (c : PortalCommand)
    (world : World) :
    (Run.report around ⟨options, c.action⟩ world).world.files = world.files := by
  obtain ⟨p, h⟩ | ⟨e, h⟩ := prepares_or_refuses around world.files c
  · exact (report_of_prepares h options).1
  · exact congrArg World.files (report_of_refuses h options).2.2

/-- **The stages of a command come in order, before the portal is called.** A run changes no file.
Either a stage fails after those before it succeeded; then the failure is that of this stage,
whatever comes of the later ones, the exit code is 1, nothing is printed, nothing is opened, and the
portal is not called. Or every stage succeeds; then the portal is called, first for a token. -/
theorem stages_in_order (around : Surroundings) (options : CommonOptions) (c : PortalCommand)
    (world : World) :
    let r := Run.report around ⟨options, c.action⟩ world
    r.world.files = world.files ∧
    ((∃ e, c.Refuses around world.files e) ∨ ∃ p, c.Prepares around world.files p) ∧
    (∀ e, c.Refuses around world.files e →
      r.failure = some e ∧ r.exitCode = 1 ∧ Traced.output r.trace = "" ∧
      Traced.openings r.trace = [] ∧ Traced.calls r.trace = [] ∧ Traced.requests r.trace = [] ∧
      r.world = world) ∧
    ∀ p, c.Prepares around world.files p →
      (Traced.calls r.trace).head? =
        some (Login.tokenCall p.target.broker.base p.target.credentials) := by
  intro r
  refine ⟨files_report around options c world, (prepares_or_refuses around world.files c).symm,
    fun e refuses => ?_, fun p prepares => ?_⟩
  · obtain ⟨failure, logged, same⟩ := report_of_refuses refuses options
    have seen := seen_of_refuses options world refuses
    exact ⟨failure, seen.exitCode, seen.output_eq, seen.openings, logged.calls, logged.requests,
      same⟩
  · have valid : p.target.broker.credentials.validate = .ok () := prepares.credentials
    rw [calls_report_of_prepares prepares, transaction, Broker.calls_eq, Login.calls_start, valid]
    rfl

/-- A request with a faulty parameter and an unknown profile fails with the parameter. -/
theorem stages_in_order_faulty_parameter :
    let o : RequestOptions := { name := "w", literals := ["x"], portal := { portal := some "p" } }
    let r := Run.report {} ⟨{}, .request o⟩ ⟨{}, ⟨true, []⟩⟩
    (o.portal.resolve {} {} []).run.value = .error (.profileUnknown "p") ∧
      r.failure = some (.portal (.precondition "invalid parameter format x")) ∧
      r.exitCode = 1 ∧ Traced.calls r.trace = [] := by
  intro o r
  have kept : ProfileStore.Keeps {} (ProfileStore.defaultPath []) {} := .missing (by decide +kernel)
  have refuses : (request o).Refuses {} {} (.portal (.precondition "invalid parameter format x")) :=
    .parameters kept (by decide +kernel)
  obtain ⟨-, -, refused, -⟩ := stages_in_order {} {} (request o) ⟨{}, ⟨true, []⟩⟩
  obtain ⟨failure, code, -, -, calls, -⟩ := refused _ refuses
  exact ⟨rfl, failure, code, calls⟩

end PortalCommand

end TrainingPortal
