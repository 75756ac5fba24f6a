import TrainingPortal.Proofs.Commands.Documents
import TrainingPortal.Proofs.Style

/-!
# An allocated session is announced

A session that was allocated and of which the user is not told can never be terminated. So a request
tells the user about every session that the broker returns, in either format, in colours or without,
and also if no browser can be opened (`PortalCommand.request_announces`). A browser is opened only
for such a session, once, at the address that was printed, as the last thing that happens and after
the token was handed back.
-/

namespace TrainingPortal.PortalCommand

open Text Traced

/-! ## When a browser is opened -/

/-- Where the last event is the only opening, it is the one that is found. -/
theorem opening_eq_last {stem before after : List Event} {url address : String}
    (shut : openings stem = []) (eq : stem ++ [.opened url] = before ++ .opened address :: after) :
    before = stem ∧ address = url ∧ after = [] := by
  have split : before ++ .opened address :: after = (before ++ [.opened address]) ++ after := by
    simp
  rcases List.eq_nil_or_concat after with rfl | ⟨rest, last, rfl⟩
  · obtain ⟨same, last⟩ := List.append_inj' eq rfl
    cases last
    exact ⟨same.symm, rfl, rfl⟩
  · -- an opening before the last event would be one in the stem
    rw [split, List.concat_eq_append, ← List.append_assoc] at eq
    obtain ⟨rfl, -⟩ := List.append_inj' eq rfl
    simp [openings, Event.address?] at shut

theorem ne_of_shut {trace before after : List Event} {address : String}
    (shut : openings trace = []) : trace ≠ before ++ .opened address :: after := by
  rintro rfl
  simp [openings, Event.address?] at shut

/-- The last call of an operation whose login succeeded hands the token back. -/
theorem getLast?_calls_carryOut {α : Type} {b : Broker} {l : Login} {n : Http.Network}
    (login : b.logIn.outcome n = .ok l) (o : Broker.Operation α) :
    (calls ((b.carryOut o).trace n)).getLast? = some l.revokeCall := by
  rw [Broker.calls_eq, login, ← List.append_assoc]
  exact List.getLast?_concat

variable {around : Surroundings} {options : CommonOptions} {c : PortalCommand} {p : Preparation}
  {world : World}

theorem exists_login_of_ok {v : c.Value}
    (returned : (c.transaction p).outcome world.network = .ok v) :
    ∃ l, p.target.broker.logIn.outcome world.network = .ok l := by
  rw [transaction, Broker.outcome_carryOut, Broker.beforeReturn, PortalM.outcome_bind] at returned
  obtain ⟨l, login, -⟩ := bind_eq_ok_iff.1 returned
  exact ⟨l, login⟩

/-- Where an address is opened, all calls are those of the broker, and come before. -/
theorem exists_stem {v : c.Value} {url : String} (h : c.Prepares around world.files p)
    (returned : (c.transaction p).outcome world.network = .ok v)
    (opened : c.opened options.output p.target.broker v = some url) :
    ∃ stem, (Run.report around ⟨options, c.action⟩ world).trace = stem ++ [.opened url] ∧
      openings stem = [] ∧ calls stem = calls ((c.transaction p).trace world.network) := by
  obtain ⟨-, log, logged, ends⟩ := report_of_prepares h options
  rw [returned] at ends
  obtain ⟨-, trace⟩ := ends
  rw [opened, openingTrace] at trace
  have unseen := c.unseen_transaction p world.network
  refine ⟨log ++ ((c.heading around options.output p.target.label).map .printed ++
    ((c.transaction p).trace world.network ++
      ((c.told around options.output p.target.broker v).map .printed ++
        [.logged ⟨.info, .workshop, s!"Opening browser on {url}"⟩]))), ?_, ?_, ?_⟩
  · simp [trace]
  · simp [logged.openings, openings_of_unseen unseen]
  · simp [logged.calls]

/-- What is opened is opened last, after the token was handed back. -/
theorem opened_last {v : c.Value} (h : c.Prepares around world.files p)
    (returned : (c.transaction p).outcome world.network = .ok v) {before after : List Event}
    {address : String}
    (eq : (Run.report around ⟨options, c.action⟩ world).trace =
      before ++ .opened address :: after) :
    after = [] ∧ ∃ l, p.target.broker.logIn.outcome world.network = .ok l ∧
      (calls before).getLast? = some l.revokeCall := by
  obtain ⟨l, login⟩ := exists_login_of_ok returned
  cases opened : c.opened options.output p.target.broker v with
  | none =>
    have seen := seen_of_ok options world h returned
    rw [opened] at seen
    exact absurd eq (ne_of_shut seen.openings)
  | some url =>
    obtain ⟨stem, trace, shut, made⟩ := exists_stem h returned opened
    obtain ⟨rfl, -, rfl⟩ := opening_eq_last shut (trace.symm.trans eq)
    exact ⟨rfl, l, login, made ▸ getLast?_calls_carryOut login _⟩

/-! ## What a request tells -/

/-- The line that says what is requested. -/
def requestLine (workshop portal : String) : String :=
  s!"Requesting workshop {workshop} from training portal {portal}." ++ "\n"

/-- The lines that tell of a session. -/
def sessionLines (noBrowser : Bool) (user name address : String) : String :=
  String.join ([s!"Assigned training portal user {user}.", s!"Workshop session name is {name}.",
    if noBrowser then s!"Workshop activation URL is {address}."
    else s!"Opening workshop URL {address}."].map (· ++ "\n"))

theorem requestLine_append (workshop portal rest : String) :
    requestLine workshop portal ++ rest = "Requesting workshop " ++ (workshop ++
      (" from training portal " ++ (portal ++ ("." ++ ("\n" ++ rest))))) := by
  have line : requestLine workshop portal = "Requesting workshop " ++ workshop ++
      " from training portal " ++ portal ++ "." ++ "\n" := rfl
  simp only [line, String.append_assoc]

theorem sessionLines_eq (noBrowser : Bool) (user name address : String) :
    sessionLines noBrowser user name address = "Assigned training portal user " ++ (user ++
      ("." ++ ("\n" ++ ("Workshop session name is " ++ (name ++ ("." ++ ("\n" ++
        ((if noBrowser then "Workshop activation URL is " else "Opening workshop URL ") ++
          (address ++ ("." ++ "\n")))))))))) := by
  have joined (a b c : String) : String.join [a, b, c] = a ++ (b ++ c) := by
    simp [String.join, String.append_assoc]
  cases noBrowser <;>
    simp only [sessionLines, List.map_cons, List.map_nil, joined, toString, String.append_assoc,
      Bool.false_eq_true, if_false, if_true]

variable (colour colour' colour'' : Colour) (colours : Bool)

theorem plain_requestLine (workshop portal rest : String) :
    Style.plain (requestLine (Run.coloured colour colours workshop)
      (Run.coloured colour' colours portal) ++ rest) =
      requestLine (Style.plain workshop) (Style.plain portal) ++ Style.plain rest := by
  rw [requestLine_append, requestLine_append, Run.coloured, Run.coloured,
    Style.plain_prose (by decide), Style.plain_painted _ _ _ (by decide),
    Style.plain_painted _ _ _ (by decide), Style.plain_prose (by decide)]

theorem plain_sessionLines (noBrowser : Bool) (user name address : String) :
    Style.plain (sessionLines noBrowser (Run.coloured colour colours user)
      (Run.coloured colour' colours name) (Run.coloured colour'' colours address)) =
      sessionLines noBrowser (Style.plain user) (Style.plain name) (Style.plain address) := by
  have last : Style.isProse
      (if noBrowser then "Workshop activation URL is " else "Opening workshop URL ") := by
    cases noBrowser <;> decide
  rw [sessionLines_eq, sessionLines_eq, Run.coloured, Run.coloured, Run.coloured,
    Style.plain_prose (by decide), Style.plain_painted _ _ _ (by decide),
    Style.plain_prose (by decide), Style.plain_prose (by decide),
    Style.plain_painted _ _ _ (by decide), Style.plain_prose (by decide), Style.plain_prose last,
    Style.plain_painted _ _ _ (by decide)]
  rfl

/-- How a run of the program tells the user about a session that the broker returned. -/
structure Announces (around : Surroundings) (output : OutputFormat) (o : RequestOptions)
    (target : Target) (n : Http.Network) (s : Session) (r : Run.Outcome) : Prop where
  /-- As JSON, the output is a document with the session and the address that activates it. -/
  json : output = .json → ∃ j, r.output = j.pretty ++ "\n" ∧ Json.parse? r.output = some j ∧
    (request o).Conveys target.broker.base j s
  /-- As text, the output names the user and the session, and gives the address. -/
  text : output = .text →
    let paint (colour : Colour) := Run.coloured colour around.colours
    r.output =
      requestLine (paint .cyan (quoted o.name)) (paint .cyan (quoted target.label)) ++
        sessionLines o.noBrowser (paint .brightGreen (quoted s.user))
          (paint .brightGreen (quoted s.name)) (paint .brightBlue (target.broker.base ++ s.url))
  /-- That is also what a terminal shows of it, whatever is coloured. -/
  plain : output = .text →
    Style.plain r.output =
      requestLine (quoted o.name) (quoted target.label) ++
        sessionLines o.noBrowser (quoted s.user) (quoted s.name)
          (Style.plain (target.broker.base ++ s.url))
  /-- Where nothing is coloured, the address stands there as it is. -/
  uncoloured : output = .text → around.colours = false →
    r.output =
      requestLine (quoted o.name) (quoted target.label) ++
        sessionLines o.noBrowser (quoted s.user) (quoted s.name) (target.broker.base ++ s.url)
  openings : openings r.trace =
    if output = .text ∧ o.noBrowser = false then [target.broker.base ++ s.url] else []
  /-- What is opened is opened last, and the last call before that hands the token back. -/
  last (before after : List Event) (address : String) :
    r.trace = before ++ .opened address :: after →
      after = [] ∧ ∃ l, target.broker.logIn.outcome n = .ok l ∧
        (calls before).getLast? = some l.revokeCall
  exitCode : r.exitCode =
    if output = .text ∧ o.noBrowser = false ∧ around.browserOpens = false then 1 else 0

/-- Of the lines that a request prints, the first is there before the session is. -/
theorem output_of_text {o : RequestOptions} {s : (request o).Value} {b : Broker} {label : String}
    {output : OutputFormat} (text : output = .text) :
    let paint (colour : Colour) := Run.coloured colour around.colours
    String.join (((request o).heading around output label ++
        (request o).told around output b s).map (· ++ "\n")) =
      requestLine (paint .cyan (quoted o.name)) (paint .cyan (quoted label)) ++
        sessionLines o.noBrowser (paint .brightGreen (quoted s.user))
          (paint .brightGreen (quoted s.name)) (paint .brightBlue (b.base ++ s.url)) := by
  subst text
  exact String.join_cons

theorem announces_of_ok {o : RequestOptions} {s : (request o).Value} {whole : Run.Outcome}
    (wraps : Wraps whole (Run.report around ⟨options, (request o).action⟩ world))
    (prepares : (request o).Prepares around world.files p)
    (returned : ((request o).transaction p).outcome world.network = .ok s) :
    Announces around options.output o p.target world.network s whole := by
  have seen := seen_of_ok options world prepares returned
  have opened : (request o).opened options.output p.target.broker s =
      if options.output = .text ∧ o.noBrowser = false then some (p.target.broker.activationUrl s)
      else none := rfl
  rw [opened] at seen
  obtain ⟨code, openings, output⟩ := seen.whole wraps
  have lines (text : options.output = .text) := output.trans (output_of_text text)
  refine ⟨fun json => ?_, lines, fun text => ?_, fun text off => ?_, ?_,
    fun before after address eq => ?_, ?_⟩
  · rw [json, heading_json, told_json] at output
    exact exists_document_of_ok returned output
  · rw [lines text, plain_requestLine, plain_sessionLines]
    simp only [Style.plain_quoted]
  · rw [lines text, off]
    simp only [Run.coloured, Style.apply_uncoloured]
  · rw [openings]
    split_ifs <;> rfl
  · rw [wraps.trace] at eq
    cases before with
    | nil => cases List.head_eq_of_cons_eq eq
    | cons first before =>
      obtain ⟨ended, l, login, last⟩ := opened_last prepares returned (List.tail_eq_of_cons_eq eq)
      obtain rfl := List.head_eq_of_cons_eq eq
      exact ⟨ended, l, login, last⟩
  · rw [code]
    by_cases shows : options.output = .text ∧ o.noBrowser = false
    · simp [shows]
    · rw [if_neg shows]
      simp [← and_assoc, shows]

/-- A run of a request opens one address if it is to open any and the broker returned a session,
and otherwise none. -/
theorem opens_or_not {o : RequestOptions} {whole : Run.Outcome}
    (wraps : Wraps whole (Run.report around ⟨options, (request o).action⟩ world)) :
    let opens := options.output = .text ∧ o.noBrowser = false ∧
      ∃ p s, (request o).Prepares around world.files p ∧
        ((request o).transaction p).outcome world.network = .ok s
    (opens ∧ ∃ url, openings whole.trace = [url]) ∨ (¬ opens ∧ openings whole.trace = []) := by
  intro opens
  obtain ⟨p, prepares⟩ | ⟨e, refuses⟩ := prepares_or_refuses around world.files (request o)
  case inr =>
    refine .inr ⟨?_, ((seen_of_refuses options world refuses).whole wraps).2.1⟩
    rintro ⟨-, -, p, s, prepares, -⟩
    exact refuses.not_prepares p prepares
  cases outcome : ((request o).transaction p).outcome world.network with
  | error e =>
    refine .inr ⟨?_, ((seen_of_error options world prepares outcome).whole wraps).2.1⟩
    rintro ⟨-, -, p', s, prepares', returned⟩
    obtain rfl := prepares.unique prepares'
    exact nomatch outcome.symm.trans returned
  | ok s =>
    have shown := (announces_of_ok wraps prepares outcome).openings
    by_cases shows : options.output = .text ∧ o.noBrowser = false
    · exact .inl ⟨⟨shows.1, shows.2, p, s, prepares, outcome⟩, _, shown.trans (if_pos shows)⟩
    · exact .inr ⟨fun h => shows ⟨h.1, h.2.1⟩, shown.trans (if_neg shows)⟩

/-- **A request tells the user about every session that the broker returns**, and opens a browser
for such a session only. Where the broker returns an error, nothing is printed but that a workshop
is requested; where a stage before fails, nothing at all. -/
theorem request_announces {words : List String} {o : RequestOptions}
    (read : CommandLine.read around.vars words = .ok ⟨options, .request o⟩) (stamp : String)
    (world : World) :
    let r := Run.execute around words stamp world
    let files := (Run.openLog around world.files).2.2
    (∀ p s, (request o).Prepares around files p →
      ((request o).transaction p).outcome world.network = .ok s →
      Announces around options.output o p.target world.network s r) ∧
    (∀ p e, (request o).Prepares around files p →
      ((request o).transaction p).outcome world.network = .error e →
      let paint (colour : Colour) := Run.coloured colour around.colours
      r.exitCode = 1 ∧ openings r.trace = [] ∧
      (r.output = if options.output = .text then
        requestLine (paint .cyan (quoted o.name)) (paint .cyan (quoted p.target.label)) else "") ∧
      Style.plain r.output = if options.output = .text then
        requestLine (quoted o.name) (quoted p.target.label) else "") ∧
    (∀ e, (request o).Refuses around files e →
      r.exitCode = 1 ∧ openings r.trace = [] ∧ r.output = "") ∧
    (openings r.trace).length ≤ 1 ∧
    (openings r.trace ≠ [] ↔ options.output = .text ∧ o.noBrowser = false ∧
      ∃ p s, (request o).Prepares around files p ∧
        ((request o).transaction p).outcome world.network = .ok s) := by
  intro r files
  let started : World := { world with files }
  have wraps : Wraps r (Run.report around ⟨options, (request o).action⟩ started) :=
    wraps_execute read stamp world
  refine ⟨fun p s prepares returned => ?_, fun p e prepares failed => ?_, fun e refuses => ?_,
    ?_, ?_⟩
  · exact @announces_of_ok around options p started o s r wraps prepares returned
  · obtain ⟨code, shut, output⟩ := (seen_of_error options started prepares failed).whole wraps
    cases format : options.output with
    | json =>
      rw [format] at output
      exact ⟨code, shut, output, congrArg Style.plain output⟩
    | text =>
      rw [format] at output
      have line : r.output = requestLine (Run.coloured .cyan around.colours (quoted o.name))
          (Run.coloured .cyan around.colours (quoted p.target.label)) ++ "" :=
        output.trans (String.empty_append.trans String.append_empty.symm)
      refine ⟨code, shut, line.trans String.append_empty, ?_⟩
      rw [line, plain_requestLine, Style.plain_quoted, Style.plain_quoted]
      exact String.append_empty
  · exact (seen_of_refuses options started refuses).whole wraps
  · obtain ⟨-, url, eq⟩ | ⟨-, eq⟩ := opens_or_not wraps <;> simp [eq]
  · obtain ⟨opens, url, eq⟩ | ⟨shut, eq⟩ := opens_or_not wraps
    · exact iff_of_true (by simp [eq]) opens
    · exact iff_of_false (by simp [eq]) shut

/-- A session is announced although no browser can be opened. -/
theorem request_announces_browserless :
    let around : Surroundings :=
      { vars := [("WORKSHOP_PORTAL_URL", "http://p"), ("WORKSHOP_CLIENT_ID", "c"),
          ("WORKSHOP_CLIENT_SECRET", "s"), ("WORKSHOP_USERNAME", "u"), ("WORKSHOP_PASSWORD", "p")] }
    let words := ["workshop", "request", "--from-env", "--name", "w"]
    let o : RequestOptions := { name := "w", portal := { fromEnv := true } }
    let world : World := ⟨{}, ⟨true, [.answer 200 "[\"t\"]".toUTF8.toList,
      .answer 200 "[[[\"e\",\"RUNNING\",[\"w\"]]]]".toUTF8.toList,
      .answer 200 "[\"s\",\"u\",\"/x\"]".toUTF8.toList, .answer 200 []]⟩⟩
    let r := Run.execute around words "" world
    CommandLine.read around.vars words = .ok ⟨⟨none, .text⟩, .request o⟩ ∧ r.exitCode = 1 ∧
      ∃ target s, Announces around .text o target world.network s r := by
  intro around words o world r
  have read : CommandLine.read around.vars words = .ok ⟨⟨none, .text⟩, .request o⟩ := by
    decide +kernel
  have opens : openings r.trace ≠ [] := by decide +kernel
  obtain ⟨allocated, -, -, -, opened, -⟩ := request_announces read "" world
  obtain ⟨-, -, p, s, prepares, returned⟩ := opened opens
  have announces := allocated p s prepares returned
  exact ⟨read, announces.exitCode, p.target, s, announces⟩

end TrainingPortal.PortalCommand
