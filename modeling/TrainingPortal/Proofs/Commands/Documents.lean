import TrainingPortal.Proofs.Commands.Course
import TrainingPortal.Proofs.Records

/-!
# Output as JSON

A command whose output is JSON prints one document if the broker returns a value, and nothing
otherwise, and opens nothing. The document is read back as what was printed
(`Json.parse?_pretty_line`), and the value that the broker returned is read from it
(`PortalCommand.conveys_document`), since that value was itself read from what the portal sent.
-/

namespace TrainingPortal.PortalCommand

open Traced

/-- What a command prints about what the broker returned where output is JSON. -/
def document (b : Broker) : (c : PortalCommand) → c.Value → Json
  | request _, s => Run.sessionJson s (b.activationUrl s)
  | catalog _, es => .array (es.map Environment.toJson)
  | terminate _ _, status => status.toJson

/-- Whether a value is what a reader of a document finds in it: the environments of a catalog in
order, the status of a session, or a session with the address that activates it on the portal with
this base. -/
def Conveys (base : String) (j : Json) : (c : PortalCommand) → c.Value → Prop
  | request _, s => ∃ session,
      Json.fields? ["session", "activationUrl"] j =
        some [some session, some (.text (base ++ s.url))] ∧
      Session.ofJson? session = some s
  | catalog _, es => Json.toList? Environment.ofJson? j = some es
  | terminate _ _, status => SessionStatus.ofJson? j = some status

variable {around : Surroundings} {options : CommonOptions} {c : PortalCommand} {b : Broker}

theorem told_json (v : c.Value) : c.told around .json b v = [(c.document b v).pretty] := by
  cases c <;> rfl

theorem opened_json (v : c.Value) : c.opened .json b v = none := by
  cases c <;> rfl

theorem heading_json (label : String) : c.heading around .json label = [] := by
  cases c <;> rfl

theorem exact_document (v : c.Value) : (c.document b v).Exact := by
  cases c with
  | request o =>
    refine .object (List.forall_mem_cons.2 ⟨.text _, List.forall_mem_singleton.2 ?_⟩)
    refine .object fun member mem => ?_
    simp only [List.mem_cons, List.not_mem_nil, or_false] at mem
    rcases mem with rfl | rfl | rfl | rfl | rfl | rfl <;> constructor
  | catalog portal =>
    refine .array fun item mem => ?_
    obtain ⟨e, -, rfl⟩ := List.mem_map.1 mem
    exact e.exact_toJson
  | terminate session portal => exact SessionStatus.exact_toJson v

/-- A document conveys any value that was read from another one. -/
theorem conveys_document {settings : Settings} {parameters : List Parameter} {v : c.Value}
    (read : ∃ j, (c.operation settings parameters).ofJson? j = some v) :
    c.Conveys b.base (c.document b v) v := by
  obtain ⟨j, read⟩ := read
  cases c with
  | request o => exact ⟨_, rfl, Session.ofJson?_of_fields rfl⟩
  | catalog portal =>
    have named := Environment.named_of_listingOfJson? read
    exact Json.toList?_map fun e mem => Environment.ofJson?_toJson (named e mem)
  | terminate session portal =>
    exact SessionStatus.ofJson?_toJson (SessionStatus.counts_of_ofJson? read)

/-- The document about what the broker returned, printed alone, is read back and conveys that. -/
theorem exists_document_of_ok {p : Preparation} {n : Http.Network} {v : c.Value} {output : String}
    (returned : (c.transaction p).outcome n = .ok v)
    (printed : output = String.join ([(c.document p.target.broker v).pretty].map (· ++ "\n"))) :
    ∃ j, output = j.pretty ++ "\n" ∧ Json.parse? output = some j ∧
      c.Conveys p.target.broker.base j v := by
  have line : output = (c.document p.target.broker v).pretty ++ "\n" :=
    printed.trans String.empty_append
  refine ⟨_, line, ?_, conveys_document (Broker.reads_of_outcome returned)⟩
  rw [line]
  exact Json.parse?_pretty_line (exact_document v)

/-- **Output as JSON is one document or nothing.** A run of the program whose output is JSON opens
nothing. Where the broker returns a value, the exit code is 0 and the output is one document, which
conveys that value; otherwise, be it that a stage failed or that the broker returned an error, the
exit code is 1 and the output is empty. -/
theorem json_output {words : List String}
    (read : CommandLine.read around.vars words = .ok ⟨options, c.action⟩)
    (json : options.output = .json) (stamp : String) (world : World) :
    let r := Run.execute around words stamp world
    let files := (Run.openLog around world.files).2.2
    openings r.trace = [] ∧
    ((r.exitCode = 0 ∧ ∃ p v j, c.Prepares around files p ∧
        (c.transaction p).outcome world.network = .ok v ∧ r.output = j.pretty ++ "\n" ∧
        Json.parse? r.output = some j ∧ c.Conveys p.target.broker.base j v) ∨
      (r.exitCode = 1 ∧ r.output = "" ∧
        ∀ p v, c.Prepares around files p → (c.transaction p).outcome world.network ≠ .ok v)) := by
  intro r files
  let started : World := { world with files }
  have wraps := wraps_execute read stamp world
  obtain ⟨p, prepares⟩ | ⟨e, refuses⟩ := prepares_or_refuses around files c
  case inr =>
    obtain ⟨one, shut, silent⟩ := (seen_of_refuses options started refuses).whole wraps
    exact ⟨shut, .inr ⟨one, silent, fun p v prepares => absurd prepares (refuses.not_prepares p)⟩⟩
  cases outcome : (c.transaction p).outcome world.network with
  | error e =>
    have seen := seen_of_error options started prepares outcome
    rw [json, heading_json] at seen
    obtain ⟨one, shut, silent⟩ := seen.whole wraps
    refine ⟨shut, .inr ⟨one, silent, fun p' v prepares' => ?_⟩⟩
    obtain rfl := prepares.unique prepares'
    rw [outcome]
    exact nofun
  | ok v =>
    have seen := seen_of_ok options started prepares outcome
    rw [json, heading_json, told_json, opened_json] at seen
    obtain ⟨zero, shut, printed⟩ := seen.whole wraps
    obtain ⟨j, document⟩ := exists_document_of_ok outcome printed
    exact ⟨shut, .inl ⟨zero, p, v, j, prepares, outcome, document⟩⟩

/-- The least countdown that a portal can send is printed and read back. -/
theorem json_output_least_countdown :
    let around : Surroundings :=
      { vars := [("WORKSHOP_PORTAL_URL", "http://p"), ("WORKSHOP_CLIENT_ID", "c"),
          ("WORKSHOP_CLIENT_SECRET", "s"), ("WORKSHOP_USERNAME", "u"), ("WORKSHOP_PASSWORD", "p")] }
    let words := ["session", "terminate", "w", "--output", "json", "--from-env"]
    let world : World := ⟨{}, ⟨true, [.answer 200 "[\"t\"]".toUTF8.toList,
      .answer 200 "\x7b\"countdown\": -9223372036854775808\x7d".toUTF8.toList, .answer 200 []]⟩⟩
    let r := Run.execute around words "" world
    CommandLine.read around.vars words = .ok ⟨⟨none, .json⟩, .terminate "w" { fromEnv := true }⟩ ∧
      r.exitCode = 0 ∧ openings r.trace = [] ∧
      ∃ j status, Json.parse? r.output = some j ∧ SessionStatus.ofJson? j = some status := by
  intro around words world r
  have read : CommandLine.read around.vars words =
      .ok ⟨⟨none, .json⟩, (terminate "w" { fromEnv := true }).action⟩ := by decide +kernel
  have succeeds : r.exitCode = 0 := by decide +kernel
  obtain ⟨opens, ⟨-, p, status, j, -, -, -, parsed, conveys⟩ | ⟨fails, -⟩⟩ :=
    json_output read rfl "" world
  · exact ⟨read, succeeds, opens, j, status, parsed, conveys⟩
  · exact absurd (succeeds.symm.trans fails) (by decide)

end TrainingPortal.PortalCommand
