import Mathlib.Data.List.Infix
import TrainingPortal.Proofs.Dotenv
import TrainingPortal.Proofs.Parameters

/-!
# Parameters set step by step

A set of parameters is changed by operations, of which each may fail midway. Every operation
contributes pairs of names and values, whatever the set held before (`Operation.Contributes`): those
of the sources it was given, up to the first that faults, and of a dotenv file those of the lines
before the fault. The set is what these pairs come to (`performAll_contributes`).

One operation sets the pairs that it contributes (`Operation.value_perform`), and setting pairs
keeps the names that are there in their order (`names_prefix_setAll`). The rest is induction over
the operations.
-/

namespace TrainingPortal

/-! ## Names that stay -/

namespace ParameterSet

theorem names_prefix_set (ps : ParameterSet) (name value : String) :
    ps.names <+: (ps.set name value).names := by
  rw [names_set]
  split_ifs
  · exact List.prefix_refl _
  · exact List.prefix_append _ _

/-- Names that are there stay where they are, and new ones follow them. -/
theorem names_prefix_setAll (ps : ParameterSet) (pairs : List (String × String)) :
    ps.names <+: (ps.setAll pairs).names := by
  induction pairs generalizing ps with
  | nil => exact List.prefix_refl _
  | cons pair pairs ih => exact (names_prefix_set ps pair.1 pair.2).trans (ih _)

end ParameterSet

/-! ## What sources contribute -/

namespace Source

variable {fs : Files} {vars : Variables} {source : Source} {sources : List Source}
  {pairs : List (String × String)} {outcome : Except PortalError Unit} {message : String}

/-- The pairs that a source which faults gives before its fault. -/
inductive Leaves (fs : Files) (vars : Variables) : Source → List (String × String) → Prop
  | literal (item : String) : Leaves fs vars (.literal item) []
  | file (item : String) : Leaves fs vars (.file item) []
  | envFile {path : String} {bindings : List (String × String)} {fault : Dotenv.Fault}
    (interrupted : Dotenv.Interrupted fs vars path bindings fault) :
    Leaves fs vars (.envFile path) bindings

theorem exists_leaves (h : Faults fs vars source message) :
    ∃ pairs, Leaves fs vars source pairs := by
  cases h with
  | literal => exact ⟨[], .literal _⟩
  | item | file => exact ⟨[], .file _⟩
  | envFile reads => exact ⟨_, .envFile (Dotenv.read_eq_some_iff.1 reads)⟩

/-- A source that faults sets the pairs before its fault. -/
theorem value_apply_of_leaves (faults : Faults fs vars source message)
    (leaves : Leaves fs vars source pairs) (ps : ParameterSet) :
    (source.apply fs vars ps).value = (.error (.precondition message), ps.setAll pairs) := by
  cases faults with
  | literal h =>
    cases leaves
    rw [apply, ParameterSet.applyLiteral, split_of_not_mem h]
    exact Stateful.bind_fails (value_ofExcept (.error _) ps)
  | item h =>
    cases leaves
    rw [apply, ParameterSet.applyFile, split_of_not_mem h]
    exact Stateful.bind_fails (value_ofExcept (.error _) ps)
  | file splits unreadable =>
    cases leaves
    rw [apply, ParameterSet.applyFile, split_of_splits splits]
    refine (Stateful.bind_runs (value_ofExcept (.ok _) ps)).trans ?_
    dsimp only
    rw [unreadable]
    rfl
  | envFile reads =>
    cases leaves with
    | envFile interrupted =>
      cases reads.symm.trans (Dotenv.read_of_interrupted interrupted)
      rw [apply, ParameterSet.applyEnvFile, reads]
      rfl

/-- The pairs that sources contribute one after the other, and how that ends: with all of them, or
with the first that faults. -/
inductive Contribute (fs : Files) (vars : Variables) :
    List Source → Except PortalError Unit → List (String × String) → Prop
  | nil : Contribute fs vars [] (.ok ()) []
  | gives {source : Source} {sources : List Source} {outcome : Except PortalError Unit}
    {first pairs : List (String × String)} (given : Gives fs vars source first)
    (rest : Contribute fs vars sources outcome pairs) :
    Contribute fs vars (source :: sources) outcome (first ++ pairs)
  | faults {source : Source} {message : String} {pairs : List (String × String)}
    (faults : Faults fs vars source message) (leaves : Leaves fs vars source pairs)
    (sources : List Source) :
    Contribute fs vars (source :: sources) (.error (.precondition message)) pairs

theorem exists_contribute (fs : Files) (vars : Variables) (sources : List Source) :
    ∃ outcome pairs, Contribute fs vars sources outcome pairs := by
  induction sources with
  | nil => exact ⟨_, _, .nil⟩
  | cons source sources ih =>
    rcases gives_or_faults fs vars source with ⟨first, given⟩ | ⟨message, faults⟩
    · obtain ⟨outcome, pairs, rest⟩ := ih
      exact ⟨_, _, .gives given rest⟩
    · obtain ⟨pairs, leaves⟩ := exists_leaves faults
      exact ⟨_, _, .faults faults leaves sources⟩

/-- Sources that are applied in order set what they contribute. -/
theorem value_forM_of_contribute (h : Contribute fs vars sources outcome pairs)
    (ps : ParameterSet) :
    (sources.forM (apply fs vars) ps).value = (outcome, ps.setAll pairs) := by
  induction h generalizing ps with
  | nil => rfl
  | gives given _ ih =>
    rw [ParameterSet.setAll_append, ← ih]
    exact Stateful.bind_runs (value_apply_of_gives given ps)
  | faults faults leaves sources =>
    exact Stateful.bind_fails (value_apply_of_leaves faults leaves ps)

end Source

/-! ## Operations -/

namespace ParameterSet

/-- Something done with a set of parameters. -/
inductive Operation
  | set (name value : String)
  | literals (items : List String)
  | files (items : List String)
  | envFiles (paths : List String)

namespace Operation

/-- The computation of an operation. -/
def perform (fs : Files) (vars : Variables) : Operation → AssemblyM Unit
  | set name value => modify (ParameterSet.set · name value)
  | literals items => applyLiterals items
  | files items => applyFiles fs items
  | envFiles paths => applyEnvFiles fs vars paths

/-- The pairs that an operation contributes, and how it ends. -/
inductive Contributes (fs : Files) (vars : Variables) :
    Operation → Except PortalError Unit → List (String × String) → Prop
  | set (name value : String) : Contributes fs vars (.set name value) (.ok ()) [(name, value)]
  | literals {items : List String} {outcome : Except PortalError Unit}
    {pairs : List (String × String)}
    (h : Source.Contribute fs vars (items.map .literal) outcome pairs) :
    Contributes fs vars (.literals items) outcome pairs
  | files {items : List String} {outcome : Except PortalError Unit}
    {pairs : List (String × String)}
    (h : Source.Contribute fs vars (items.map .file) outcome pairs) :
    Contributes fs vars (.files items) outcome pairs
  | envFiles {paths : List String} {outcome : Except PortalError Unit}
    {pairs : List (String × String)}
    (h : Source.Contribute fs vars (paths.map .envFile) outcome pairs) :
    Contributes fs vars (.envFiles paths) outcome pairs

variable {fs : Files} {vars : Variables} {operation : Operation}
  {outcome : Except PortalError Unit} {pairs : List (String × String)}

theorem exists_contributes (fs : Files) (vars : Variables) (operation : Operation) :
    ∃ outcome pairs, operation.Contributes fs vars outcome pairs := by
  cases operation with
  | set name value => exact ⟨_, _, .set name value⟩
  | literals items =>
    obtain ⟨_, _, h⟩ := Source.exists_contribute fs vars (items.map .literal)
    exact ⟨_, _, .literals h⟩
  | files items =>
    obtain ⟨_, _, h⟩ := Source.exists_contribute fs vars (items.map .file)
    exact ⟨_, _, .files h⟩
  | envFiles paths =>
    obtain ⟨_, _, h⟩ := Source.exists_contribute fs vars (paths.map .envFile)
    exact ⟨_, _, .envFiles h⟩

/-- **An operation sets what it contributes**, also if it fails. -/
theorem value_perform (h : operation.Contributes fs vars outcome pairs) (ps : ParameterSet) :
    (operation.perform fs vars ps).value = (outcome, ps.setAll pairs) := by
  cases h with
  | set name value => rfl
  | literals h | files h | envFiles h =>
    rw [← Source.value_forM_of_contribute h, List.forM_eq_forM, List.forM_map]
    rfl

end Operation

/-- An operation with the files and variables that it meets. -/
structure Step where
  files : Files
  vars : Variables
  operation : Operation

/-- How operations end, one after the other, and the parameters after them. An operation that fails
does not keep the next from being performed. -/
def performAll : List Step → ParameterSet → List (Except PortalError Unit) × ParameterSet
  | [], ps => ([], ps)
  | step :: steps, ps =>
    let (outcome, ps) := (step.operation.perform step.files step.vars ps).value
    let (outcomes, ps) := performAll steps ps
    (outcome :: outcomes, ps)

theorem performAll_append (steps steps' : List Step) (ps : ParameterSet) :
    (performAll (steps ++ steps') ps).2 = (performAll steps' (performAll steps ps).2).2 := by
  induction steps generalizing ps with
  | nil => rfl
  | cons step steps ih => exact ih _

/-- What operations contribute, one after the other. -/
def Contributions (steps : List Step)
    (contributions : List (Except PortalError Unit × List (String × String))) : Prop :=
  List.Forall₂ (fun step c => step.operation.Contributes step.files step.vars c.1 c.2)
    steps contributions

theorem exists_contributions (steps : List Step) :
    ∃ contributions, Contributions steps contributions := by
  induction steps with
  | nil => exact ⟨[], .nil⟩
  | cons step steps ih =>
    obtain ⟨outcome, pairs, first⟩ := step.operation.exists_contributes step.files step.vars
    obtain ⟨contributions, rest⟩ := ih
    exact ⟨(outcome, pairs) :: contributions, .cons first rest⟩

theorem performAll_of_contributions {steps : List Step}
    {contributions : List (Except PortalError Unit × List (String × String))}
    (h : Contributions steps contributions) (ps : ParameterSet) :
    performAll steps ps = (contributions.map (·.1), ps.setAll (contributions.flatMap (·.2))) := by
  induction h generalizing ps with
  | nil => rfl
  | cons first _ ih =>
    rw [performAll, Operation.value_perform first, List.flatMap_cons, setAll_append]
    simp only [ih, List.map_cons]

/-- **Parameters are what operations contribute to them.** However operations end, their outcomes
and the set after them are those of the pairs that they contribute, set one after the other. The
names in the set are all different, and whatever is done next, they stay in their order, with new
ones behind them. -/
theorem performAll_contributes (steps : List Step) :
    (∃ contributions, Contributions steps contributions) ∧
    (∀ contributions, Contributions steps contributions →
      performAll steps [] = (contributions.map (·.1), setAll [] (contributions.flatMap (·.2)))) ∧
    (performAll steps []).2.names.Nodup ∧
    ∀ step, (performAll steps []).2.names <+: (performAll (steps ++ [step]) []).2.names := by
  obtain ⟨contributions, contributed⟩ := exists_contributions steps
  refine ⟨⟨contributions, contributed⟩, fun _ h => performAll_of_contributions h [], ?_,
    fun step => ?_⟩
  · rw [performAll_of_contributions contributed]
    exact nodup_names_setAll _
  · rw [performAll_append]
    obtain ⟨next, contributes⟩ := exists_contributions [step]
    rw [performAll_of_contributions contributes]
    exact names_prefix_setAll _ _

/-- A tree with a dotenv file whose second line is at fault. -/
def faulty : Files where
  entries := [(["session.env".toList], .file (Text.Utf8.bytes "TIER=gold\nREGION eu\nOWNER=me\n"))]

/-- Literals of which one is at fault, then the faulty file. -/
def faultySteps : List Step :=
  [⟨faulty, [], .set "TIER" "bronze"⟩, ⟨faulty, [], .literals ["OWNER=you", "REGION", "AGE=1"]⟩,
    ⟨faulty, [], .envFiles ["/session.env", "/missing.env"]⟩]

/-- What stands before a fault is set, and nothing behind it is. -/
theorem performAll_contributes_faulty :
    ∃ contributions, Contributions faultySteps contributions ∧
      contributions.map (·.1.isOk) = [true, false, false] ∧
      setAll [] (contributions.flatMap (·.2)) = [⟨"TIER", "gold"⟩, ⟨"OWNER", "you"⟩] := by
  obtain ⟨⟨contributions, contributed⟩, performed, -⟩ := performAll_contributes faultySteps
  have result := performed contributions contributed
  refine ⟨contributions, contributed, ?_, (congrArg Prod.snd result).symm.trans (by decide +kernel)⟩
  have outcomes : (contributions.map (·.1)).map Except.isOk = [true, false, false] :=
    (congrArg (·.1.map Except.isOk) result).symm.trans (by decide +kernel)
  rwa [List.map_map] at outcomes

end ParameterSet

end TrainingPortal
