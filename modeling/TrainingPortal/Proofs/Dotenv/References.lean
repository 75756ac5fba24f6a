import TrainingPortal.Dotenv.Binding
import TrainingPortal.Proofs.Pieces
import Mathlib.Data.List.Basic
import Mathlib.Tactic.SplitIfs

/-!
# What the values of a dotenv file refer to

A value may refer to names, and a name stands for a variable before it stands for an earlier binding
of the file. `references` are all names to which the values of a file refer.

* What is read from a file depends on no other variables (`read_congr`).
* Which names are bound, and which fault ends the file, depends on no variables at all
  (`read_outline`): the text that a name stands for is not looked at again.
* Without a dollar sign there is no reference (`references_of_forall_not_mem`).
-/

namespace TrainingPortal.Dotenv

open Text

namespace ValueMode

/-- The name that a reference refers to if it ends at a character. -/
def reference? : ValueMode → Char → Option (List Char)
  | bareName _ name, c =>
    if isAlphanumeric c then none else if c = '\x7b' ∧ name = [] then none else some name
  | bracedName _ name, c => if c = '\x7d' then some name else none
  | plain, _ | weak, _ | strong, _ | escaped _, _ | ended, _ | comment, _ => none

/-- The name that a reference refers to if it ends with the value. -/
def lastReference? : ValueMode → Option (List Char)
  | bareName false name => some name
  | _ => none

/-- The names to which a value refers up to the first fault. -/
def references : ValueMode → List Char → List (List Char)
  | mode, [] => mode.lastReference?.toList
  | mode, c :: cs =>
    (mode.reference? c).toList ++
      match mode.step (fun _ => []) c with
      | some (next, _) => references next cs
      | none => []

/-- Whether a name is being read. -/
def inName : ValueMode → Bool
  | bareName _ _ | bracedName _ _ => true
  | plain | weak | strong | escaped _ | ended | comment => false

end ValueMode

/-- The names to which the value in a logical line refers. -/
def lineReferences (line : List Char) : List (List Char) :=
  match readBinder (trimStart (trimEnd line)) with
  | .error _ => []
  | .ok (_, rest) =>
    let value := trimStart rest
    if value.head? = some '#' then [] else ValueMode.references .plain value

/-- The names to which the values in a file refer. -/
def references (content : List UInt8) : List String :=
  (logicalLines content).1.flatMap fun line => (lineReferences line).map String.ofList

/-! ## Values -/

section

variable {valueOf valueOf' : List Char → List Char} {mode : ValueMode} {cs : List Char}

namespace ValueMode

/-- Where a reference ends, a step adds what the name stands for in front of what it adds when names
stand for nothing. -/
theorem step_eq (valueOf : List Char → List Char) (mode : ValueMode) (c : Char) :
    mode.step valueOf c = (mode.step (fun _ => []) c).map fun result =>
      (result.1, (mode.reference? c).elim [] valueOf ++ result.2) := by
  cases mode with
  | bareName inQuotes name =>
    simp only [step, reference?]
    split_ifs <;> simp
  | bracedName inQuotes name =>
    simp only [step, reference?]
    split_ifs <;> simp
  | plain | weak | strong | escaped _ | ended | comment => exact Option.map_id'.symm

theorem step_congr {c : Char} (same : ∀ name ∈ mode.reference? c, valueOf name = valueOf' name) :
    mode.step valueOf c = mode.step valueOf' c := by
  rw [step_eq valueOf, step_eq valueOf']
  cases ends : mode.reference? c with
  | none => rfl
  | some name => rw [Option.elim_some, Option.elim_some, same name ends]

theorem finish_congr (same : ∀ name ∈ mode.lastReference?, valueOf name = valueOf' name) :
    mode.finish valueOf = mode.finish valueOf' := by
  rcases mode with _ | _ | _ | (_ | _) | ⟨_ | _, name⟩ | _ | _ | _
  case bareName.false => exact congrArg some (same name rfl)
  all_goals rfl

/-- Where a value goes on does not depend on what names stand for. -/
theorem step_outline (valueOf valueOf' : List Char → List Char) (mode : ValueMode) (c : Char) :
    (mode.step valueOf c).map Prod.fst = (mode.step valueOf' c).map Prod.fst := by
  rw [step_eq valueOf, step_eq valueOf', Option.map_map, Option.map_map]
  rfl

theorem step_eq_none {c : Char} (h : mode.step valueOf c = none)
    (valueOf' : List Char → List Char) : mode.step valueOf' c = none := by
  have outline := step_outline valueOf valueOf' mode c
  rw [h, Option.map_none] at outline
  exact Option.map_eq_none_iff.1 outline.symm

theorem exists_step_eq_some {c : Char} {next : ValueMode} {out : List Char}
    (h : mode.step valueOf c = some (next, out)) (valueOf' : List Char → List Char) :
    ∃ out', mode.step valueOf' c = some (next, out') := by
  have outline := step_outline valueOf valueOf' mode c
  rw [h, Option.map_some] at outline
  obtain ⟨⟨_, out'⟩, goes, rfl⟩ := Option.map_eq_some_iff.1 outline.symm
  exact ⟨out', goes⟩

theorem finish_eq_none (h : mode.finish valueOf = none) (valueOf' : List Char → List Char) :
    mode.finish valueOf' = none := by
  rcases mode with _ | _ | _ | (_ | _) | ⟨_ | _, _⟩ | _ | _ | _
  case bareName.false => cases h
  all_goals exact h

end ValueMode

theorem readValue_cons_of_none {c : Char} (h : mode.step valueOf c = none) (index : Nat)
    (cs : List Char) : readValue valueOf mode index (c :: cs) = .error (.misplaced index) := by
  rw [readValue, h]

theorem readValue_cons_of_some {c : Char} {next : ValueMode} {out : List Char}
    (h : mode.step valueOf c = some (next, out)) (index : Nat) (cs : List Char) :
    readValue valueOf mode index (c :: cs) =
      (readValue valueOf next (index + 1) cs).map (out ++ ·) := by
  rw [readValue, h]

theorem readValue_congr (same : ∀ name ∈ mode.references cs, valueOf name = valueOf' name)
    (index : Nat) : readValue valueOf mode index cs = readValue valueOf' mode index cs := by
  induction cs generalizing mode index with
  | nil =>
    have last := ValueMode.finish_congr fun name mem => same name (Option.mem_toList.2 mem)
    rw [readValue, readValue, last]
  | cons c cs ih =>
    rw [ValueMode.references] at same
    have here := ValueMode.step_congr fun name mem =>
      same name (List.mem_append_left _ (Option.mem_toList.2 mem))
    cases goes : mode.step valueOf' c with
    | none => rw [readValue_cons_of_none goes, readValue_cons_of_none (here.trans goes)]
    | some result =>
      obtain ⟨next, out⟩ := result
      obtain ⟨_, shape⟩ := ValueMode.exists_step_eq_some goes fun _ => []
      rw [shape] at same
      rw [readValue_cons_of_some goes, readValue_cons_of_some (here.trans goes),
        ih fun name mem => same name (List.mem_append_right _ mem)]

/-- A value is at fault in the same place whatever names stand for. -/
theorem readValue_eq_error {index : Nat} {fault : ValueFault}
    (h : readValue valueOf mode index cs = .error fault) (valueOf' : List Char → List Char) :
    readValue valueOf' mode index cs = .error fault := by
  induction cs generalizing mode index with
  | nil =>
    rw [readValue] at h ⊢
    cases last : mode.finish valueOf with
    | none =>
      rw [last] at h
      rw [ValueMode.finish_eq_none last]
      exact h
    | some out =>
      rw [last] at h
      cases h
  | cons c cs ih =>
    cases goes : mode.step valueOf c with
    | none =>
      rw [readValue_cons_of_none goes] at h
      rw [readValue_cons_of_none (ValueMode.step_eq_none goes valueOf'), h]
    | some result =>
      obtain ⟨next, out⟩ := result
      obtain ⟨out', goes'⟩ := ValueMode.exists_step_eq_some goes valueOf'
      rw [readValue_cons_of_some goes] at h
      rw [readValue_cons_of_some goes']
      cases rest : readValue valueOf next (index + 1) cs with
      | error e =>
        rw [rest] at h
        obtain rfl : e = fault := Except.error.inj h
        rw [ih rest]
        rfl
      | ok value =>
        rw [rest] at h
        cases h

/-! ### Values without dollar signs -/

namespace ValueMode

theorem inName_of_step {c : Char} {next : ValueMode} {out : List Char}
    (outside : mode.inName = false) (dollar : '$' ≠ c)
    (h : mode.step valueOf c = some (next, out)) : next.inName = false := by
  have resumed (inQuotes : Bool) : (resume inQuotes).inName = false := by cases inQuotes <;> rfl
  cases mode with
  | bareName _ _ | bracedName _ _ => cases outside
  | comment =>
    cases h
    rfl
  | plain | weak | strong | escaped _ | ended =>
    simp only [step, if_neg dollar.symm] at h
    split_ifs at h <;> cases h <;> first | rfl | exact resumed _

theorem reference?_of_not_inName (outside : mode.inName = false) (c : Char) :
    mode.reference? c = none := by
  cases mode with
  | bareName _ _ | bracedName _ _ => cases outside
  | plain | weak | strong | escaped _ | ended | comment => rfl

theorem lastReference?_of_not_inName (outside : mode.inName = false) :
    mode.lastReference? = none := by
  cases mode with
  | bareName _ _ | bracedName _ _ => cases outside
  | plain | weak | strong | escaped _ | ended | comment => rfl

theorem references_of_not_mem (outside : mode.inName = false) (dollar : '$' ∉ cs) :
    mode.references cs = [] := by
  induction cs generalizing mode with
  | nil =>
    rw [references, lastReference?_of_not_inName outside]
    rfl
  | cons c cs ih =>
    obtain ⟨ne, dollar⟩ := List.ne_and_not_mem_of_not_mem_cons dollar
    rw [references, reference?_of_not_inName outside]
    cases goes : mode.step (fun _ => []) c with
    | none => rfl
    | some result => exact ih (inName_of_step outside ne goes) dollar

end ValueMode

end

/-! ## Lines -/

theorem readName_suffix {cs name rest : List Char} (h : readName cs = some (name, rest)) :
    rest <:+ cs := by
  cases cs with
  | nil => cases h
  | cons c cs =>
    rw [readName] at h
    split_ifs at h
    obtain ⟨-, rfl⟩ := Prod.mk.inj (Option.some.inj h)
    exact (List.dropWhile_suffix _).trans (List.suffix_cons c cs)

theorem afterEquals_trimStart_suffix {cs rest : List Char}
    (h : afterEquals (trimStart cs) = some rest) : rest <:+ cs := by
  refine .trans ?_ (List.dropWhile_suffix isBlank)
  unfold afterEquals trimStart at h
  split at h
  case h_1 value whole =>
    cases h
    rw [whole]
    exact List.suffix_cons '=' rest
  case h_2 => cases h

theorem readBinder_suffix {cs name rest : List Char} (h : readBinder cs = .ok (name, rest)) :
    rest <:+ cs := by
  unfold readBinder at h
  split at h
  case h_1 => cases h
  case h_2 word afterWord first =>
    simp only at h
    split at h
    case h_1 value equals =>
      cases h
      exact (afterEquals_trimStart_suffix equals).trans (readName_suffix first)
    case h_2 =>
      split_ifs at h
      split at h
      case h_1 => cases h
      case h_2 second =>
        split at h
        case h_1 equals =>
          cases h
          exact ((afterEquals_trimStart_suffix equals).trans (readName_suffix second)).trans
            ((List.dropWhile_suffix isBlank).trans (readName_suffix first))
        case h_2 => cases h

/-- The fault of a line that is the fault of its value. -/
def ValueFault.inValue (value : List Char) : ValueFault → Fault
  | .misplaced index => .malformed (String.ofList value) index
  | .unclosed => .malformed (String.ofList value) (Utf8.length value - 1)

section

variable {vars vars' : Variables} {line : List Char}

/-- Names stand for something only within the value of a line, if there is one. -/
theorem readLine_fixed_or_reads (line : List Char) :
    (∃ result, ∀ vars bound, readLine vars bound line = result) ∨
    ∃ name value, lineReferences line = ValueMode.references .plain value ∧
      ∀ vars bound, readLine vars bound line =
        match readValue (valueOf vars bound) .plain 0 value with
        | .ok out => .ok (some (String.ofList name, String.ofList out))
        | .error fault => .error (fault.inValue value) := by
  unfold readLine lineReferences
  simp only
  split_ifs with blank
  · exact .inl ⟨_, fun _ _ => rfl⟩
  · cases readBinder (trimStart (trimEnd line)) with
    | error rest => exact .inl ⟨_, fun _ _ => rfl⟩
    | ok result =>
      obtain ⟨name, rest⟩ := result
      simp only
      split_ifs with empty _ comment
      · exact .inl ⟨_, fun _ _ => rfl⟩
      · exact .inl ⟨_, fun _ _ => rfl⟩
      · exact absurd (.inr comment) empty
      · refine .inr ⟨name, trimStart rest, rfl, fun vars bound => ?_⟩
        cases readValue (valueOf vars bound) .plain 0 (trimStart rest) with
        | ok out => rfl
        | error fault => cases fault <;> rfl

theorem valueOf_congr {name : List Char}
    (same : vars.get? (String.ofList name) = vars'.get? (String.ofList name))
    (bound : List Binding) : valueOf vars bound name = valueOf vars' bound name := by
  rw [valueOf, valueOf, same]

theorem readLine_congr
    (same : ∀ name ∈ lineReferences line,
      vars.get? (String.ofList name) = vars'.get? (String.ofList name))
    (bound : List Binding) : readLine vars bound line = readLine vars' bound line := by
  rcases readLine_fixed_or_reads line with ⟨result, fixed⟩ | ⟨name, value, refers, reads⟩
  · rw [fixed, fixed]
  · rw [refers] at same
    rw [reads, reads, readValue_congr fun name mem => valueOf_congr (same name mem) bound]

/-- Whether a line is at fault and which name it binds does not depend on what is known. -/
theorem readLine_outline (line : List Char) :
    (∃ fault, ∀ vars bound, readLine vars bound line = .error fault) ∨
    (∀ vars bound, readLine vars bound line = .ok none) ∨
    ∃ name, ∀ vars bound, ∃ value, readLine vars bound line = .ok (some (name, value)) := by
  rcases readLine_fixed_or_reads line with ⟨result, fixed⟩ | ⟨name, value, -, reads⟩
  · rcases result with fault | _ | ⟨name, value⟩
    · exact .inl ⟨fault, fixed⟩
    · exact .inr (.inl fixed)
    · exact .inr (.inr ⟨name, fun vars bound => ⟨value, fixed vars bound⟩⟩)
  · simp only [reads]
    cases plain : readValue (fun _ => []) .plain 0 value with
    | error fault => exact .inl ⟨_, fun vars bound => by rw [readValue_eq_error plain]⟩
    | ok out =>
      refine .inr (.inr ⟨String.ofList name, fun vars bound => ?_⟩)
      cases given : readValue (valueOf vars bound) .plain 0 value with
      | error fault => cases plain.symm.trans (readValue_eq_error given _)
      | ok out => exact ⟨_, rfl⟩

theorem lineReferences_of_not_mem (dollar : '$' ∉ line) : lineReferences line = [] := by
  unfold lineReferences
  cases binder : readBinder (trimStart (trimEnd line)) with
  | error rest => rfl
  | ok result =>
    obtain ⟨name, rest⟩ := result
    simp only
    split_ifs with comment
    · rfl
    · have inside : trimStart rest <:+ trimEnd line := (List.dropWhile_suffix isBlank).trans
        ((readBinder_suffix binder).trans (List.dropWhile_suffix isBlank))
      have before := dropTailWhile_isPrefix isBlank line
      exact ValueMode.references_of_not_mem rfl fun mem =>
        dollar (before.subset (inside.subset mem))

end

/-! ## Files -/

section

variable {vars vars' : Variables} {fs fs' : Files} {path : String}

theorem readLines_congr (lines : List (List Char))
    (same : ∀ line ∈ lines, ∀ name ∈ lineReferences line,
      vars.get? (String.ofList name) = vars'.get? (String.ofList name))
    (bound : List Binding) : readLines vars bound lines = readLines vars' bound lines := by
  induction lines generalizing bound with
  | nil => rfl
  | cons line rest ih =>
    obtain ⟨here, later⟩ := List.forall_mem_cons.1 same
    simp only [readLines, readLine_congr here, ih later]

/-- The names bound and the fault do not depend on what is known. -/
theorem readLines_outline (vars vars' : Variables) (bound bound' : List Binding)
    (names : bound.map Prod.fst = bound'.map Prod.fst) (lines : List (List Char)) :
    (readLines vars bound lines).1.map Prod.fst = (readLines vars' bound' lines).1.map Prod.fst ∧
      (readLines vars bound lines).2 = (readLines vars' bound' lines).2 := by
  induction lines generalizing bound bound' with
  | nil => exact ⟨names, rfl⟩
  | cons line rest ih =>
    rw [readLines, readLines]
    rcases readLine_outline line with ⟨fault, faulty⟩ | empty | ⟨name, binds⟩
    · rw [faulty, faulty]
      exact ⟨names, rfl⟩
    · rw [empty, empty]
      exact ih _ _ names
    · obtain ⟨value, first⟩ := binds vars bound
      obtain ⟨value', second⟩ := binds vars' bound'
      rw [first, second]
      exact ih _ _ (by rw [List.map_append, List.map_append, names]; rfl)

/-- The lines of a file end with the fault of one of them, or else with the file's own. -/
theorem parse_eq (vars : Variables) (content : List UInt8) :
    parse vars content = ((readLines vars [] (logicalLines content).1).1,
      (readLines vars [] (logicalLines content).1).2.or (logicalLines content).2.fault?) := by
  obtain ⟨⟨bindings, fault?⟩, reads⟩ :
    ∃ result, readLines vars [] (logicalLines content).1 = result := ⟨_, rfl⟩
  simp only [parse, reads]
  cases fault? <;> rfl

/-- What is read from a file depends on no variables but those to which its values refer. -/
theorem read_congr (reads : fs.read path = fs'.read path)
    (same : ∀ content, fs.read path = .ok content → ∀ name ∈ references content,
      vars.get? name = vars'.get? name) :
    read fs vars path = read fs' vars' path := by
  unfold read
  rw [← reads]
  cases there : fs.read path with
  | error e => rfl
  | ok content =>
    have lines := readLines_congr (logicalLines content).1
      (fun line inside name mem => same content there _
        (List.mem_flatMap.2 ⟨line, inside, List.mem_map_of_mem mem⟩)) []
    simp only [parse_eq, lines]

/-- The names bound in a file and its fault depend on no variables at all. -/
theorem read_outline (fs : Files) (vars vars' : Variables) (path : String) :
    (read fs vars path).1.map Prod.fst = (read fs vars' path).1.map Prod.fst ∧
      (read fs vars path).2 = (read fs vars' path).2 := by
  unfold read
  cases fs.read path with
  | error e => exact ⟨rfl, rfl⟩
  | ok content =>
    obtain ⟨names, fault⟩ := readLines_outline vars vars' [] [] rfl (logicalLines content).1
    simp only [parse_eq, names, fault, and_self]

theorem references_of_forall_not_mem {content : List UInt8}
    (h : ∀ line ∈ (logicalLines content).1, '$' ∉ line) : references content = [] :=
  List.flatMap_eq_nil_iff.2 fun line mem => by
    rw [lineReferences_of_not_mem (h line mem), List.map_nil]

end

end TrainingPortal.Dotenv
