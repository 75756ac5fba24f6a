import Mathlib.Data.List.Induction
import Mathlib.Tactic.SplitIfs
import TrainingPortal.Parameter.Assembly
import TrainingPortal.Proofs.Pieces
import TrainingPortal.Proofs.Stateful

/-!
# Where parameters come from

Parameters are gathered from literals, files and dotenv files (`ParameterSet.assemble_spec`). Each
of these sources either gives pairs of names and values (`Source.Gives`) or faults with a message
(`Source.Faults`), whatever was gathered before.

Names come in the order of their first occurrences, because a name set again stays in its place
(`ParameterSet.names_setAll`), and values are those of the last occurrences, because it gets a new
value there (`ParameterSet.last_of_mem_setAll`).
-/

namespace TrainingPortal

namespace ParameterSet

variable {ps : ParameterSet} {name value : String} {pairs : List (String × String)}

/-! ## Setting values -/

/-- The names of parameters. -/
def names (ps : ParameterSet) : List String := ps.map (·.name)

theorem names_set (ps : ParameterSet) (name value : String) :
    (ps.set name value).names =
      if name ∈ ps.names then ps.names else ps.names ++ [name] := by
  induction ps with
  | nil => rfl
  | cons p ps ih =>
    unfold names at ih ⊢
    rw [set]
    by_cases here : p.name = name
    · simp [here]
    · rw [if_neg here, List.map_cons, ih]
      split_ifs with later later' later'
      · rfl
      · exact absurd (List.mem_cons_of_mem _ later) later'
      · exact absurd ((List.mem_cons.1 later').resolve_left (Ne.symm here)) later
      · rfl

theorem mem_set {p : Parameter} (nodup : ps.names.Nodup) (h : p ∈ ps.set name value) :
    p = ⟨name, value⟩ ∨ p ∈ ps ∧ p.name ≠ name := by
  induction ps with
  | nil => exact .inl (List.mem_singleton.1 h)
  | cons first ps ih =>
    obtain ⟨fresh, nodup⟩ := List.nodup_cons.1 nodup
    rw [set] at h
    split_ifs at h with here
    · rcases List.mem_cons.1 h with rfl | h
      · exact .inl rfl
      · refine .inr ⟨List.mem_cons_of_mem _ h, fun same => fresh ?_⟩
        exact List.mem_map.2 ⟨p, h, same.trans here.symm⟩
    · rcases List.mem_cons.1 h with rfl | h
      · exact .inr ⟨List.mem_cons_self, here⟩
      · exact (ih nodup h).imp_right fun ⟨mem, apart⟩ => ⟨List.mem_cons_of_mem _ mem, apart⟩

theorem setAll_append (ps : ParameterSet) (pairs pairs' : List (String × String)) :
    ps.setAll (pairs ++ pairs') = (ps.setAll pairs).setAll pairs' :=
  List.foldl_append

/-- **Names stand in the order of their first occurrences.** -/
theorem names_setAll (pairs : List (String × String)) :
    (setAll [] pairs).names = (pairs.map (·.1)).eraseDups := by
  induction pairs using List.reverseRecOn with
  | nil => rfl
  | append_singleton pairs pair ih =>
    rw [setAll_append]
    change ((setAll [] pairs).set pair.1 pair.2).names = _
    rw [names_set, ih, List.map_append, List.eraseDups_append]
    by_cases known : pair.1 ∈ pairs.map (·.1)
    · simp [List.removeAll, known]
    · simp [List.removeAll, known, List.eraseDups_cons]

theorem nodup_names_setAll (pairs : List (String × String)) : (setAll [] pairs).names.Nodup := by
  induction pairs using List.reverseRecOn with
  | nil => exact List.nodup_nil
  | append_singleton pairs pair ih =>
    rw [setAll_append]
    change ((setAll [] pairs).set pair.1 pair.2).names.Nodup
    rw [names_set]
    split_ifs with known
    · exact ih
    · refine List.nodup_append.2 ⟨ih, by simp, fun name mem last here same => ?_⟩
      rw [List.mem_singleton.1 here] at same
      exact known (same ▸ mem)

/-- **A value is that of the last occurrence of its name.** -/
theorem last_of_mem_setAll {p : Parameter} (h : p ∈ setAll [] pairs) :
    ∃ before after, pairs = before ++ (p.name, p.value) :: after ∧ p.name ∉ after.map (·.1) := by
  induction pairs using List.reverseRecOn with
  | nil => cases h
  | append_singleton pairs pair ih =>
    rw [setAll_append] at h
    rcases mem_set (nodup_names_setAll pairs) h with rfl | ⟨h, apart⟩
    · exact ⟨pairs, [], rfl, by simp⟩
    · obtain ⟨before, after, rfl, last⟩ := ih h
      refine ⟨before, after ++ [pair], by simp, ?_⟩
      simpa [apart] using last

theorem get?_set (ps : ParameterSet) (name value other : String) :
    (ps.set name value).get? other = if name = other then some value else ps.get? other := by
  unfold get?
  induction ps with
  | nil => by_cases same : name = other <;> simp [set, same]
  | cons p ps ih =>
    rw [set]
    by_cases here : p.name = name
    · by_cases same : name = other <;> simp [here, same]
    · rw [if_neg here, List.find?_cons, List.find?_cons]
      cases first : p.name == other with
      | true =>
        have apart : name ≠ other := fun same => here ((beq_iff_eq.1 first).trans same.symm)
        simp [apart]
      | false => exact ih

/-- A set that pairs were put into gives what the last pair of a name does. -/
theorem get?_setAll (pairs : List (String × String)) (name : String) :
    (setAll [] pairs).get? name = pairs.reverse.lookup name := by
  induction pairs using List.reverseRecOn with
  | nil => rfl
  | append_singleton pairs pair ih =>
    rw [setAll_append, List.reverse_append, List.reverse_singleton, List.singleton_append]
    change ((setAll [] pairs).set pair.1 pair.2).get? name = _
    rw [get?_set, ih, List.lookup_cons]
    by_cases same : pair.1 = name
    · simp [same]
    · rw [if_neg same, beq_false_of_ne (Ne.symm same)]

theorem isNone_get? (ps : ParameterSet) (name : String) :
    (ps.get? name).isNone = decide (name ∉ ps.names) := by
  rw [Bool.eq_iff_iff, decide_eq_true_iff]
  simp [get?, names]

end ParameterSet

/-! ## Sources -/

/-- What parameters come from. -/
inductive Source
  /-- A literal with a name and a value. -/
  | literal (item : String)
  /-- A name and the path of a file with its value. -/
  | file (item : String)
  /-- The path of a dotenv file. -/
  | envFile (path : String)

namespace Source

/-- Whether an item is a name and the rest, cut at the first equals sign. -/
def Splits (item name rest : String) : Prop :=
  item.toList = name.toList ++ '=' :: rest.toList ∧ '=' ∉ name.toList

/-- The pairs of names and values that a source gives. -/
inductive Gives (fs : Files) (vars : Variables) : Source → List (String × String) → Prop
  | literal {item name value : String} (splits : Splits item name value) :
    Gives fs vars (.literal item) [(name, value)]
  | file {item name path content : String} (splits : Splits item name path)
    (reads : fs.readText path = .ok content) : Gives fs vars (.file item) [(name, content)]
  | envFile {path : String} {bindings : List (String × String)}
    (reads : Dotenv.read fs vars path = (bindings, none)) : Gives fs vars (.envFile path) bindings

/-- The message with which a source faults. -/
inductive Faults (fs : Files) (vars : Variables) : Source → String → Prop
  | literal {item : String} (h : '=' ∉ item.toList) :
    Faults fs vars (.literal item) s!"invalid parameter format {item}"
  | item {item : String} (h : '=' ∉ item.toList) :
    Faults fs vars (.file item) s!"invalid parameter format {item}"
  | file {item name path : String} {e : FileError} (splits : Splits item name path)
    (unreadable : fs.readText path = .error e) :
    Faults fs vars (.file item) s!"cannot read parameter data file {path}: {e.message}"
  | envFile {path : String} {bindings : List (String × String)} {fault : Dotenv.Fault}
    (reads : Dotenv.read fs vars path = (bindings, some fault)) :
    Faults fs vars (.envFile path) s!"cannot read parameters data file {path}: {fault.message}"

/-- The computation that applies a source. -/
def apply (fs : Files) (vars : Variables) : Source → AssemblyM Unit
  | literal item => ParameterSet.applyLiteral item
  | file item => ParameterSet.applyFile fs item
  | envFile path => ParameterSet.applyEnvFile fs vars path

end Source

namespace Source

variable {fs : Files} {vars : Variables} {source : Source} {pairs : List (String × String)}
  {message item name rest : String}

theorem exists_splits (h : '=' ∈ item.toList) : ∃ name rest, Splits item name rest := by
  obtain ⟨before, after, whole, fresh⟩ := List.eq_append_cons_of_mem h
  exact ⟨String.ofList before, String.ofList after, by simpa using whole, by simpa using fresh⟩

theorem Splits.mem (h : Splits item name rest) : '=' ∈ item.toList := by
  rw [h.1]
  exact List.mem_append_right _ List.mem_cons_self

theorem split_of_splits (h : Splits item name rest) :
    ParameterSet.split item = .ok (name, rest) := by
  rw [ParameterSet.split, h.1, Text.cutAt_append h.2]
  simp

theorem split_of_not_mem (h : '=' ∉ item.toList) :
    ParameterSet.split item = .error (.precondition s!"invalid parameter format {item}") := by
  rw [ParameterSet.split, Text.cutAt_of_not_mem h]

/-! ## Applying sources -/

theorem value_ofExcept {α : Type} (x : Except PortalError α) (ps : ParameterSet) :
    ((liftM x : AssemblyM α) ps).value = (x, ps) := by
  cases x <;> rfl

/-- A source that gives pairs sets them. -/
theorem value_apply_of_gives (h : Gives fs vars source pairs) (ps : ParameterSet) :
    (source.apply fs vars ps).value = (.ok (), ps.setAll pairs) := by
  cases h with
  | literal splits =>
    rw [apply, ParameterSet.applyLiteral, split_of_splits splits]
    exact Stateful.bind_runs (value_ofExcept (.ok _) ps)
  | file splits reads =>
    rw [apply, ParameterSet.applyFile, split_of_splits splits]
    refine (Stateful.bind_runs (value_ofExcept (.ok _) ps)).trans ?_
    dsimp only
    rw [reads]
    rfl
  | envFile reads =>
    rw [apply, ParameterSet.applyEnvFile, reads]
    rfl

/-- A source that faults ends the assembly with its message. -/
theorem value_apply_of_faults (h : Faults fs vars source message) (ps : ParameterSet) :
    ∃ ps', (source.apply fs vars ps).value = (.error (.precondition message), ps') := by
  cases h with
  | literal h =>
    rw [apply, ParameterSet.applyLiteral, split_of_not_mem h]
    exact ⟨ps, Stateful.bind_fails (value_ofExcept (.error _) ps)⟩
  | item h =>
    rw [apply, ParameterSet.applyFile, split_of_not_mem h]
    exact ⟨ps, Stateful.bind_fails (value_ofExcept (.error _) ps)⟩
  | file splits unreadable =>
    rw [apply, ParameterSet.applyFile, split_of_splits splits]
    refine ⟨ps, (Stateful.bind_runs (value_ofExcept (.ok _) ps)).trans ?_⟩
    dsimp only
    rw [unreadable]
    rfl
  | envFile reads =>
    rw [apply, ParameterSet.applyEnvFile, reads]
    exact ⟨_, rfl⟩

theorem gives_or_faults (fs : Files) (vars : Variables) (source : Source) :
    (∃ pairs, Gives fs vars source pairs) ∨ ∃ message, Faults fs vars source message := by
  cases source with
  | literal item =>
    by_cases h : '=' ∈ item.toList
    · obtain ⟨name, value, splits⟩ := exists_splits h
      exact .inl ⟨_, .literal splits⟩
    · exact .inr ⟨_, .literal h⟩
  | file item =>
    by_cases h : '=' ∈ item.toList
    · obtain ⟨name, path, splits⟩ := exists_splits h
      cases reads : fs.readText path with
      | ok content => exact .inl ⟨_, .file splits reads⟩
      | error e => exact .inr ⟨_, .file splits reads⟩
    · exact .inr ⟨_, .item h⟩
  | envFile path =>
    obtain ⟨⟨bindings, fault?⟩, reads⟩ : ∃ result, Dotenv.read fs vars path = result := ⟨_, rfl⟩
    cases fault? with
    | none => exact .inl ⟨_, .envFile reads⟩
    | some fault => exact .inr ⟨_, .envFile reads⟩

theorem gives_literal_iff :
    (∃ pairs, Gives fs vars (.literal item) pairs) ↔ '=' ∈ item.toList := by
  refine ⟨fun ⟨_, .literal splits⟩ => splits.mem, fun h => ?_⟩
  obtain ⟨name, value, splits⟩ := exists_splits h
  exact ⟨_, .literal splits⟩

theorem gives_file_iff :
    (∃ pairs, Gives fs vars (.file item) pairs) ↔
      ∃ name path content, Splits item name path ∧ fs.readText path = .ok content :=
  ⟨fun ⟨_, .file splits reads⟩ => ⟨_, _, _, splits, reads⟩,
    fun ⟨_, _, _, splits, reads⟩ => ⟨_, .file splits reads⟩⟩

theorem gives_envFile_iff {path : String} :
    (∃ pairs, Gives fs vars (.envFile path) pairs) ↔ (Dotenv.read fs vars path).2 = none :=
  ⟨fun ⟨_, .envFile reads⟩ => congrArg Prod.snd reads,
    fun h => ⟨_, .envFile (Prod.ext rfl h)⟩⟩

/-! ## Applying sources in order -/

theorem value_forM_of_gives {sources : List Source} {pairs : List (List (String × String))}
    (h : List.Forall₂ (Gives fs vars) sources pairs) (ps : ParameterSet) :
    (sources.forM (apply fs vars) ps).value = (.ok (), ps.setAll pairs.flatten) := by
  induction h generalizing ps with
  | nil => rfl
  | cons gives _ ih =>
    rw [List.flatten_cons, ParameterSet.setAll_append, ← ih]
    exact Stateful.bind_runs (value_apply_of_gives gives ps)

/-- The first source that faults ends the assembly, whatever comes after it. -/
theorem value_forM_of_faults {before : List Source} (after : List Source)
    (gives : ∀ source ∈ before, ∃ pairs, Gives fs vars source pairs)
    (faults : Faults fs vars source message) (ps : ParameterSet) :
    ∃ ps', ((before ++ source :: after).forM (apply fs vars) ps).value =
      (.error (.precondition message), ps') := by
  induction before generalizing ps with
  | nil =>
    obtain ⟨ps', ends⟩ := value_apply_of_faults faults ps
    exact ⟨ps', Stateful.bind_fails ends⟩
  | cons first before ih =>
    obtain ⟨⟨pairs, given⟩, gives⟩ := List.forall_mem_cons.1 gives
    obtain ⟨ps', ends⟩ := ih gives (ps.setAll pairs)
    exact ⟨ps', (Stateful.bind_runs (value_apply_of_gives given ps)).trans ends⟩

/-- Sources give pairs up to the first that faults. -/
theorem exists_first_fault (fs : Files) (vars : Variables) (sources : List Source) :
    (∀ source ∈ sources, ∃ pairs, Gives fs vars source pairs) ∨
      ∃ before source after message, sources = before ++ source :: after ∧
        (∀ source ∈ before, ∃ pairs, Gives fs vars source pairs) ∧
        Faults fs vars source message := by
  induction sources with
  | nil => exact .inl nofun
  | cons source sources ih =>
    rcases gives_or_faults fs vars source with gives | ⟨message, faults⟩
    · rcases ih with all | ⟨before, first, after, message, rfl, given, faults⟩
      · exact .inl (List.forall_mem_cons.2 ⟨gives, all⟩)
      · exact .inr ⟨source :: before, first, after, message, rfl,
          List.forall_mem_cons.2 ⟨gives, given⟩, faults⟩
    · exact .inr ⟨[], source, sources, message, rfl, nofun, faults⟩

theorem exists_forall₂_gives {sources : List Source}
    (h : ∀ source ∈ sources, ∃ pairs, Gives fs vars source pairs) :
    ∃ pairs, List.Forall₂ (Gives fs vars) sources pairs := by
  induction sources with
  | nil => exact ⟨[], .nil⟩
  | cons source sources ih =>
    obtain ⟨⟨first, given⟩, h⟩ := List.forall_mem_cons.1 h
    obtain ⟨rest, givens⟩ := ih h
    exact ⟨first :: rest, .cons given givens⟩

end Source

namespace ParameterSet

open Source

/-! ## Assembling -/

/-- The sources in the order in which they are applied. -/
def sources (literals files envFiles : List String) : List Source :=
  literals.map .literal ++ files.map .file ++ envFiles.map .envFile

theorem applyEnvFiles_singleton (fs : Files) (vars : Variables) (path : String) :
    applyEnvFiles fs vars [path] = (Source.envFile path).apply fs vars := by
  rw [applyEnvFiles, List.forM_eq_forM, List.forM_cons, List.forM_nil]
  exact bind_pure_unit

section

variable {fs : Files} {vars : Variables} {literals files envFiles : List String}

theorem value_assemble (fs : Files) (vars : Variables) (literals files envFiles : List String) :
    (assemble fs vars literals files envFiles).value =
      let result := ((sources literals files envFiles).forM (apply fs vars) []).value
      result.1.map fun () => result.2 := by
  have applied : (applyLiterals literals >>= fun _ => applyFiles fs files >>= fun _ =>
      applyEnvFiles fs vars envFiles : AssemblyM Unit) =
        (sources literals files envFiles).forM (apply fs vars) := by
    simp only [sources, List.forM_eq_forM, List.forM_append, List.forM_map, bind_assoc]
    rfl
  rw [← applied]
  rfl

theorem assemble_of_gives
    (h : ∀ source ∈ sources literals files envFiles, ∃ pairs, Gives fs vars source pairs) :
    ∃ pairs, List.Forall₂ (Gives fs vars) (sources literals files envFiles) pairs ∧
      (assemble fs vars literals files envFiles).value = .ok (setAll [] pairs.flatten) := by
  obtain ⟨pairs, given⟩ := exists_forall₂_gives h
  refine ⟨pairs, given, ?_⟩
  rw [value_assemble, value_forM_of_gives given]
  rfl

theorem assemble_of_faults {before after : List Source} {source : Source} {message : String}
    (whole : sources literals files envFiles = before ++ source :: after)
    (gives : ∀ source ∈ before, ∃ pairs, Gives fs vars source pairs)
    (faults : Faults fs vars source message) :
    (assemble fs vars literals files envFiles).value = .error (.precondition message) := by
  obtain ⟨ps, ends⟩ := value_forM_of_faults after gives faults []
  rw [value_assemble, whole, ends]
  rfl

end

/-- **What parameters are assembled to.** Assembly succeeds exactly if every source gives pairs.
Then no name is twice among the parameters, the names are those of the pairs in the order of their
first occurrences, and every value is that of the last occurrence of its name. It fails with an
error exactly if that is the error of the first source that faults, whatever comes after it. -/
theorem assemble_spec (fs : Files) (vars : Variables) (literals files envFiles : List String) :
    ((∃ ps, (assemble fs vars literals files envFiles).value = .ok ps) ↔
      (∀ item ∈ literals, '=' ∈ item.toList) ∧
      (∀ item ∈ files, ∃ name path content, Splits item name path ∧
        fs.readText path = .ok content) ∧
      ∀ path ∈ envFiles, (Dotenv.read fs vars path).2 = none) ∧
    (∀ ps : ParameterSet, (assemble fs vars literals files envFiles).value = .ok ps →
      ∃ pairs, List.Forall₂ (Gives fs vars) (sources literals files envFiles) pairs ∧
        ps.names.Nodup ∧ ps.names = (pairs.flatten.map (·.1)).eraseDups ∧
        ∀ p ∈ ps, ∃ before after, pairs.flatten = before ++ (p.name, p.value) :: after ∧
          p.name ∉ after.map (·.1)) ∧
    ∀ e, (assemble fs vars literals files envFiles).value = .error e ↔
      ∃ before source after message, sources literals files envFiles = before ++ source :: after ∧
        (∀ source ∈ before, ∃ pairs, Gives fs vars source pairs) ∧
        Faults fs vars source message ∧ e = .precondition message := by
  have given : (∀ source ∈ sources literals files envFiles, ∃ pairs, Gives fs vars source pairs) ↔
      (∀ item ∈ literals, '=' ∈ item.toList) ∧
      (∀ item ∈ files, ∃ name path content, Splits item name path ∧
        fs.readText path = .ok content) ∧
      ∀ path ∈ envFiles, (Dotenv.read fs vars path).2 = none := by
    simp only [sources, List.forall_mem_append, List.forall_mem_map, gives_literal_iff,
      gives_file_iff, gives_envFile_iff, and_assoc]
  rw [← given]
  rcases exists_first_fault fs vars (sources literals files envFiles) with
    gives | ⟨before, source, after, message, whole, gives, faults⟩
  · obtain ⟨pairs, givens, assembled⟩ := assemble_of_gives gives
    refine ⟨⟨fun _ => gives, fun _ => ⟨_, assembled⟩⟩, ?_, ?_⟩
    · intro ps eq
      obtain rfl := Except.ok.inj (assembled.symm.trans eq)
      exact ⟨pairs, givens, nodup_names_setAll _, names_setAll _,
        fun p mem => last_of_mem_setAll mem⟩
    · refine fun e => ⟨fun eq => (nomatch assembled.symm.trans eq), ?_⟩
      rintro ⟨before, source, after, message, whole, gives, faults, -⟩
      cases assembled.symm.trans (assemble_of_faults whole gives faults)
  · have failed := assemble_of_faults whole gives faults
    refine ⟨⟨fun ⟨_, eq⟩ => (nomatch failed.symm.trans eq), fun gives => ?_⟩,
      fun ps eq => (nomatch failed.symm.trans eq), fun e => ⟨fun eq => ?_, ?_⟩⟩
    · obtain ⟨pairs, -, assembled⟩ := assemble_of_gives gives
      exact ⟨_, assembled⟩
    · exact ⟨before, source, after, message, whole, gives, faults,
        (Except.error.inj (failed.symm.trans eq)).symm⟩
    · rintro ⟨before, source, after, message, whole, gives, faults, rfl⟩
      exact assemble_of_faults whole gives faults

/-- A tree with a file for a value and a dotenv file. -/
def stored : Files where
  entries := [(["cert.pem".toList], .file (Text.Utf8.bytes "PEM\n")),
    (["session.env".toList], .file (Text.Utf8.bytes "REGION=eu\n# comment\nTIER=gold\n"))]

/-- Names that literals and files set again stay in their places. -/
theorem assemble_spec_stored :
    ∃ pairs, List.Forall₂ (Gives stored [])
        (sources ["TIER=bronze", "OWNER=a=b", "OWNER=me"] ["cert=/cert.pem"] ["/session.env"])
        pairs ∧
      (pairs.flatten.map (·.1)).eraseDups = ["TIER", "OWNER", "cert", "REGION"] := by
  obtain ⟨-, assembled, -⟩ := assemble_spec stored [] ["TIER=bronze", "OWNER=a=b", "OWNER=me"]
    ["cert=/cert.pem"] ["/session.env"]
  obtain ⟨pairs, given, -, names, -⟩ := assembled
    [⟨"TIER", "gold"⟩, ⟨"OWNER", "me"⟩, ⟨"cert", "PEM\n"⟩, ⟨"REGION", "eu"⟩] (by decide +kernel)
  exact ⟨pairs, given, names.symm⟩

end ParameterSet

end TrainingPortal
