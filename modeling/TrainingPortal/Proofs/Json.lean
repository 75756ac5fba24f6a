import TrainingPortal.Json.Writer
import TrainingPortal.Proofs.Json.Spelling

/-!
# JSON that is written is read back

Both layouts of a value are read as that value (`parse?_compact`, `parse?_pretty`), for values
without numbers other than integers (`Exact`): both are spellings of the value (`spelled_compact`,
`spelled_pretty`), which differ only in the blanks between tokens, and the reader takes every
spelling.
-/

namespace TrainingPortal.Json

open Text

/-! ## Texts -/

theorem spelledPoint_control {n : Nat} (h : n < 0x20) :
    SpelledPoint n ['\\', 'u', '0', '0', Nat.digitChar (n / 16), Nat.digitChar (n % 16)] := by
  have digits : ∀ n < 0x20,
      (['0', '0', Nat.digitChar (n / 16), Nat.digitChar (n % 16)].all isHexDigit = true) ∧
        ofDigits 16 ['0', '0', Nat.digitChar (n / 16), Nat.digitChar (n % 16)] = n := by
    decide
  obtain ⟨hex, value⟩ := digits n h
  have point := SpelledPoint.numbered hex
  rwa [value] at point

theorem spelledPoint_writeChar (c : Char) : SpelledPoint c.toNat (writeChar c) := by
  unfold writeChar
  split
  case h_1 | h_2 | h_3 | h_4 | h_5 | h_6 | h_7 => exact .escape rfl
  case h_8 quote escape _ _ _ _ _ =>
    split_ifs with control
    · exact spelledPoint_control control
    · exact .plain quote escape control

theorem spelledPoints_flatMap (cs : List Char) :
    SpelledPoints (cs.map Char.toNat) (cs.flatMap writeChar ++ ['"']) := by
  induction cs with
  | nil => exact .nil
  | cons c cs ih =>
    rw [List.flatMap_cons, List.append_assoc]
    exact .cons (spelledPoint_writeChar c) ih

theorem spelledText_writeText (s : String) : SpelledText (some s) (writeText s) := by
  have spelled := SpelledText.intro (spelledPoints_flatMap s.toList)
  rwa [joinSurrogates_map_toNat, Option.map_some, String.ofList_toList] at spelled

/-! ## Objects -/

/-- The members of an object as they are written. -/
def named (members : List (String × Json)) : List (Option String × Json) :=
  members.map fun (name, value) => (some name, value)

theorem ofMembers_named (members : List (String × Json)) :
    ofMembers (named members) = object members := by
  have same : members.mapM (pure (f := Option)) = some members :=
    List.mapM_pure.trans (congrArg some (List.map_id members))
  rw [ofMembers, named, List.mapM_map]
  split
  case h_1 found read => exact congrArg object (Option.some.inj (read.symm.trans same))
  case h_2 read => exact nomatch read.symm.trans same

theorem spelledMember_writeText (name : String) {value : Json} {blanks cs : List Char}
    (h : Blanks blanks) (spelled : Spelled value cs) :
    SpelledMember (some name, value) (writeText name ++ ':' :: (blanks ++ cs)) :=
  .intro (spelledText_writeText name) blanks_nil h spelled

theorem spelled_object {member : String × Json} {members : List (String × Json)}
    {blanks cs more : List Char} (h : Blanks blanks)
    (first : SpelledMember (some member.1, member.2) cs)
    (others : SpelledMembers (named members) more) :
    Spelled (object (member :: members)) ('\x7b' :: (blanks ++ (cs ++ more))) :=
  ofMembers_named (member :: members) ▸ .object h first others

theorem spelled_text (s : String) : Spelled (text s) (writeText s) :=
  .text (spelledText_writeText s)

/-! ## Layouts -/

/-- A value without numbers other than integers and without unreadable texts. -/
inductive Exact : Json → Prop
  | null : Exact null
  | bool (b : Bool) : Exact (bool b)
  | integer (n : Int) : Exact (integer n)
  | text (s : String) : Exact (text s)
  | array {items : List Json} (h : ∀ item ∈ items, Exact item) : Exact (array items)
  | object {members : List (String × Json)} (h : ∀ member ∈ members, Exact member.2) :
    Exact (object members)

theorem spelled_bool (b : Bool) : Spelled (bool b) (writeLeaf (bool b)) := by
  cases b
  · exact .false
  · exact .true

theorem spelledItems_compact {items : List Json}
    (h : ∀ item ∈ items, Spelled item item.writeCompact) :
    SpelledItems items (writeMoreItems items ++ [']']) := by
  induction items with
  | nil => exact .nil blanks_nil
  | cons item items ih =>
    obtain ⟨first, others⟩ := List.forall_mem_cons.1 h
    have more := SpelledItems.cons blanks_nil blanks_nil first (ih others)
    simpa [writeMoreItems] using more

theorem spelledMembers_compact {members : List (String × Json)}
    (h : ∀ member ∈ members, Spelled member.2 member.2.writeCompact) :
    SpelledMembers (named members) (writeMoreMembers members ++ ['\x7d']) := by
  induction members with
  | nil => exact .nil blanks_nil
  | cons member members ih =>
    obtain ⟨first, others⟩ := List.forall_mem_cons.1 h
    have spelled := spelledMember_writeText member.1 blanks_nil first
    have more := SpelledMembers.cons blanks_nil blanks_nil spelled (ih others)
    simpa [writeMoreMembers, named] using more

theorem spelled_compact {j : Json} (h : Exact j) : Spelled j j.writeCompact := by
  induction h with
  | null => exact .null
  | bool b => exact spelled_bool b
  | integer n => exact .integer n
  | text s => exact spelled_text s
  | @array items _ ih =>
    cases items with
    | nil => exact .nothing blanks_nil
    | cons item items =>
      obtain ⟨first, others⟩ := List.forall_mem_cons.1 ih
      have spelled := Spelled.array blanks_nil first (spelledItems_compact others)
      simpa [writeCompact] using spelled
  | @object members _ ih =>
    cases members with
    | nil => exact .blank blanks_nil
    | cons member members =>
      obtain ⟨first, others⟩ := List.forall_mem_cons.1 ih
      have spelled := spelledMember_writeText member.1 blanks_nil first
      have whole := spelled_object blanks_nil spelled (spelledMembers_compact others)
      simpa [writeCompact] using whole

theorem spelledDocument {j : Json} {cs : List Char} (h : Spelled j cs) {after : List Char}
    (blanks : Blanks after) : SpelledDocument j (String.ofList (cs ++ after)) :=
  .intro blanks_nil h blanks

theorem spelledDocument_alone {j : Json} {cs : List Char} (h : Spelled j cs) :
    SpelledDocument j (String.ofList cs) := by
  have spelled := spelledDocument h blanks_nil
  rwa [List.append_nil] at spelled

/-- **A value without layout is read back.** -/
theorem parse?_compact {j : Json} (h : Exact j) : parse? j.compact = some j :=
  parse?_of_spelled (spelledDocument_alone (spelled_compact h))

theorem blanks_newLine (depth : Nat) : Blanks (newLine depth) := by
  refine List.forall_mem_cons.2 ⟨by decide, fun c mem => ?_⟩
  rw [List.eq_of_mem_replicate mem]
  decide

theorem spelledItems_pretty {depth : Nat} {items : List Json}
    (h : ∀ item ∈ items, ∀ depth, Spelled item (item.writePretty depth)) :
    SpelledItems items (writeMoreItemLines depth items ++ newLine depth ++ [']']) := by
  induction items with
  | nil => exact .nil (blanks_newLine depth)
  | cons item items ih =>
    obtain ⟨first, others⟩ := List.forall_mem_cons.1 h
    have more := SpelledItems.cons blanks_nil (blanks_newLine (depth + 1)) (first (depth + 1))
      (ih others)
    simpa [writeMoreItemLines] using more

theorem blanks_space : Blanks [' '] := by
  rintro _ (_ | ⟨_, ⟨⟩⟩)
  decide

theorem spelledMembers_pretty {depth : Nat} {members : List (String × Json)}
    (h : ∀ member ∈ members, ∀ depth, Spelled member.2 (member.2.writePretty depth)) :
    SpelledMembers (named members)
      (writeMoreMemberLines depth members ++ newLine depth ++ ['\x7d']) := by
  induction members with
  | nil => exact .nil (blanks_newLine depth)
  | cons member members ih =>
    obtain ⟨first, others⟩ := List.forall_mem_cons.1 h
    have spelled := spelledMember_writeText member.1 blanks_space (first (depth + 1))
    have more := SpelledMembers.cons blanks_nil (blanks_newLine (depth + 1)) spelled (ih others)
    simpa [writeMoreMemberLines, named] using more

theorem spelled_pretty {j : Json} (h : Exact j) (depth : Nat) :
    Spelled j (j.writePretty depth) := by
  induction h generalizing depth with
  | null => exact .null
  | bool b => exact spelled_bool b
  | integer n => exact .integer n
  | text s => exact spelled_text s
  | @array items _ ih =>
    cases items with
    | nil => exact .nothing blanks_nil
    | cons item items =>
      obtain ⟨first, others⟩ := List.forall_mem_cons.1 ih
      have whole := Spelled.array (blanks_newLine (depth + 1)) (first (depth + 1))
        (@spelledItems_pretty depth items others)
      simpa [writePretty] using whole
  | @object members _ ih =>
    cases members with
    | nil => exact .blank blanks_nil
    | cons member members =>
      obtain ⟨first, others⟩ := List.forall_mem_cons.1 ih
      have spelled := spelledMember_writeText member.1 blanks_space (first (depth + 1))
      have whole := spelled_object (blanks_newLine (depth + 1)) spelled
        (@spelledMembers_pretty depth members others)
      simpa [writePretty] using whole

/-- **A value over several lines is read back.** -/
theorem parse?_pretty {j : Json} (h : Exact j) : parse? j.pretty = some j :=
  parse?_of_spelled (spelledDocument_alone (spelled_pretty h 0))

/-- A value printed over several lines is read back. -/
theorem parse?_pretty_line {j : Json} (h : Exact j) : parse? (j.pretty ++ "\n") = some j := by
  have line : j.pretty ++ "\n" = String.ofList (j.writePretty 0 ++ ['\n']) := by
    rw [String.ofList_append]
    rfl
  have blank : Blanks ['\n'] := List.forall_mem_singleton.2 rfl
  rw [line]
  exact parse?_of_spelled (spelledDocument (spelled_pretty h 0) blank)

end TrainingPortal.Json
