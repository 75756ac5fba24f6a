import TrainingPortal.Proofs.Toml.Values

/-!
# The lines of a document

A binding and a heading are read up to the end of their lines, whatever follows (`WrittenLine`), so
lines that stand one after the other, with blank lines between them or not, are read one by one
(`WrittenLines`, closed under appending), and a document that lists the bindings before its first
section and its sections is read as these (`parse_eq_assemble`).
-/

namespace TrainingPortal.Toml

open Text

/-! ## Dotted names -/

/-- A dotted name. -/
def writePath (path : List String) : List Char := ['.'].intercalate (path.map writeName)

theorem writePath_singleton (name : String) : writePath [name] = writeName name := by
  simp [writePath, List.intercalate]

theorem writePath_cons (name next : String) (path : List String) :
    writePath (name :: next :: path) = writeName name ++ '.' :: writePath (next :: path) := by
  simp [writePath, List.intercalate]

theorem skipBlanks_writeName (s : String) (rest : List Char) :
    skipBlanks (writeName s ++ rest) = writeName s ++ rest := by
  obtain ⟨c, more, eq, start⟩ := writeName_eq_cons s
  rw [eq, List.cons_append]
  exact skipBlanks_of_isSolid (start.elim isSolid_of_isBare isSolid_of_quote) _

theorem writePath_ne_bracket {path : List String} (nonempty : path ≠ []) (rest more : List Char) :
    writePath path ++ rest ≠ '[' :: more := by
  obtain ⟨name, path, rfl⟩ := List.exists_cons_of_ne_nil nonempty
  obtain ⟨c, tail, start, first⟩ := writeName_eq_cons name
  have whole : ∃ tail', writePath (name :: path) = c :: tail' := by
    cases path with
    | nil => exact ⟨tail, by rw [writePath_singleton, start]⟩
    | cons next path => exact ⟨_, by rw [writePath_cons, start, List.cons_append]⟩
  obtain ⟨tail', whole⟩ := whole
  rw [whole]
  intro eq
  obtain rfl : c = '[' := (List.cons.inj eq).1
  rcases first with bare | quote
  · cases bare
  · exact absurd quote (by decide)

/-- **Reading a dotted name undoes writing it**, if nothing follows that could belong to one. -/
theorem readPath_writePath {path : List String} (nonempty : path ≠ []) {fuel : Nat}
    (h : path.length ≤ fuel) {rest : List Char} (stop : ∀ c, rest.head? = some c → isBare c = false)
    (last : (skipBlanks rest).head? ≠ some '.') :
    readPath fuel (writePath path ++ rest) = some (path, skipBlanks rest) := by
  induction path generalizing fuel with
  | nil => exact absurd rfl nonempty
  | cons name path ih =>
    obtain ⟨fuel, rfl⟩ := Nat.exists_eq_succ_of_ne_zero (Nat.ne_of_gt (Nat.zero_lt_of_lt h))
    cases path with
    | nil =>
      rw [writePath_singleton, readPath, skipBlanks_writeName, readName_writeName name stop]
      simp only [Option.bind_eq_bind, Option.bind_some]
      split
      case h_1 eq => exact absurd (by rw [eq]; rfl) last
      case h_2 => rfl
    | cons next path =>
      rw [writePath_cons, List.append_assoc, readPath, skipBlanks_writeName,
        readName_writeName name (by simp [isBare, isWordChar, isLetter, isDigit])]
      simp only [Option.bind_eq_bind, Option.bind_some, List.cons_append]
      rw [skipBlanks_of_isSolid rfl]
      simp only [ih (List.cons_ne_nil _ _) (Nat.le_of_succ_le_succ h)]
      rfl

/-! ## Lines -/

/-- These characters are read as the line, whatever follows. -/
structure WrittenLine (line : Line) (cs : List Char) : Prop where
  start : ∃ c more, cs = c :: more ∧ isSolid c = true
  reads (rest : List Char) : readLine (cs ++ rest) = some (line, rest)

theorem afterLine?_newLine (rest : List Char) : afterLine? ('\n' :: rest) = some rest := rfl

theorem writtenLine_binding {value : Toml} {cs : List Char} (h : Written value cs)
    (name : String) : WrittenLine (.binding [name] value) (writeBinding name cs) where
  start := by
    obtain ⟨c, more, eq, start⟩ := writeName_eq_cons name
    exact ⟨c, _, by simp only [writeBinding, eq, List.cons_append]; rfl,
      start.elim isSolid_of_isBare isSolid_of_quote⟩
  reads rest := by
    have eq : writeBinding name cs ++ rest =
        writePath [name] ++ ' ' :: '=' :: ' ' :: (cs ++ '\n' :: rest) := by
      simp [writeBinding, writePath_singleton]
    obtain ⟨c, more, start, solid⟩ := h.start
    have value : skipBlanks (' ' :: (cs ++ '\n' :: rest)) = cs ++ '\n' :: rest := by
      rw [start]
      exact skipBlanks_of_isSolid solid _
    have path : readPath deepest (writePath [name] ++ ' ' :: '=' :: ' ' :: (cs ++ '\n' :: rest)) =
        some ([name], '=' :: ' ' :: (cs ++ '\n' :: rest)) :=
      readPath_writePath (List.cons_ne_nil _ _) (Nat.succ_pos 78)
        (by simp [isBare, isWordChar, isLetter, isDigit]) (by simp [skipBlanks])
    have equals : afterWord? "=" ('=' :: ' ' :: (cs ++ '\n' :: rest)) =
        some (' ' :: (cs ++ '\n' :: rest)) := rfl
    rw [eq, readLine, path]
    · simp only [Option.bind_eq_bind, Option.bind_some]
      rw [equals, Option.bind_some, value, h.reads (by simp; omega), Option.bind_some]
      dsimp only
      rw [afterLine?_newLine]
      rfl
    · exact fun more => writePath_ne_bracket (List.cons_ne_nil _ _) _ _
    · exact fun more => writePath_ne_bracket (List.cons_ne_nil _ _) _ _

theorem writtenLine_heading {path : List String} (nonempty : path ≠ [])
    (h : path.length ≤ deepest) :
    WrittenLine (.heading path false) ('[' :: writePath path ++ "]\n".toList) where
  start := ⟨'[', _, rfl, rfl⟩
  reads rest := by
    have eq : ('[' :: writePath path ++ "]\n".toList) ++ rest =
        '[' :: (writePath path ++ ']' :: '\n' :: rest) := by simp
    have read : readPath deepest (writePath path ++ ']' :: '\n' :: rest) =
        some (path, ']' :: '\n' :: rest) :=
      readPath_writePath nonempty h (by simp [isBare, isWordChar, isLetter, isDigit])
        (by simp [skipBlanks])
    have closed : afterWord? "]" (']' :: '\n' :: rest) = some ('\n' :: rest) := rfl
    rw [eq, readLine, read]
    · simp only [Option.bind_eq_bind, Option.bind_some]
      rw [closed, Option.bind_some, afterLine?_newLine]
      rfl
    · exact fun more => writePath_ne_bracket nonempty _ _

/-! ## Line after line -/

/-- These characters are these lines, one after the other, some of them with blank lines between. -/
inductive WrittenLines : List Line → List Char → Prop
  | nil : WrittenLines [] []
  | blank {lines : List Line} {cs : List Char} (h : WrittenLines lines cs) :
    WrittenLines lines ('\n' :: cs)
  | cons {line : Line} {lines : List Line} {cs rest : List Char} (first : WrittenLine line cs)
    (h : WrittenLines lines rest) : WrittenLines (line :: lines) (cs ++ rest)

namespace WrittenLines

variable {lines lines' : List Line} {cs cs' : List Char}

theorem single {line : Line} (h : WrittenLine line cs) : WrittenLines [line] cs :=
  cs.append_nil ▸ cons h nil

theorem append (h : WrittenLines lines cs) (h' : WrittenLines lines' cs') :
    WrittenLines (lines ++ lines') (cs ++ cs') := by
  induction h with
  | nil => exact h'
  | blank _ ih => exact .blank ih
  | cons first _ ih =>
    rw [List.cons_append, List.append_assoc]
    exact .cons first ih

/-- Parts of a document with a blank line between them. -/
theorem intercalate {parts : List (List Line × List Char)}
    (h : ∀ part ∈ parts, WrittenLines part.1 part.2) :
    WrittenLines (parts.flatMap (·.1)) (['\n'].intercalate (parts.map (·.2))) := by
  induction parts with
  | nil => exact .nil
  | cons part parts ih =>
    obtain ⟨first, h⟩ := List.forall_mem_cons.1 h
    cases parts with
    | nil => simpa [List.intercalate] using first
    | cons next parts =>
      have joined : ['\n'].intercalate ((part :: next :: parts).map (·.2)) =
          part.2 ++ '\n' :: ['\n'].intercalate ((next :: parts).map (·.2)) := by
        simp [List.intercalate]
      rw [joined, List.flatMap_cons]
      exact first.append (.blank (ih h))

/-- Lines do not start with a mark of the byte order. -/
theorem head_ne_mark (h : WrittenLines lines cs) : cs.head? ≠ some '\uFEFF' := by
  cases h with
  | nil => simp
  | blank => simp
  | cons first =>
    obtain ⟨c, more, rfl, solid⟩ := first.start
    intro eq
    obtain rfl : c = '\uFEFF' := Option.some.inj eq
    cases solid

/-- **Lines are read one by one.** -/
theorem readLines_eq (h : WrittenLines lines cs) {fuel : Nat} (enough : cs.length < fuel) :
    readLines fuel cs = some lines := by
  induction h generalizing fuel with
  | nil =>
    obtain ⟨fuel, rfl⟩ := Nat.exists_eq_succ_of_ne_zero (Nat.ne_of_gt enough)
    rfl
  | @blank lines cs _ ih =>
    obtain ⟨fuel, rfl⟩ := Nat.exists_eq_succ_of_ne_zero (Nat.ne_of_gt (Nat.zero_lt_of_lt enough))
    have same : readLines (fuel + 1) ('\n' :: cs) = readLines (fuel + 1) cs := by
      rw [readLines, readLines, List.length_cons, skipLines_newLine]
    exact same.trans (ih (Nat.lt_of_succ_lt enough))
  | @cons line lines cs rest first _ ih =>
    obtain ⟨fuel, rfl⟩ := Nat.exists_eq_succ_of_ne_zero (Nat.ne_of_gt (Nat.zero_lt_of_lt enough))
    obtain ⟨c, more, eq, solid⟩ := first.start
    have read := first.reads rest
    have noComment : c ≠ '#' := by
      rintro rfl
      cases solid
    have left := @ih fuel (by simp [eq] at enough; omega)
    rw [eq, List.cons_append] at read ⊢
    rw [readLines, skipLines_of_isSolid solid]
    split
    case h_1 eq' => cases eq'
    case h_2 eq' => exact absurd (List.cons.inj eq').1 noComment
    case h_3 =>
      rw [read]
      simp [left]

end WrittenLines

/-! ## Sections -/

/-- The lines of a section: its heading and its bindings. -/
def Section.lines (s : Section) : List Line :=
  .heading s.path s.inSeries :: s.bindings.map fun (path, value) => .binding path value

/-- Sections are told apart by their headings. -/
theorem sections_append (bindings : List (List String × Toml)) (rest : List Section) :
    sections (bindings.map (fun (path, value) => .binding path value) ++
        rest.flatMap Section.lines) =
      (bindings, rest) := by
  have prepend (bindings : List (List String × Toml)) {lines : List Line} {rest : List Section}
      (h : sections lines = ([], rest)) :
      sections (bindings.map (fun (path, value) => .binding path value) ++ lines) =
        (bindings, rest) := by
    induction bindings with
    | nil => exact h
    | cons binding bindings ih => simp only [List.map_cons, List.cons_append, sections, ih]
  refine prepend bindings ?_
  induction rest with
  | nil => rfl
  | cons s rest ih =>
    simp only [List.flatMap_cons, Section.lines, List.cons_append, sections, prepend s.bindings ih]

/-- **Reading a document undoes listing its bindings and sections.** -/
theorem parse_eq_assemble {bindings : List (List String × Toml)} {rest : List Section}
    {cs : List Char}
    (h : WrittenLines (bindings.map (fun (path, value) => .binding path value) ++
      rest.flatMap Section.lines) cs) :
    parse? (String.ofList cs) = assemble bindings rest := by
  rw [parse?, String.toList_ofList]
  dsimp only
  split
  case h_1 => exact absurd rfl h.head_ne_mark
  case h_2 =>
    rw [h.readLines_eq (Nat.lt_succ_self _)]
    simp [sections_append]

end TrainingPortal.Toml
