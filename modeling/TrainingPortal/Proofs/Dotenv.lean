import TrainingPortal.Dotenv.Binding

/-!
# Dotenv files line by line

A dotenv file is read one logical line after the other. `Binds` says which bindings lines make when
none of them is at fault, and the bindings of a file are those of all its lines (`read_eq_none_iff`)
or of the lines before the first fault: that of a line, or that with which the lines end
(`Interrupted`, `read_eq_some_iff`).
-/

namespace TrainingPortal.Dotenv

/-- The bindings that lines make, each of them knowing those before it. -/
inductive Binds (vars : Variables) : List (List Char) → List Binding → Prop
  | nil : Binds vars [] []
  /-- A line without a binding. -/
  | empty {lines : List (List Char)} {bound : List Binding} {line : List Char}
    (before : Binds vars lines bound) (reads : readLine vars bound line = .ok none) :
    Binds vars (lines ++ [line]) bound
  | binding {lines : List (List Char)} {bound : List Binding} {line : List Char}
    {binding : Binding} (before : Binds vars lines bound)
    (reads : readLine vars bound line = .ok (some binding)) :
    Binds vars (lines ++ [line]) (bound ++ [binding])

variable {vars : Variables} {fs : Files} {path : String} {lines : List (List Char)}
  {bound bindings : List Binding} {fault : Fault}

/-- Lines that make bindings only add to what the lines after them know. -/
theorem Binds.readLines (h : Binds vars lines bound) (rest : List (List Char)) :
    readLines vars [] (lines ++ rest) = readLines vars bound rest := by
  induction h generalizing rest with
  | nil => rfl
  | empty before reads ih | binding before reads ih =>
    rw [List.append_assoc, ih, List.singleton_append, Dotenv.readLines, reads]

/-- Lines make bindings up to the first that is at fault. -/
theorem binds_or_faults (h : Binds vars lines bound) (rest : List (List Char)) :
    (∃ bindings, Binds vars (lines ++ rest) bindings) ∨
      ∃ before line after bindings fault, lines ++ rest = before ++ line :: after ∧
        Binds vars before bindings ∧ readLine vars bindings line = .error fault := by
  induction rest generalizing lines bound with
  | nil => exact .inl ⟨bound, by rwa [List.append_nil]⟩
  | cons line rest ih =>
    cases reads : readLine vars bound line with
    | error fault => exact .inr ⟨lines, line, rest, bound, fault, rfl, h, reads⟩
    | ok binding? =>
      rw [← List.singleton_append, ← List.append_assoc]
      cases binding? with
      | none => exact ih (.empty h reads)
      | some binding => exact ih (.binding h reads)

/-- The bindings that are made of a file before a fault ends it. -/
inductive Interrupted (fs : Files) (vars : Variables) (path : String) :
    List Binding → Fault → Prop
  /-- The file cannot be read. -/
  | file {e : FileError} (unreadable : fs.read path = .error e) :
    Interrupted fs vars path [] (.unreadable e)
  /-- A line is at fault. -/
  | line {content : List UInt8} {before after : List (List Char)} {line : List Char}
    {ending : Ending} {bindings : List Binding} {fault : Fault}
    (reads : fs.read path = .ok content)
    (whole : logicalLines content = (before ++ line :: after, ending))
    (binds : Binds vars before bindings) (faulty : readLine vars bindings line = .error fault) :
    Interrupted fs vars path bindings fault
  /-- The lines end before the file. -/
  | ending {content : List UInt8} {lines : List (List Char)} {ending : Ending}
    {bindings : List Binding} {fault : Fault} (reads : fs.read path = .ok content)
    (whole : logicalLines content = (lines, ending)) (binds : Binds vars lines bindings)
    (ends : ending.fault? = some fault) : Interrupted fs vars path bindings fault

theorem read_of_interrupted (h : Interrupted fs vars path bindings fault) :
    read fs vars path = (bindings, some fault) := by
  cases h with
  | file unreadable => rw [read, unreadable]
  | line reads whole binds faulty =>
    rw [read, reads]
    simp only [parse, whole, binds.readLines, readLines, faulty]
  | ending reads whole binds ends =>
    have all := binds.readLines []
    rw [List.append_nil] at all
    rw [read, reads]
    simp only [parse, whole, all, readLines, ends]

theorem read_of_binds {content : List UInt8} (reads : fs.read path = .ok content)
    (whole : logicalLines content = (lines, .complete)) (binds : Binds vars lines bindings) :
    read fs vars path = (bindings, none) := by
  have all := binds.readLines []
  rw [List.append_nil] at all
  rw [read, reads]
  simp only [parse, whole, all, readLines, Ending.fault?]

/-- Every file gives the bindings of all its lines, or is interrupted. -/
theorem binds_or_interrupted (fs : Files) (vars : Variables) (path : String) :
    (∃ content lines bindings, fs.read path = .ok content ∧
      logicalLines content = (lines, .complete) ∧ Binds vars lines bindings) ∨
    ∃ bindings fault, Interrupted fs vars path bindings fault := by
  cases reads : fs.read path with
  | error e => exact .inr ⟨_, _, .file reads⟩
  | ok content =>
    obtain ⟨⟨lines, ending⟩, whole⟩ : ∃ result, logicalLines content = result := ⟨_, rfl⟩
    rcases binds_or_faults (.nil : Binds vars [] []) lines with
      ⟨bindings, binds⟩ | ⟨before, line, after, bindings, fault, split, binds, faulty⟩
    · cases ends : ending.fault? with
      | none =>
        cases ending with
        | complete => exact .inl ⟨content, lines, bindings, rfl, whole, binds⟩
        | unfinished _ | notUtf8 => cases ends
      | some fault => exact .inr ⟨bindings, fault, .ending reads whole binds ends⟩
    · rw [List.nil_append] at split
      exact .inr ⟨bindings, fault, .line reads (split ▸ whole) binds faulty⟩

/-- **A file without a fault gives the bindings of all its lines.** -/
theorem read_eq_none_iff :
    read fs vars path = (bindings, none) ↔
      ∃ content lines, fs.read path = .ok content ∧ logicalLines content = (lines, .complete) ∧
        Binds vars lines bindings := by
  refine ⟨fun h => ?_, fun ⟨_, _, reads, whole, binds⟩ => read_of_binds reads whole binds⟩
  rcases binds_or_interrupted fs vars path with
    ⟨content, lines, bindings', reads, whole, binds⟩ | ⟨bindings', fault, interrupted⟩
  · cases h.symm.trans (read_of_binds reads whole binds)
    exact ⟨content, lines, reads, whole, binds⟩
  · cases h.symm.trans (read_of_interrupted interrupted)

/-- **A file with a fault gives the bindings of the lines before it.** -/
theorem read_eq_some_iff :
    read fs vars path = (bindings, some fault) ↔ Interrupted fs vars path bindings fault := by
  refine ⟨fun h => ?_, read_of_interrupted⟩
  rcases binds_or_interrupted fs vars path with
    ⟨content, lines, bindings', reads, whole, binds⟩ | ⟨bindings', fault', interrupted⟩
  · cases h.symm.trans (read_of_binds reads whole binds)
  · cases h.symm.trans (read_of_interrupted interrupted)
    exact interrupted

end TrainingPortal.Dotenv
