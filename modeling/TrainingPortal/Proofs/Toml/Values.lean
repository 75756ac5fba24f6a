import TrainingPortal.Proofs.Toml.Numbers
import TrainingPortal.Proofs.Toml.Texts

/-!
# Values in a document

Texts, whole numbers and lists of texts are read as what they were written for, each as the value of
a binding (`Written`): it stands before the end of a line, and what it starts with is neither blank
nor the start of a comment (`isSolid`).
-/

namespace TrainingPortal.Toml

open Text

/-! ## What is not skipped -/

/-- Whether a character belongs neither to a blank, a line break nor the start of a comment, and is
no mark of the byte order. -/
def isSolid (c : Char) : Bool :=
  c != ' ' && c != '\t' && c != '\n' && c != '\r' && c != '#' && c != '\uFEFF'

theorem isSolid_of_isBare {c : Char} (h : isBare c = true) : isSolid c = true := by
  simp only [isSolid, Bool.and_eq_true, bne_iff_ne]
  refine ⟨⟨⟨⟨⟨?_, ?_⟩, ?_⟩, ?_⟩, ?_⟩, ?_⟩ <;> rintro rfl <;> cases h

theorem skipBlanks_of_isSolid {c : Char} (h : isSolid c = true) (cs : List Char) :
    skipBlanks (c :: cs) = c :: cs := by
  simp only [isSolid, Bool.and_eq_true, bne_iff_ne] at h
  simp [skipBlanks, h]

theorem afterBreak_of_isSolid {c : Char} (h : isSolid c = true) (cs : List Char) :
    afterBreak? (c :: cs) = none := by
  simp only [isSolid, Bool.and_eq_true, bne_iff_ne] at h
  simp [afterBreak?, h]

theorem skipLines_of_isSolid {c : Char} (h : isSolid c = true) (fuel : Nat) (cs : List Char) :
    skipLines fuel (c :: cs) = c :: cs := by
  cases fuel with
  | zero => rfl
  | succ fuel =>
    have noComment : c ≠ '#' := by
      rintro rfl
      cases h
    rw [skipLines, skipBlanks_of_isSolid h]
    split
    case h_1 eq => exact absurd (List.cons.inj eq).1 noComment
    case h_2 => rw [afterBreak_of_isSolid h]

theorem skipLines_newLine (fuel : Nat) (cs : List Char) :
    skipLines (fuel + 1) ('\n' :: cs) = skipLines fuel cs := rfl

theorem skipLines_blank (fuel : Nat) (cs : List Char) :
    skipLines (fuel + 1) (' ' :: cs) = skipLines (fuel + 1) cs := rfl

/-! ## Texts and lists of texts -/

/-- What a text starts with is solid and starts a text. -/
theorem isSolid_of_quote {c : Char} (h : c = '"' ∨ c = '\'') : isSolid c = true := by
  rcases h with rfl | rfl <;> rfl

theorem readValue_writeText (s : String) (fuel depth : Nat) (rest : List Char)
    (stop : rest.head? ≠ some '"' ∧ rest.head? ≠ some '\'') :
    readValue (fuel + 1) depth (writeText s ++ rest) = some (text s, rest) := by
  obtain ⟨c, more, eq, quote⟩ := writeText_eq_cons s
  have read := readText_writeText s stop
  rw [eq, List.cons_append] at read ⊢
  have apart : c ≠ '[' ∧ c ≠ '\x7b' := by rcases quote with rfl | rfl <;> decide
  rw [readValue, if_pos quote, read]
  · simp
  · exact apart.1
  · exact apart.2

/-- One line of a list. -/
def writeItem (s : String) : List Char := "    ".toList ++ writeText s ++ ",\n".toList

theorem writeTexts_lines (s t : String) (texts : List String) :
    writeTexts (s :: t :: texts) =
      '[' :: '\n' :: ((s :: t :: texts).flatMap writeItem ++ [']']) := by
  change "[\n".toList ++ (s :: t :: texts).flatMap writeItem ++ [']'] = _
  generalize (s :: t :: texts).flatMap writeItem = items
  simp

theorem writeText_append_ne_bracket (s : String) (rest more : List Char) :
    writeText s ++ rest ≠ ']' :: more := by
  obtain ⟨c, cs, eq, quote⟩ := writeText_eq_cons s
  rw [eq, List.cons_append]
  rintro ⟨⟩
  rcases quote with quote | quote <;> exact absurd quote (by decide)

/-- A text is the last item if a bracket follows it. -/
theorem readItems_last (s : String) (fuel depth : Nat) (rest : List Char) :
    readItems (fuel + 2) depth (writeText s ++ ']' :: rest) = some ([text s], rest) := by
  rw [readItems, readValue_writeText s fuel depth (']' :: rest) (by simp)]
  · simp only [Option.bind_eq_bind, Option.bind_some]
    rw [skipLines_of_isSolid rfl]
    rfl
  · exact writeText_append_ne_bracket s _

/-- Behind a comma the other items follow. -/
theorem readItems_next (s : String) {fuel depth : Nat} {next rest : List Char} {items : List Toml}
    (h : readItems (fuel + 1) depth (skipLines next.length next) = some (items, rest)) :
    readItems (fuel + 2) depth (writeText s ++ ',' :: next) = some (text s :: items, rest) := by
  rw [readItems, readValue_writeText s fuel depth (',' :: next) (by simp)]
  · simp only [Option.bind_eq_bind, Option.bind_some]
    rw [skipLines_of_isSolid rfl]
    simp only [h, Option.bind_some]
    rfl
  · exact writeText_append_ne_bracket s _

theorem skipLines_writeItem (s : String) (skip : Nat) (next : List Char) :
    skipLines (skip + 2) ('\n' :: (writeItem s ++ next)) = writeText s ++ ',' :: '\n' :: next := by
  obtain ⟨c, more, eq, quote⟩ := writeText_eq_cons s
  have line : writeItem s ++ next =
      ' ' :: ' ' :: ' ' :: ' ' :: (writeText s ++ ',' :: '\n' :: next) := by
    simp [writeItem]
  rw [line, skipLines_newLine, skipLines_blank, skipLines_blank, skipLines_blank, skipLines_blank,
    eq, List.cons_append, skipLines_of_isSolid (isSolid_of_quote quote)]

/-- The lines of a list up to its closing bracket, from the end of the line before. -/
theorem readItems_writeItems (texts : List String) {fuel skip depth : Nat} (h : texts.length < fuel)
    (hskip : 2 ≤ skip) (rest : List Char) :
    readItems fuel depth (skipLines skip ('\n' :: (texts.flatMap writeItem ++ ']' :: rest))) =
      some (texts.map text, rest) := by
  induction texts generalizing fuel skip with
  | nil =>
    obtain ⟨fuel, rfl⟩ := Nat.exists_eq_succ_of_ne_zero (Nat.ne_of_gt h)
    obtain ⟨skip, rfl⟩ := Nat.exists_eq_add_of_le' hskip
    rfl
  | cons s texts ih =>
    rw [List.length_cons] at h
    obtain ⟨fuel, rfl⟩ : ∃ k, fuel = k + 2 := Nat.exists_eq_add_of_le' (by omega)
    obtain ⟨skip, rfl⟩ := Nat.exists_eq_add_of_le' hskip
    rw [List.flatMap_cons, List.append_assoc, skipLines_writeItem]
    exact readItems_next s (ih (Nat.lt_of_succ_lt_succ h) (by simp; omega))

theorem length_writeTexts (texts : List String) : texts.length < (writeTexts texts).length := by
  match texts with
  | [] => exact Nat.zero_lt_succ 1
  | [s] => simp [writeTexts]
  | s :: t :: texts =>
    have long (texts : List String) : texts.length ≤ (texts.flatMap writeItem).length := by
      induction texts with
      | nil => exact Nat.le_refl 0
      | cons s texts ih =>
        rw [List.flatMap_cons, List.length_append, List.length_cons, Nat.add_comm]
        exact Nat.add_le_add (by simp [writeItem]) ih
    have := long (s :: t :: texts)
    rw [writeTexts_lines]
    simp only [List.length_cons, List.length_append, List.length_nil] at this ⊢
    omega

/-- **Reading a list of texts undoes writing it.** -/
theorem readValue_writeTexts (texts : List String) {fuel : Nat} (h : texts.length + 1 < fuel)
    (rest : List Char) :
    readValue fuel 0 (writeTexts texts ++ rest) = some (array (texts.map text), rest) := by
  obtain ⟨fuel, rfl⟩ := Nat.exists_eq_add_of_lt (Nat.zero_lt_of_lt h)
  rw [Nat.zero_add] at h ⊢
  have items : ∀ cs rest', readItems fuel 1 (skipLines cs.length cs) =
      some (texts.map text, rest') →
      readValue (fuel + 1) 0 ('[' :: cs) = some (array (texts.map text), rest') := by
    intro cs rest' read
    rw [readValue, if_neg (by decide), read]
    rfl
  match texts with
  | [] =>
    refine items (']' :: rest) rest ?_
    obtain ⟨fuel, rfl⟩ := Nat.exists_eq_succ_of_ne_zero (Nat.ne_of_gt (Nat.lt_of_succ_lt_succ h))
    rw [skipLines_of_isSolid rfl]
    rfl
  | [s] =>
    have eq : writeTexts [s] ++ rest = '[' :: (writeText s ++ ']' :: rest) := by
      simp [writeTexts]
    rw [eq]
    refine items _ rest ?_
    obtain ⟨c, more, start, quote⟩ := writeText_eq_cons s
    obtain ⟨fuel, rfl⟩ := Nat.exists_eq_add_of_le' (Nat.le_of_lt_succ h)
    have skipped : skipLines (writeText s ++ ']' :: rest).length (writeText s ++ ']' :: rest) =
        writeText s ++ ']' :: rest := by
      rw [start, List.cons_append, skipLines_of_isSolid (isSolid_of_quote quote)]
    rw [skipped]
    exact readItems_last s fuel 1 rest
  | s :: t :: texts =>
    have eq : writeTexts (s :: t :: texts) ++ rest =
        '[' :: '\n' :: ((s :: t :: texts).flatMap writeItem ++ ']' :: rest) := by
      rw [writeTexts_lines]
      simp only [List.cons_append, List.append_assoc, List.nil_append]
    rw [eq]
    exact items _ rest
      (readItems_writeItems _ (Nat.lt_of_succ_lt_succ h) (by simp [writeItem]) rest)

/-! ## Values of bindings -/

/-- These characters are read as the value at the end of a line. -/
structure Written (value : Toml) (cs : List Char) : Prop where
  start : ∃ c more, cs = c :: more ∧ isSolid c = true
  reads {fuel : Nat} (h : cs.length < fuel) (rest : List Char) :
    readValue fuel 0 (cs ++ '\n' :: rest) = some (value, '\n' :: rest)

theorem written_text (s : String) : Written (text s) (writeText s) where
  start := by
    obtain ⟨c, more, eq, quote⟩ := writeText_eq_cons s
    exact ⟨c, more, eq, isSolid_of_quote quote⟩
  reads {fuel} h rest := by
    obtain ⟨fuel, rfl⟩ := Nat.exists_eq_succ_of_ne_zero (Nat.ne_of_gt (Nat.zero_lt_of_lt h))
    exact readValue_writeText s fuel 0 _ (by simp)

theorem written_texts (texts : List String) :
    Written (array (texts.map text)) (writeTexts texts) where
  start := by
    match texts with
    | [] => exact ⟨'[', _, rfl, rfl⟩
    | [s] => exact ⟨'[', _, rfl, rfl⟩
    | s :: t :: texts => exact ⟨'[', _, rfl, rfl⟩
  reads {fuel} h rest :=
    readValue_writeTexts texts (Nat.lt_of_le_of_lt (length_writeTexts texts) h) _

theorem written_decimal {n : Nat} (small : isInt64 n = true) :
    Written (integer n) (decimal n) where
  start := by
    obtain ⟨d, ds, eq⟩ := List.exists_cons_of_ne_nil (decimal_ne_nil n)
    have digit : isDigit d = true := isDigit_of_mem_decimal (eq ▸ List.mem_cons_self)
    exact ⟨d, ds, eq, isSolid_of_isBare (by simp [isBare, isWordChar, digit])⟩
  reads {fuel} h rest := by
    obtain ⟨fuel, rfl⟩ := Nat.exists_eq_succ_of_ne_zero (Nat.ne_of_gt (Nat.zero_lt_of_lt h))
    obtain ⟨d, ds, eq⟩ := List.exists_cons_of_ne_nil (decimal_ne_nil n)
    have digit : isDigit d = true := isDigit_of_mem_decimal (eq ▸ List.mem_cons_self)
    have apart (c : Char) (other : isDigit c = false) : d ≠ c := by
      rintro rfl
      simp [digit] at other
    have read := readNumber_decimal small rest
    rw [eq, List.cons_append] at read ⊢
    rw [readValue, if_neg, if_neg (apart 't' rfl), if_neg (apart 'f' rfl), if_neg, read]
    · exact not_or.2 ⟨apart 'i' rfl, apart 'n' rfl⟩
    · exact not_or.2 ⟨apart '"' rfl, apart '\'' rfl⟩
    · exact apart '[' rfl
    · exact apart '\x7b' rfl

end TrainingPortal.Toml
