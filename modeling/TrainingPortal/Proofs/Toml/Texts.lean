import TrainingPortal.Proofs.Toml.Quotes

/-!
# Texts and names in a document

The choice of quotes suits the text (`canHold_ofTraits`), so that a text is read back whatever it
holds (`readText_writeText`), and so is a name, with quotes or without (`readName_writeName`). Both
need to know what follows: after a text no further quote, after a name nothing that could go on a
name without quotes.
-/

namespace TrainingPortal.Toml

open Text

/-! ## Which quotes can hold a text -/

/-- Whether a text may be put between quotes of a kind. -/
def Quotes.CanHold (cs : List Char) : Quotes → Prop
  | .basic | .longBasic => True
  | .literal => ∀ c ∈ cs, isVisible c = true ∧ c ≠ '\''
  | .longLiteral => (∀ c ∈ cs, c = '\n' ∨ isVisible c = true) ∧
    ∀ before after, cs = before ++ after → lead '\'' after ≤ 2

/-- Without runs of quotes there are no quotes. -/
theorem not_mem_of_longestRun {quote : Char} {cs : List Char} (h : longestRun quote cs = 0) :
    quote ∉ cs := by
  intro mem
  obtain ⟨before, after, rfl⟩ := List.append_of_mem mem
  have := lead_le_longestRun quote before (quote :: after)
  rw [h, lead_cons_self] at this
  omega

theorem canHold_of_plain {cs : List Char} {quotes : Quotes}
    (h : Quotes.plain? (TextTraits.of cs) = some quotes) : quotes.CanHold cs := by
  have visible (h : (TextTraits.of cs).hasControl = false) (c : Char) (hc : c ∈ cs) :
      c = '\n' ∨ isVisible c = true := by
    have := List.any_eq_false.1 h c hc
    by_cases eq : c = '\n'
    · exact .inl eq
    · exact .inr (isVisible_of_not_isControl (by simpa [eq] using this))
  unfold Quotes.plain? at h
  split_ifs at h with basic literal longBasic longLiteral <;> cases h
  case pos => trivial
  case pos =>
    simp only [Bool.and_eq_true, Bool.not_eq_true', beq_iff_eq] at literal
    obtain ⟨⟨noBreak, noControl⟩, noRun⟩ := literal
    have single : '\'' ∉ cs := not_mem_of_longestRun noRun
    have inLine : '\n' ∉ cs := by simpa [TextTraits.of] using noBreak
    intro c hc
    refine ⟨(visible noControl c hc).resolve_left ?_, ?_⟩
    · rintro rfl
      exact inLine hc
    · rintro rfl
      exact single hc
  case pos => trivial
  case pos =>
    simp only [Bool.and_eq_true, Bool.not_eq_true', decide_eq_true_eq] at longLiteral
    refine ⟨visible longLiteral.1, ?_⟩
    rintro before after rfl
    exact Nat.le_trans (lead_le_longestRun _ _ _) longLiteral.2

theorem canHold_ofTraits (cs : List Char) :
    (Quotes.ofTraits (TextTraits.of cs)).CanHold cs := by
  unfold Quotes.ofTraits
  cases h : Quotes.plain? (TextTraits.of cs) with
  | some quotes => exact canHold_of_plain h
  | none =>
    -- what no quotes can hold as it is stands between double quotes, escaped
    rw [Option.getD_none]
    split <;> trivial

/-! ## Texts -/

theorem length_le_escapeAll (long : Bool) (run : Nat) (cs : List Char) :
    cs.length ≤ (escapeAll long run cs).length := by
  induction cs generalizing run with
  | nil => exact Nat.zero_le _
  | cons c cs ih =>
    obtain ⟨piece, next, eq, shown⟩ := escapeAll_cons long run c cs
    have := ih next
    rw [eq, List.length_append, List.length_cons]
    cases shown <;> simp only [List.length_cons] <;> omega

/-- What is escaped does not start with a double quote unless three are needed to close it. -/
theorem head_escapeAll (run : Nat) (cs : List Char) :
    (escapeAll false run cs).head? ≠ some '"' := by
  cases cs with
  | nil => simp [escapeAll]
  | cons c cs =>
    obtain ⟨piece, next, eq, shown⟩ := escapeAll_cons false run c cs
    rw [eq]
    cases shown with
    | escape => simp
    | lineBreak => simp
    | plain _ _ quote =>
      intro h
      cases quote (Option.some.inj h)

theorem readText_basic {cs : List Char} (h : ∀ rest, cs ≠ '"' :: '"' :: rest) :
    readText ('"' :: cs) = readBasic (cs.length + 1) cs := by
  rw [readText]
  rintro rest ⟨⟩
  exact h rest rfl

theorem readText_literal {cs : List Char} (h : ∀ rest, cs ≠ '\'' :: '\'' :: rest) :
    readText ('\'' :: cs) = readLiteral cs := by
  rw [readText]
  rintro rest ⟨⟩
  exact h rest rfl

/-- The line break that may stand before a text is passed over. -/
theorem skipBreak_opening {hasBreak : Bool} {cs : List Char}
    (h : hasBreak = false → afterBreak? cs = none) :
    skipBreak ((if hasBreak then ['\n'] else []) ++ cs) = cs := by
  cases hasBreak with
  | true => rfl
  | false =>
    change (afterBreak? cs).getD cs = cs
    rw [h rfl]
    rfl

theorem afterBreak_escapeAll {cs : List Char} (h : '\n' ∉ cs) (rest : List Char) :
    afterBreak? (escapeAll true 0 cs ++ '"' :: rest) = none := by
  cases cs with
  | nil => rfl
  | cons c cs =>
    obtain ⟨piece, next, eq, shown⟩ := escapeAll_cons true 0 c cs
    rw [eq]
    cases shown with
    | escape => rfl
    | lineBreak _ isBreak =>
      subst isBreak
      exact absurd List.mem_cons_self h
    | plain visible => exact afterBreak_of_isVisible visible _

section

variable {hasBreak : Bool} {cs rest : List Char}

theorem readText_between_basic (stop : rest.head? ≠ some '"') :
    readText (writeBetween .basic hasBreak cs ++ rest) = some (cs, rest) := by
  have eq : writeBetween .basic hasBreak cs ++ rest =
      '"' :: (escapeAll false 0 cs ++ '"' :: rest) := by simp [writeBetween]
  have length := length_le_escapeAll false 0 cs
  rw [eq, readText_basic, readBasic_escapeAll (by simp; omega)]
  intro more eq
  cases start : escapeAll false 0 cs with
  | nil =>
    rw [start] at eq
    exact stop (by rw [(List.cons.inj eq).2]; rfl)
  | cons c w =>
    rw [start] at eq
    exact head_escapeAll 0 cs (by rw [start, (List.cons.inj eq).1]; rfl)

theorem readText_between_literal (holds : Quotes.literal.CanHold cs)
    (stop : rest.head? ≠ some '\'') :
    readText (writeBetween .literal hasBreak cs ++ rest) = some (cs, rest) := by
  have eq : writeBetween .literal hasBreak cs ++ rest = '\'' :: (cs ++ '\'' :: rest) := by
    simp [writeBetween]
  rw [eq, readText_literal, readLiteral_append holds]
  intro more eq
  cases cs with
  | nil => exact stop (by rw [(List.cons.inj eq).2]; rfl)
  | cons c cs => exact (holds c List.mem_cons_self).2 (List.cons.inj eq).1

theorem readText_between_longBasic (breaks : hasBreak = false → '\n' ∉ cs)
    (stop : rest.head? ≠ some '"') :
    readText (writeBetween .longBasic hasBreak cs ++ rest) = some (cs, rest) := by
  have eq : writeBetween .longBasic hasBreak cs ++ rest =
      '"' :: '"' :: '"' :: ((if hasBreak then ['\n'] else []) ++
        (escapeAll true 0 cs ++ '"' :: '"' :: '"' :: rest)) := by
    simp [writeBetween]
  have length := length_le_escapeAll true 0 cs
  rw [eq, readText, skipBreak_opening fun noBreak => afterBreak_escapeAll (breaks noBreak) _]
  exact readLongBasic_escapeAll (by simp; omega) stop

theorem readText_between_longLiteral (holds : Quotes.longLiteral.CanHold cs)
    (breaks : hasBreak = false → '\n' ∉ cs) (stop : rest.head? ≠ some '\'') :
    readText (writeBetween .longLiteral hasBreak cs ++ rest) = some (cs, rest) := by
  have eq : writeBetween .longLiteral hasBreak cs ++ rest =
      '\'' :: '\'' :: '\'' :: ((if hasBreak then ['\n'] else []) ++
        (cs ++ '\'' :: '\'' :: '\'' :: rest)) := by
    simp [writeBetween]
  have unbroken (noBreak : hasBreak = false) :
      afterBreak? (cs ++ '\'' :: '\'' :: '\'' :: rest) = none := by
    cases cs with
    | nil => rfl
    | cons c cs =>
      refine afterBreak_of_isVisible ((holds.1 c List.mem_cons_self).resolve_left ?_) _
      rintro rfl
      exact breaks noBreak List.mem_cons_self
  rw [eq, readText, skipBreak_opening unbroken]
  exact readLongLiteral_append (by simp; omega) holds.1 holds.2 stop

/-- What quotes can hold is read back from between them. -/
theorem readText_writeBetween {quotes : Quotes} (holds : quotes.CanHold cs)
    (breaks : hasBreak = false → '\n' ∉ cs)
    (stop : rest.head? ≠ some '"' ∧ rest.head? ≠ some '\'') :
    readText (writeBetween quotes hasBreak cs ++ rest) = some (cs, rest) := by
  cases quotes with
  | basic => exact readText_between_basic stop.1
  | literal => exact readText_between_literal holds stop.2
  | longBasic => exact readText_between_longBasic breaks stop.1
  | longLiteral => exact readText_between_longLiteral holds breaks stop.2

end

/-- **Reading a text undoes writing it**, if no quote follows. -/
theorem readText_writeText (s : String) {rest : List Char}
    (stop : rest.head? ≠ some '"' ∧ rest.head? ≠ some '\'') :
    readText (writeText s ++ rest) = some (s.toList, rest) :=
  readText_writeBetween (canHold_ofTraits s.toList)
    (fun noBreak => by simpa [TextTraits.of] using noBreak) stop

/-! ## Names -/

/-- Names without quotes are read up to the first character that cannot belong to one. -/
theorem readName_bare {cs rest : List Char} (nonempty : cs ≠ []) (bare : ∀ c ∈ cs, isBare c = true)
    (stop : ∀ c, rest.head? = some c → isBare c = false) :
    readName (cs ++ rest) = some (String.ofList cs, rest) := by
  have taken : (cs ++ rest).takeWhile isBare = cs := by
    rw [List.takeWhile_append_of_pos bare]
    cases rest with
    | nil => simp
    | cons c rest => simp [stop c rfl]
  have dropped : (cs ++ rest).dropWhile isBare = rest := by
    rw [List.dropWhile_append_of_pos bare]
    cases rest with
    | nil => rfl
    | cons c rest => simp [stop c rfl]
  obtain ⟨c, cs, rfl⟩ := List.exists_cons_of_ne_nil nonempty
  have first := bare c List.mem_cons_self
  rw [readName.eq_def]
  split
  case h_1 eq =>
    cases List.cons.inj eq |>.1
    cases first
  case h_2 eq =>
    cases List.cons.inj eq |>.1
    cases first
  case h_3 =>
    rw [taken, dropped, if_neg (by simp)]

/-- The quotes of a name can hold it. -/
theorem writeName_eq (s : String) :
    (s.toList ≠ [] ∧ (∀ c ∈ s.toList, isBare c = true) ∧ writeName s = s.toList) ∨
      writeName s = writeBetween .basic false s.toList ∨
      (Quotes.literal.CanHold s.toList ∧ writeName s = writeBetween .literal false s.toList) := by
  unfold writeName
  dsimp only
  split_ifs with bare escapes other
  · simp only [Bool.and_eq_true, Bool.not_eq_true', List.isEmpty_eq_false_iff, List.all_eq_true]
      at bare
    exact .inl ⟨bare.1, bare.2, rfl⟩
  · exact .inr (.inl rfl)
  · simp only [Bool.or_eq_true, not_or, Bool.not_eq_true] at other
    refine .inr (.inr ⟨fun c hc => ⟨?_, ?_⟩, rfl⟩)
    · exact isVisible_of_not_isControl (by simpa using List.any_eq_false.1 other.2 c hc)
    · rintro rfl
      simp [hc] at other
  · exact .inr (.inl rfl)

/-- **Reading a name undoes writing it**, if nothing follows that could belong to a name. -/
theorem readName_writeName (s : String) {rest : List Char}
    (stop : ∀ c, rest.head? = some c → isBare c = false) :
    readName (writeName s ++ rest) = some (s, rest) := by
  rcases writeName_eq s with ⟨nonempty, bare, eq⟩ | eq | ⟨holds, eq⟩
  · rw [eq, readName_bare nonempty bare stop, String.ofList_toList]
  · have length := length_le_escapeAll false 0 s.toList
    have quoted : writeName s ++ rest = '"' :: (escapeAll false 0 s.toList ++ '"' :: rest) := by
      simp [eq, writeBetween]
    rw [quoted, readName, readBasic_escapeAll (by simp; omega)]
    simp
  · have quoted : writeName s ++ rest = '\'' :: (s.toList ++ '\'' :: rest) := by
      simp [eq, writeBetween]
    rw [quoted, readName, readLiteral_append holds]
    simp

/-! ## How texts and names start -/

theorem writeBetween_eq_cons (quotes : Quotes) (hasBreak : Bool) (cs : List Char) :
    ∃ c more, writeBetween quotes hasBreak cs = c :: more ∧ (c = '"' ∨ c = '\'') := by
  cases quotes with
  | basic => exact ⟨_, _, rfl, .inl rfl⟩
  | literal => exact ⟨_, _, rfl, .inr rfl⟩
  | longBasic => exact ⟨_, _, rfl, .inl rfl⟩
  | longLiteral => exact ⟨_, _, rfl, .inr rfl⟩

theorem writeText_eq_cons (s : String) :
    ∃ c more, writeText s = c :: more ∧ (c = '"' ∨ c = '\'') :=
  writeBetween_eq_cons _ _ _

theorem writeName_eq_cons (s : String) :
    ∃ c more, writeName s = c :: more ∧ (isBare c = true ∨ c = '"' ∨ c = '\'') := by
  rcases writeName_eq s with ⟨nonempty, bare, eq⟩ | eq | ⟨-, eq⟩
  · obtain ⟨c, cs, chars⟩ := List.exists_cons_of_ne_nil nonempty
    exact ⟨c, cs, eq.trans chars, .inl (bare c (chars ▸ List.mem_cons_self))⟩
  · obtain ⟨c, more, quoted, start⟩ := writeBetween_eq_cons .basic false s.toList
    exact ⟨c, more, eq.trans quoted, .inr start⟩
  · obtain ⟨c, more, quoted, start⟩ := writeBetween_eq_cons .literal false s.toList
    exact ⟨c, more, eq.trans quoted, .inr start⟩

end TrainingPortal.Toml
