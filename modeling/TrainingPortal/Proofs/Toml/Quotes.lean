import TrainingPortal.Proofs.Encoding
import TrainingPortal.Toml.Reader
import TrainingPortal.Toml.Writer

/-!
# Texts between quotes

Reading a text or a name undoes writing it, whatever follows, as long as no further quote does.

* Between double quotes a character stands for itself or is escaped (`Shown`), and each of the two
  readers takes one such piece after the other (`readBasic_shown`, `readLongBasic_shown`).
* Between three quotes, quotes may stand in the text. A reader closes at the first three in a row,
  and takes up to two before them for the end of the text; so no three may stand in a row before
  that, which escaping sees to for double quotes (`lead_escapeAll`) and the choice of the quotes for
  single ones (`lead_le_longestRun`).
* The quotes that are chosen can hold the text (`canHold_ofTraits`).
-/

namespace TrainingPortal.Toml

open Text

/-! ## Quotes in a row -/

/-- The number of quotes that characters start with. -/
def lead (quote : Char) (cs : List Char) : Nat := (cs.takeWhile (· == quote)).length

@[simp] theorem lead_nil (quote : Char) : lead quote [] = 0 := rfl

theorem lead_cons_self (quote : Char) (cs : List Char) :
    lead quote (quote :: cs) = lead quote cs + 1 := by
  simp [lead]

theorem lead_cons_of_ne {quote c : Char} (h : c ≠ quote) (cs : List Char) :
    lead quote (c :: cs) = 0 := by
  simp [lead, h]

theorem lead_append_of_forall {quote : Char} {cs : List Char} (h : ∀ c ∈ cs, c = quote)
    (rest : List Char) : lead quote (cs ++ rest) = cs.length + lead quote rest := by
  rw [lead, List.takeWhile_append_of_pos (by simpa using h), List.length_append, lead]

theorem lead_append_of_exists {quote : Char} {cs : List Char} (h : ∃ c ∈ cs, c ≠ quote)
    (rest : List Char) : lead quote (cs ++ rest) = lead quote cs := by
  induction cs with
  | nil => simp at h
  | cons c cs ih =>
    by_cases hc : c = quote
    · subst hc
      obtain ⟨d, hd, ne⟩ := h
      rw [List.cons_append, lead_cons_self, lead_cons_self,
        ih ⟨d, (List.mem_cons.1 hd).resolve_left ne, ne⟩]
    · rw [List.cons_append, lead_cons_of_ne hc, lead_cons_of_ne hc]

theorem lead_of_head_ne {quote : Char} {cs : List Char} (h : cs.head? ≠ some quote) :
    lead quote cs = 0 := by
  cases cs with
  | nil => rfl
  | cons c cs => exact lead_cons_of_ne (by simpa using h) cs

theorem readClosing_eq (quote : Char) (cs : List Char) :
    readClosing quote cs =
      if lead quote cs < 3 then none
      else some (List.replicate (min 5 (lead quote cs) - 3) quote,
        cs.drop (min 5 (lead quote cs))) := by
  unfold readClosing
  change (if min 5 (lead quote cs) < 3 then none else _) = _
  by_cases few : lead quote cs < 3
  · rw [if_pos few, if_pos (by omega)]
  · rw [if_neg few, if_neg (by omega)]
    rfl

/-- Up to two quotes before the three that close a text belong to it. -/
theorem readClosing_of_forall {quote : Char} {cs rest : List Char} (few : cs.length ≤ 2)
    (all : ∀ c ∈ cs, c = quote) (stop : rest.head? ≠ some quote) :
    readClosing quote (cs ++ quote :: quote :: quote :: rest) = some (cs, rest) := by
  have run : lead quote (cs ++ quote :: quote :: quote :: rest) = cs.length + 3 := by
    rw [lead_append_of_forall all, lead_cons_self, lead_cons_self, lead_cons_self,
      lead_of_head_ne stop]
  rw [readClosing_eq, run, if_neg (by omega), Nat.min_eq_right (by omega), Nat.add_sub_cancel,
    ← List.eq_replicate_of_mem all, ← List.drop_drop, List.drop_left]
  rfl

/-- Fewer than three quotes in a row do not close a text. -/
theorem readClosing_of_exists {quote : Char} {cs : List Char} (few : lead quote cs ≤ 2)
    (other : ∃ c ∈ cs, c ≠ quote) (rest : List Char) : readClosing quote (cs ++ rest) = none := by
  rw [readClosing_eq, lead_append_of_exists other, if_pos (by omega)]

/-! ## The longest run of quotes -/

/-- The run at hand and the longest one before it, a character further. -/
def nextRun (quote : Char) (runs : Nat × Nat) (c : Char) : Nat × Nat :=
  let run := if c = quote then runs.1 + 1 else 0
  (run, max runs.2 run)

theorem longestRun_eq (quote : Char) (cs : List Char) :
    longestRun quote cs = (cs.foldl (nextRun quote) (0, 0)).2 := rfl

theorem le_foldl_nextRun (quote : Char) (cs : List Char) (runs : Nat × Nat) :
    runs.2 ≤ (cs.foldl (nextRun quote) runs).2 := by
  induction cs generalizing runs with
  | nil => exact Nat.le_refl _
  | cons c cs ih => exact Nat.le_trans (Nat.le_max_left _ _) (ih (nextRun quote runs c))

/-- A run that goes on counts together with what it goes on with. -/
theorem lead_le_foldl_nextRun {quote : Char} (cs : List Char) {runs : Nat × Nat}
    (h : runs.1 ≤ runs.2) : runs.1 + lead quote cs ≤ (cs.foldl (nextRun quote) runs).2 := by
  induction cs generalizing runs with
  | nil => exact h
  | cons c cs ih =>
    rw [List.foldl_cons]
    by_cases hc : c = quote
    · subst hc
      have next : nextRun c runs c = (runs.1 + 1, max runs.2 (runs.1 + 1)) := by simp [nextRun]
      rw [lead_cons_self, next]
      have := @ih (runs.1 + 1, max runs.2 (runs.1 + 1)) (Nat.le_max_right _ _)
      omega
    · rw [lead_cons_of_ne hc]
      exact Nat.le_trans h (Nat.le_trans (Nat.le_max_left _ _)
        (le_foldl_nextRun quote cs (nextRun quote runs c)))

/-- No run within a text is longer than its longest one. -/
theorem lead_le_longestRun (quote : Char) (before cs : List Char) :
    lead quote cs ≤ longestRun quote (before ++ cs) := by
  have ordered : ∀ (before : List Char) (runs : Nat × Nat), runs.1 ≤ runs.2 →
      (before.foldl (nextRun quote) runs).1 ≤ (before.foldl (nextRun quote) runs).2 := by
    intro before
    induction before with
    | nil => exact fun _ h => h
    | cons c cs ih => exact fun runs _ => ih _ (Nat.le_max_right _ _)
  rw [longestRun_eq, List.foldl_append]
  exact Nat.le_trans (Nat.le_add_left _ _)
    (lead_le_foldl_nextRun cs (ordered before _ (Nat.le_refl 0)))

/-! ## Pieces between double quotes -/

theorem isVisible_of_not_isControl {c : Char} (h : isControl c = false) : isVisible c = true := by
  simp only [isControl, Bool.or_eq_false_iff, Bool.and_eq_false_iff, decide_eq_false_iff_not,
    bne_eq_false_iff_eq, beq_eq_false_iff_ne, not_lt] at h
  simp only [isVisible, Bool.or_eq_true, beq_iff_eq, Bool.and_eq_true, decide_eq_true_eq,
    bne_iff_ne]
  rcases h with ⟨shown | tab, ne⟩
  · exact .inr ⟨shown, ne⟩
  · exact .inl tab

theorem afterBreak_of_isVisible {c : Char} (h : isVisible c = true) (rest : List Char) :
    afterBreak? (c :: rest) = none := by
  have apart : c ≠ '\n' ∧ c ≠ '\r' := by
    constructor <;> rintro rfl <;> revert h <;> decide
  simp [afterBreak?, apart]

/-- The characters between double quotes that stand for one character. -/
inductive Shown (long : Bool) (c : Char) : List Char → Prop
  | escape {e : List Char} (reads : ∀ rest, readEscape (e ++ rest) = some (c, rest))
    (unfolded : ∀ rest, isFolded (e ++ rest) = false) : Shown long c ('\\' :: e)
  | lineBreak (isLong : long = true) (eq : c = '\n') : Shown long c ['\n']
  | plain (visible : isVisible c = true) (ne : c ≠ '\\') (quote : c = '"' → long = true) :
    Shown long c [c]

/-- A letter after a backslash. -/
theorem Shown.letter {long : Bool} {c e : Char} (h : escape? e = some c) :
    Shown long c ['\\', e] := by
  have apart : e ≠ 'u' ∧ e ≠ 'U' ∧ e ≠ ' ' ∧ e ≠ '\t' ∧ e ≠ '\n' ∧ e ≠ '\r' := by
    refine ⟨?_, ?_, ?_, ?_, ?_, ?_⟩ <;> rintro rfl <;> cases h
  refine .escape (fun rest => ?_) fun rest => ?_
  · simp [readEscape, apart, h]
  · simp [isFolded, skipBlanks, apart, afterBreak?]

/-- Four digits after a backslash and an `u`. -/
theorem Shown.digits {long : Bool} {c : Char} (h : c.toNat < 256) :
    Shown long c ('\\' :: 'u' :: hexOfByte c.toNat) := by
  refine .escape (fun rest => ?_) fun rest => rfl
  have high := digitValue?_upperDigit (show c.toNat / 16 < 16 by omega)
  have low := digitValue?_upperDigit (show c.toNat % 16 < 16 by omega)
  have zero : digitValue? '0' = some 0 := rfl
  have value : c.toNat / 16 * 16 + c.toNat % 16 = c.toNat := by omega
  simp only [hexOfByte, List.cons_append, List.nil_append, readEscape, charOfHex?, ofDigits,
    List.foldl_cons, List.foldl_nil, zero, high, low, Option.getD_some, List.all_cons,
    List.all_nil, isHexDigit, Option.isSome_some, value, Nat.zero_mul, Nat.zero_add]
  rw [if_pos ⟨rfl, .inl (by omega)⟩, Option.map_some, Char.ofNat_toNat]

/-- A character other than a double quote is shown as it is written. -/
theorem shown_escaped (long : Bool) {c : Char} (h : c ≠ '"') : Shown long c (escaped long c) := by
  unfold escaped
  split
  · exact .letter rfl
  · exact .letter rfl
  · cases long with
    | false => exact .letter rfl
    | true => exact .lineBreak rfl rfl
  · exact .letter rfl
  · exact .letter rfl
  · exact .letter rfl
  case h_7 ne =>
    by_cases control : isControl c = true
    · rw [if_pos control]
      refine .digits ?_
      simp only [isControl, Bool.or_eq_true, Bool.and_eq_true, decide_eq_true_eq, beq_iff_eq]
        at control
      omega
    · rw [if_neg control]
      exact .plain (isVisible_of_not_isControl (by simpa using control)) ne fun eq => absurd eq h

/-- A text is written character by character. -/
theorem escapeAll_cons (long : Bool) (run : Nat) (c : Char) (cs : List Char) :
    ∃ piece next, escapeAll long run (c :: cs) = piece ++ escapeAll long next cs ∧
      Shown long c piece := by
  by_cases quote : c = '"'
  · subst quote
    by_cases room : long ∧ run < 2
    · exact ⟨['"'], run + 1, by simp [escapeAll, room],
        .plain rfl (by decide) fun _ => room.1⟩
    · refine ⟨['\\', '"'], 0, ?_, .letter rfl⟩
      simp only [escapeAll, if_true, if_neg room, List.cons_append, List.nil_append]
  · exact ⟨escaped long c, 0, by simp [escapeAll, quote], shown_escaped long quote⟩

/-- Never do three double quotes stand in a row. -/
theorem lead_escapeAll (long : Bool) (run : Nat) (cs : List Char) :
    lead '"' (escapeAll long run cs) ≤ 2 - run := by
  induction cs generalizing run with
  | nil => exact Nat.zero_le _
  | cons c cs ih =>
    by_cases quote : c = '"'
    · subst quote
      by_cases room : long ∧ run < 2
      · have := ih (run + 1)
        simp only [escapeAll, if_true, if_pos room, lead_cons_self]
        omega
      · simp only [escapeAll, if_true, if_neg room]
        rw [lead_cons_of_ne (by decide)]
        exact Nat.zero_le _
    · have first : (escaped long c ++ escapeAll long 0 cs).head? ≠ some '"' := by
        have shown := shown_escaped long quote
        generalize escaped long c = piece at shown
        cases shown <;> simp [quote]
      simp [escapeAll, quote, lead_of_head_ne first]

/-- Where only double quotes are written, they are the text. -/
theorem escapeAll_of_forall {long : Bool} {run : Nat} {cs : List Char}
    (h : ∀ c ∈ escapeAll long run cs, c = '"') : escapeAll long run cs = cs := by
  induction cs generalizing run with
  | nil => rfl
  | cons c cs ih =>
    obtain ⟨piece, next, eq, shown⟩ := escapeAll_cons long run c cs
    rw [eq] at h ⊢
    obtain ⟨hpiece, hrest⟩ := List.forall_mem_append.1 h
    rw [ih hrest]
    cases shown with
    | escape => exact absurd (hpiece '\\' List.mem_cons_self) (by decide)
    | lineBreak => exact absurd (hpiece '\n' List.mem_cons_self) (by decide)
    | plain => rfl

/-! ## One double quote on either side -/

theorem readBasic_shown {c : Char} {piece : List Char} (h : Shown false c piece) (fuel : Nat)
    (rest : List Char) :
    readBasic (fuel + 1) (piece ++ rest) =
      (readBasic fuel rest).map fun (more, rest) => (c :: more, rest) := by
  cases h with
  | escape reads =>
    simp only [List.cons_append, readBasic, reads, Option.bind_eq_bind, Option.bind_some]
    cases readBasic fuel rest <;> rfl
  | lineBreak isLong => cases isLong
  | plain visible ne quote =>
    rw [List.singleton_append, readBasic, if_pos visible]
    · rintro rfl
      cases quote rfl
    · exact ne

theorem readBasic_escapeAll {fuel run : Nat} {cs rest : List Char} (h : cs.length < fuel) :
    readBasic fuel (escapeAll false run cs ++ '"' :: rest) = some (cs, rest) := by
  induction cs generalizing fuel run with
  | nil =>
    obtain ⟨fuel, rfl⟩ := Nat.exists_eq_succ_of_ne_zero (Nat.ne_of_gt h)
    rfl
  | cons c cs ih =>
    obtain ⟨fuel, rfl⟩ := Nat.exists_eq_succ_of_ne_zero (Nat.ne_of_gt (Nat.zero_lt_of_lt h))
    obtain ⟨piece, next, eq, shown⟩ := escapeAll_cons false run c cs
    rw [eq, List.append_assoc, readBasic_shown shown, ih (by simpa using h)]
    rfl

/-! ## One single quote on either side -/

theorem readLiteral_append {cs : List Char} (h : ∀ c ∈ cs, isVisible c = true ∧ c ≠ '\'')
    (rest : List Char) : readLiteral (cs ++ '\'' :: rest) = some (cs, rest) := by
  induction cs with
  | nil => rfl
  | cons c cs ih =>
    obtain ⟨⟨visible, ne⟩, h⟩ := List.forall_mem_cons.1 h
    rw [List.cons_append, readLiteral, if_pos visible, ih h]
    · rfl
    · exact ne

/-! ## Three double quotes on either side -/

theorem readLongBasic_of_closing {cs : List Char} {ending : List Char × List Char}
    (h : readClosing '"' cs = some ending) (fuel : Nat) :
    readLongBasic (fuel + 1) cs = some ending := by
  rw [readLongBasic.eq_def]
  simp only [h]

theorem readLongBasic_shown {c : Char} {piece rest : List Char} (h : Shown true c piece)
    (opened : readClosing '"' (piece ++ rest) = none) (fuel : Nat) :
    readLongBasic (fuel + 1) (piece ++ rest) =
      (readLongBasic fuel rest).map fun (more, rest) => (c :: more, rest) := by
  rw [readLongBasic.eq_def]
  simp only [opened]
  cases h with
  | escape reads unfolded =>
    simp only [List.cons_append, unfolded, reads, Bool.false_eq_true, if_false,
      Option.bind_eq_bind, Option.bind_some]
    cases readLongBasic fuel rest <;> rfl
  | lineBreak _ eq =>
    subst eq
    rfl
  | plain visible ne =>
    simp [afterBreak_of_isVisible visible, visible]

theorem readLongBasic_escapeAll {fuel run : Nat} {cs rest : List Char} (h : cs.length < fuel)
    (stop : rest.head? ≠ some '"') :
    readLongBasic fuel (escapeAll true run cs ++ '"' :: '"' :: '"' :: rest) = some (cs, rest) := by
  induction cs generalizing fuel run with
  | nil =>
    obtain ⟨fuel, rfl⟩ := Nat.exists_eq_succ_of_ne_zero (Nat.ne_of_gt h)
    exact readLongBasic_of_closing
      (@readClosing_of_forall _ [] _ (Nat.zero_le 2) (by simp) stop) fuel
  | cons c cs ih =>
    obtain ⟨fuel, rfl⟩ := Nat.exists_eq_succ_of_ne_zero (Nat.ne_of_gt (Nat.zero_lt_of_lt h))
    have few : lead '"' (escapeAll true run (c :: cs)) ≤ 2 :=
      Nat.le_trans (lead_escapeAll true run _) (Nat.sub_le 2 run)
    by_cases all : ∀ d ∈ escapeAll true run (c :: cs), d = '"'
    · -- only the quotes at the end of the text are left
      have length : (escapeAll true run (c :: cs)).length ≤ 2 := by
        have := lead_append_of_forall all []
        rw [List.append_nil] at this
        simpa [this] using few
      rw [readLongBasic_of_closing (readClosing_of_forall length all stop) fuel,
        escapeAll_of_forall all]
    · have other : ∃ d ∈ escapeAll true run (c :: cs), d ≠ '"' := by simpa using all
      have opened := readClosing_of_exists few other ('"' :: '"' :: '"' :: rest)
      obtain ⟨piece, next, eq, shown⟩ := escapeAll_cons true run c cs
      rw [eq, List.append_assoc] at opened ⊢
      rw [readLongBasic_shown shown opened, ih (by simpa using h)]
      rfl

/-! ## Three single quotes on either side -/

theorem readLongLiteral_of_closing {cs : List Char} {ending : List Char × List Char}
    (h : readClosing '\'' cs = some ending) (fuel : Nat) :
    readLongLiteral (fuel + 1) cs = some ending := by
  rw [readLongLiteral.eq_def]
  simp only [h]

theorem readLongLiteral_append {fuel : Nat} {cs rest : List Char} (h : cs.length < fuel)
    (visible : ∀ c ∈ cs, c = '\n' ∨ isVisible c = true)
    (few : ∀ before after, cs = before ++ after → lead '\'' after ≤ 2)
    (stop : rest.head? ≠ some '\'') :
    readLongLiteral fuel (cs ++ '\'' :: '\'' :: '\'' :: rest) = some (cs, rest) := by
  induction cs generalizing fuel with
  | nil =>
    obtain ⟨fuel, rfl⟩ := Nat.exists_eq_succ_of_ne_zero (Nat.ne_of_gt h)
    exact readLongLiteral_of_closing
      (@readClosing_of_forall _ [] _ (Nat.zero_le 2) (by simp) stop) fuel
  | cons c cs ih =>
    obtain ⟨fuel, rfl⟩ := Nat.exists_eq_succ_of_ne_zero (Nat.ne_of_gt (Nat.zero_lt_of_lt h))
    by_cases all : ∀ d ∈ c :: cs, d = '\''
    · have length : (c :: cs).length ≤ 2 := by
        have := lead_append_of_forall all []
        rw [List.append_nil] at this
        simpa [this] using few [] _ rfl
      exact readLongLiteral_of_closing (readClosing_of_forall length all stop) fuel
    · have opened := readClosing_of_exists (few [] _ rfl)
        (by simpa only [not_forall, exists_prop] using all) ('\'' :: '\'' :: '\'' :: rest)
      have tail := ih (by simpa using h) (fun d hd => visible d (List.mem_cons_of_mem c hd))
        fun before after eq => few (c :: before) after (by rw [eq, List.cons_append])
      rw [List.cons_append] at opened ⊢
      rw [readLongLiteral.eq_def]
      simp only [opened]
      rcases visible c List.mem_cons_self with rfl | hc
      · simp [afterBreak?, tail]
      · simp [afterBreak_of_isVisible hc, hc, tail]

end TrainingPortal.Toml
