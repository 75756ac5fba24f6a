import TrainingPortal.Proofs.Digits
import TrainingPortal.Toml.Scalar

/-!
# Numbers in a document

A whole number that is written in decimal is read as that number (`readNumber_decimal`). The readers
of dates and of numbers with a point are tried before that of whole numbers, and neither of them
takes digits that end with their line: what they look for next is no digit.
-/

namespace TrainingPortal

/-! ## Digits up to the end of a line -/

namespace Toml

open Text

variable {ds : List Char}

theorem readDigits_append (nonempty : ds ≠ []) (h : ∀ c ∈ ds, isDigit c = true)
    (rest : List Char) : readDigits isDigit (ds ++ '\n' :: rest) = some (ds, '\n' :: rest) := by
  induction ds with
  | nil => exact absurd rfl nonempty
  | cons d ds ih =>
    obtain ⟨hd, h⟩ := List.forall_mem_cons.1 h
    cases ds with
    | nil =>
      have stop : readDigits isDigit ('\n' :: rest) = none := by
        rw [readDigits.eq_def]
        rfl
      rw [List.singleton_append, readDigits.eq_def]
      simp only [hd, Bool.not_true, Bool.false_eq_true, if_false]
      split
      case h_1 eq => exact absurd (List.cons.inj eq).1 (by decide)
      case h_2 =>
        rw [stop]
        rfl
    | cons d' ds =>
      have next := ih (List.cons_ne_nil _ _) h
      have apart : d' ≠ '_' := by
        rintro rfl
        exact absurd (h '_' List.mem_cons_self) (by decide)
      simp only [List.cons_append] at next ⊢
      rw [readDigits.eq_def]
      simp only [hd, Bool.not_true, Bool.false_eq_true, if_false]
      split
      case h_1 eq => exact absurd (List.cons.inj eq).1 apart
      case h_2 => rw [next]

/-- Digits are no start of a word that starts with something else. -/
theorem afterWord?_append {w : Char} {ws : List Char} (word : String) (hw : word.toList = w :: ws)
    (other : isDigit w = false) (ne : w ≠ '\n') (h : ∀ c ∈ ds, isDigit c = true)
    (rest : List Char) : afterWord? word (ds ++ '\n' :: rest) = none := by
  rw [afterWord?, hw, if_neg]
  cases ds with
  | nil => simp [ne]
  | cons d ds =>
    have apart : w ≠ d := by
      rintro rfl
      exact absurd (h w List.mem_cons_self) (by simp [other])
    simp [apart]

/-- A number of a fixed length leaves the digits after it. -/
theorem rest_of_readFixed {n most v : Nat} {rest rest' : List Char}
    (h : readFixed n most (ds ++ '\n' :: rest) = some (v, rest')) :
    rest' = ds.drop n ++ '\n' :: rest := by
  unfold readFixed at h
  simp only [ite_eq_iff, Option.some.injEq, Prod.mk.injEq, reduceCtorEq, and_false, or_false] at h
  obtain ⟨⟨-, all, -⟩, -, rfl⟩ := h
  have enough : n ≤ ds.length := by
    by_contra few
    obtain ⟨k, beyond⟩ := Nat.exists_eq_add_of_lt (Nat.lt_of_not_le few)
    have mem : '\n' ∈ (ds ++ '\n' :: rest).take n := by
      rw [List.take_append, show n - ds.length = k + 1 by omega, List.take_succ_cons]
      exact List.mem_append_right _ List.mem_cons_self
    exact absurd (List.all_eq_true.1 all _ mem) (by decide)
  rw [List.drop_append_of_le_length enough]

/-- After digits, a date or a time goes on with a mark that is none. -/
theorem readFixed_bind_afterWord? {w : Char} {ws : List Char} (word : String)
    (hw : word.toList = w :: ws) (other : isDigit w = false) (ne : w ≠ '\n')
    (h : ∀ c ∈ ds, isDigit c = true) (n most : Nat) (rest : List Char) :
    (readFixed n most (ds ++ '\n' :: rest)).bind (fun read => afterWord? word read.2) = none := by
  cases read : readFixed n most (ds ++ '\n' :: rest) with
  | none => rfl
  | some read' =>
    obtain ⟨v, rest'⟩ := read'
    rw [Option.bind_some, rest_of_readFixed read]
    exact afterWord?_append word hw other ne (fun c hc => h c (List.mem_of_mem_drop hc)) rest

theorem readDatetime_append (h : ∀ c ∈ ds, isDigit c = true) (rest : List Char) :
    readDatetime (ds ++ '\n' :: rest) = none := by
  have noDate : afterDate? (ds ++ '\n' :: rest) = none := by
    have stop := readFixed_bind_afterWord? "-" rfl rfl (by decide) h 4 9999 rest
    rw [afterDate?]
    cases read : readFixed 4 9999 (ds ++ '\n' :: rest) with
    | none => rfl
    | some year =>
      rw [read, Option.bind_some] at stop
      simp [stop]
  have noTime : afterTime? (ds ++ '\n' :: rest) = none := by
    have stop := readFixed_bind_afterWord? ":" rfl rfl (by decide) h 2 23 rest
    rw [afterTime?]
    cases read : readFixed 2 23 (ds ++ '\n' :: rest) with
    | none => rfl
    | some hour =>
      rw [read, Option.bind_some] at stop
      simp [stop]
  simp [readDatetime, noDate, noTime]

/-! ## Whole numbers -/

/-- What decimal digits start with is neither a sign nor, for more than one digit, a zero. -/
theorem readWhole_decimal (n : Nat) (rest : List Char) :
    readWhole (decimal n ++ '\n' :: rest) = some (decimal n, '\n' :: rest) := by
  rcases Nat.eq_zero_or_pos n with rfl | positive
  · rfl
  · obtain ⟨d, ds, eq, nonzero⟩ := decimal_eq_cons positive
    have digits := readDigits_append (decimal_ne_nil n) (fun _ => isDigit_of_mem_decimal) rest
    rw [eq, List.cons_append] at digits ⊢
    rw [readWhole, digits]
    rintro _ ⟨⟩
    exact nonzero rfl

theorem readSign_decimal (n : Nat) (rest : List Char) :
    readSign (decimal n ++ '\n' :: rest) = (none, decimal n ++ '\n' :: rest) := by
  obtain ⟨d, ds, eq⟩ := List.exists_cons_of_ne_nil (decimal_ne_nil n)
  have digit : isDigit d = true := isDigit_of_mem_decimal (eq ▸ List.mem_cons_self)
  rw [eq, List.cons_append, readSign.eq_def]
  split
  case h_1 eq => cases (List.cons.inj eq).1 ▸ digit
  case h_2 eq => cases (List.cons.inj eq).1 ▸ digit
  case h_3 => rfl

theorem readReal_decimal (n : Nat) (rest : List Char) :
    readReal (decimal n ++ '\n' :: rest) = none := by
  have digits : ∀ c ∈ decimal n, isDigit c = true := fun _ => isDigit_of_mem_decimal
  have noWord : (afterWord? "inf" (decimal n ++ '\n' :: rest)).or
      (afterWord? "nan" (decimal n ++ '\n' :: rest)) = none := by
    rw [afterWord?_append "inf" rfl rfl (by decide) digits,
      afterWord?_append "nan" rfl rfl (by decide) digits]
    rfl
  rw [readReal, readSign_decimal]
  dsimp only
  rw [noWord]
  dsimp only
  rw [readWhole_decimal]
  rfl

theorem readInteger_decimal {n : Nat} (small : isInt64 n = true) (rest : List Char) :
    readInteger (decimal n ++ '\n' :: rest) = some (integer n, '\n' :: rest) := by
  -- no base is marked: what follows a zero is the end of the line
  have unmarked (b : Char) (more : List Char) (other : isDigit b = false) (ne : b ≠ '\n') :
      decimal n ++ '\n' :: rest ≠ '0' :: b :: more := by
    rcases Nat.eq_zero_or_pos n with rfl | positive
    · intro eq
      exact ne (List.cons.inj (List.cons.inj eq).2).1.symm
    · obtain ⟨d, ds, start, nonzero⟩ := decimal_eq_cons positive
      rw [start]
      intro eq
      exact nonzero (List.cons.inj eq).1
  rw [readInteger.eq_def]
  split
  case h_1 eq => exact absurd eq (unmarked 'x' _ (by decide) (by decide))
  case h_2 eq => exact absurd eq (unmarked 'o' _ (by decide) (by decide))
  case h_3 eq => exact absurd eq (unmarked 'b' _ (by decide) (by decide))
  case h_4 =>
    rw [readSign_decimal]
    dsimp only
    rw [readWhole_decimal, Option.bind_eq_bind, Option.bind_some]
    dsimp only
    rw [ofDigits_decimal, if_neg (by decide), small]
    rfl

/-- **Reading a whole number undoes writing it**, if it fits into 64 bits. -/
theorem readNumber_decimal {n : Nat} (small : isInt64 n = true) (rest : List Char) :
    readNumber (decimal n ++ '\n' :: rest) = some (integer n, '\n' :: rest) := by
  rw [readNumber, readDatetime_append fun _ => isDigit_of_mem_decimal, readReal_decimal,
    readInteger_decimal small]
  rfl

end Toml

end TrainingPortal
