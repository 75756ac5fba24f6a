import Mathlib.Data.List.Basic
import TrainingPortal.Text.Pieces

/-!
# Texts that are put together and cut

Cutting at a separator undoes putting together with it: `cutAt_append` for the first separator,
`splitAt_append` for all of them. `cutWhere_append_of_pos` and `dropWhile_append_of_ne_nil` say when
a search that ends within a text is the same with something behind it.
-/

namespace TrainingPortal

namespace Text

variable {α : Type} {p : α → Bool}

/-! ## Where an element satisfies a condition -/

/-- A search that ends within the first of two lists does not see the second. -/
theorem dropWhile_append_of_ne_nil {xs : List α} (h : xs.dropWhile p ≠ []) (ys : List α) :
    (xs ++ ys).dropWhile p = xs.dropWhile p ++ ys ∧ (xs ++ ys).takeWhile p = xs.takeWhile p := by
  induction xs with
  | nil => exact absurd rfl h
  | cons x xs ih =>
    rw [List.dropWhile_cons] at h
    rw [List.cons_append, List.dropWhile_cons, List.takeWhile_cons, List.dropWhile_cons,
      List.takeWhile_cons]
    split
    case isTrue passed =>
      rw [if_pos passed] at h
      obtain ⟨dropped, taken⟩ := ih h
      exact ⟨dropped, congrArg (x :: ·) taken⟩
    case isFalse => exact ⟨rfl, rfl⟩

theorem cutWhere_append_of_pos {y : α} (h : p y = true) (xs ys : List α) :
    cutWhere p (xs ++ y :: ys) = ((cutWhere p xs).1, (cutWhere p xs).2 ++ y :: ys) := by
  simp only [cutWhere]
  induction xs with
  | nil => simp [h]
  | cons x xs ih =>
    obtain ⟨taken, dropped⟩ := Prod.mk.inj ih
    by_cases passed : p x <;> simp [passed, taken, dropped]

theorem cutWhere_of_forall {xs : List α} (h : ∀ x ∈ xs, p x = false) :
    cutWhere p xs = (xs, []) := by
  simp only [cutWhere]
  induction xs with
  | nil => rfl
  | cons x xs ih =>
    obtain ⟨taken, dropped⟩ := Prod.mk.inj (ih fun y hy => h y (List.mem_cons_of_mem _ hy))
    simp [h x List.mem_cons_self, taken, dropped]

theorem dropTailWhile_append_of_neg {z : α} (h : p z = false) (xs : List α) :
    dropTailWhile p (xs ++ [z]) = xs ++ [z] := by
  simp [dropTailWhile, h]

theorem dropTailWhile_append_of_forall {ys : List α} (h : ∀ y ∈ ys, p y = true) (xs : List α) :
    dropTailWhile p (xs ++ ys) = dropTailWhile p xs := by
  rw [dropTailWhile, List.reverse_append, List.dropWhile_append_of_pos, dropTailWhile]
  exact fun y hy => h y (List.mem_reverse.1 hy)

/-- What is dropped from the end of a list satisfies the condition. -/
theorem exists_dropTailWhile_append (p : α → Bool) (xs : List α) :
    ∃ tail, xs = dropTailWhile p xs ++ tail ∧ ∀ x ∈ tail, p x = true := by
  refine ⟨(xs.reverse.takeWhile p).reverse, ?_, fun x hx => ?_⟩
  · rw [dropTailWhile, ← List.reverse_append, List.takeWhile_append_dropWhile,
      List.reverse_reverse]
  · exact List.all_eq_true.1 List.all_takeWhile x (List.mem_reverse.1 hx)

theorem dropTailWhile_isPrefix (p : α → Bool) (xs : List α) : dropTailWhile p xs <+: xs := by
  obtain ⟨tail, whole, -⟩ := exists_dropTailWhile_append p xs
  exact ⟨tail, whole.symm⟩

theorem neg_of_dropTailWhile_eq_concat {xs ys : List α} {y : α}
    (h : dropTailWhile p xs = ys ++ [y]) : p y = false := by
  have first := List.head?_dropWhile_not p xs.reverse
  rw [← List.reverse_reverse (xs.reverse.dropWhile p), ← dropTailWhile, h] at first
  simpa using first

/-! ## At a separator -/

theorem cutAt_append {c : Char} {before : List Char} (h : c ∉ before) (after : List Char) :
    cutAt c (before ++ c :: after) = (before, some after) := by
  induction before with
  | nil => rw [List.nil_append, cutAt, if_pos rfl]
  | cons first before ih =>
    simp only [List.mem_cons, not_or] at h
    rw [List.cons_append, cutAt, if_neg (Ne.symm h.1), ih h.2]

theorem cutAt_of_not_mem {c : Char} {cs : List Char} (h : c ∉ cs) :
    cutAt c cs = (cs, none) := by
  induction cs with
  | nil => rfl
  | cons first cs ih =>
    simp only [List.mem_cons, not_or] at h
    rw [cutAt, if_neg (Ne.symm h.1), ih h.2]

/-- The separator does not stand before its first occurrence. -/
theorem not_mem_cutAt (c : Char) (cs : List Char) : c ∉ (cutAt c cs).1 := by
  induction cs with
  | nil => simp [cutAt]
  | cons first cs ih =>
    rw [cutAt]
    split
    case isTrue => simp
    case isFalse ne => simp [ih, Ne.symm ne]

/-- What stands on the two sides of a separator is found there unless the separator occurs
earlier. -/
theorem cutAt_append_eq_iff {c : Char} {before after : List Char} :
    cutAt c (before ++ c :: after) = (before, some after) ↔ c ∉ before :=
  ⟨fun cut mem => not_mem_cutAt c (before ++ c :: after) (cut ▸ mem), fun h => cutAt_append h after⟩

theorem splitAt_ne_nil (separator : Char) (cs : List Char) : splitAt separator cs ≠ [] := by
  cases cs with
  | nil => simp [splitAt]
  | cons c cs =>
    rw [splitAt]
    split
    · simp
    · cases splitAt separator cs <;> simp

/-- The pieces on either side of a separator stand side by side. -/
theorem splitAt_append (separator : Char) (xs ys : List Char) :
    splitAt separator (xs ++ separator :: ys) = splitAt separator xs ++ splitAt separator ys := by
  induction xs with
  | nil => simp [splitAt]
  | cons x xs ih =>
    rw [List.cons_append, splitAt, splitAt, ih]
    split
    · rfl
    · cases h : splitAt separator xs with
      | nil => exact absurd h (splitAt_ne_nil separator xs)
      | cons piece pieces => rfl

/-- A text without separators is a single piece. -/
theorem splitAt_of_not_mem {separator : Char} {cs : List Char} (h : separator ∉ cs) :
    splitAt separator cs = [cs] := by
  induction cs with
  | nil => rfl
  | cons c cs ih =>
    obtain ⟨ne, rest⟩ := not_or.1 (List.mem_cons.not.1 h)
    rw [splitAt, if_neg (Ne.symm ne), ih rest]

theorem not_mem_of_mem_splitAt {separator : Char} {cs piece : List Char}
    (h : piece ∈ splitAt separator cs) : separator ∉ piece := by
  induction cs generalizing piece with
  | nil => simp [List.mem_singleton.1 h]
  | cons c cs ih =>
    rw [splitAt] at h
    split at h
    case isTrue =>
      rcases List.mem_cons.1 h with rfl | h
      · exact List.not_mem_nil
      · exact ih h
    case isFalse ne =>
      cases split : splitAt separator cs with
      | nil => exact absurd split (splitAt_ne_nil separator cs)
      | cons first rest =>
        rw [split] at h ih
        rcases List.mem_cons.1 h with rfl | h
        · exact List.not_mem_cons_of_ne_of_not_mem (Ne.symm ne) (ih List.mem_cons_self)
        · exact ih (List.mem_cons_of_mem _ h)

/-- Pieces between separators are what is found between them. -/
theorem splitAt_flatMap {separator : Char} {pieces : List (List Char)}
    (h : ∀ piece ∈ pieces, separator ∉ piece) {cs : List Char}
    (eq : separator :: cs = pieces.flatMap (separator :: ·) ++ [separator]) :
    splitAt separator cs = pieces ++ [[]] := by
  induction pieces generalizing cs with
  | nil =>
    obtain rfl : cs = [] := by simpa using eq
    rfl
  | cons piece pieces ih =>
    obtain ⟨alone, others⟩ := List.forall_mem_cons.1 h
    obtain rfl : cs = piece ++ (pieces.flatMap (separator :: ·) ++ [separator]) := by
      simpa using eq
    cases next : pieces.flatMap (separator :: ·) ++ [separator] with
    | nil => simp at next
    | cons c rest =>
      obtain rfl : c = separator := by
        cases pieces <;> simp at next <;> exact next.1.symm
      rw [splitAt_append, splitAt_of_not_mem alone, ih others next.symm]
      rfl

end Text

end TrainingPortal
