import Mathlib.Data.Nat.Digits.Defs
import TrainingPortal.Text.Digits

/-!
# Digits

What a number is written with: digits, at least one, without a leading zero, which are read as that
number (`ofDigits_decimal`).
-/

namespace TrainingPortal.Text

theorem isDigit_of_mem_decimal {n : Nat} {c : Char} (h : c ∈ decimal n) : isDigit c = true := by
  have := Nat.isDigit_of_mem_toDigits (by decide) (by decide) h
  simpa [isDigit, Char.isDigit, Char.le_def] using this

theorem decimal_ne_nil (n : Nat) : decimal n ≠ [] := Nat.toDigits_ne_nil

/-- A number greater than zero has no leading zero. -/
theorem decimal_eq_cons {n : Nat} (h : 0 < n) : ∃ d ds, decimal n = d :: ds ∧ d ≠ '0' := by
  induction n using Nat.strong_induction_on with
  | _ n ih =>
    unfold decimal
    rw [Nat.toDigits_eq_if (by decide)]
    by_cases small : n < 10
    · rw [if_pos small]
      have nonzero : ∀ n < 10, 0 < n → Nat.digitChar n ≠ '0' := by decide
      exact ⟨_, _, rfl, nonzero n small h⟩
    · obtain ⟨d, ds, eq, ne⟩ := ih (n / 10) (by omega) (by omega)
      rw [if_neg small, show Nat.toDigits 10 (n / 10) = d :: ds from eq]
      exact ⟨d, _, rfl, ne⟩

theorem digitValue?_of_isDigit {c : Char} (h : isDigit c = true) :
    digitValue? c = some (c.toNat - '0'.toNat) := by
  simp only [isDigit, Bool.and_eq_true, decide_eq_true_eq, Char.le_def] at h
  have range : 0x30 ≤ c.toNat ∧ c.toNat ≤ 0x39 := h
  rw [digitValue?, if_pos range]
  rfl

/-- Reading decimal digits undoes writing them. -/
theorem ofDigits_decimal (n : Nat) : ofDigits 10 (decimal n) = n := by
  have same (ds : List Char) (h : ∀ c ∈ ds, isDigit c = true) (m : Nat) :
      ds.foldl (fun n c => n * 10 + (digitValue? c).getD 0) m = Nat.ofDigitChars 10 ds m := by
    rw [Nat.ofDigitChars_eq_foldl]
    induction ds generalizing m with
    | nil => rfl
    | cons d ds ih =>
      obtain ⟨hd, h⟩ := List.forall_mem_cons.1 h
      rw [List.foldl_cons, List.foldl_cons, digitValue?_of_isDigit hd, Option.getD_some, ih h,
        Nat.mul_comm]
  rw [ofDigits, same _ fun _ => isDigit_of_mem_decimal]
  exact Nat.ofDigitChars_ten_toDigits

theorem isHexDigit_of_mem_hexadecimal {n : Nat} {c : Char} (h : c ∈ hexadecimal n) :
    isHexDigit c = true := by
  have digit : ∀ k < 16, isHexDigit k.digitChar = true := by decide
  induction n using Nat.strongRecOn with
  | ind n ih =>
    rw [hexadecimal, Nat.toDigits_eq_if (by decide)] at h
    split at h
    case isTrue small =>
      obtain rfl := List.mem_singleton.1 h
      exact digit n small
    case isFalse large =>
      rcases List.mem_append.1 h with h | h
      · exact ih (n / 16) (by omega) h
      · obtain rfl := List.mem_singleton.1 h
        exact digit _ (Nat.mod_lt _ (by decide))

end TrainingPortal.Text
