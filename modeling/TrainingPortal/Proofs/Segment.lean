import TrainingPortal.Proofs.Address

/-!
# Names as segments of a path

A percent-encoded name stands in a path as it is: it holds no separator (`isPathChar_encodeName`)
and its bytes are those of the name (`decode_encodeName`). What the encoding does not do is to keep
a name from being a dot segment, because a full stop is never escaped: `.` and `..` are, and no
other name is (`isDot_encodeName`, `isDoubleDot_encodeName`).
-/

namespace TrainingPortal

open Text Encoding Url

/-- What holds of all characters of ASCII holds of each. -/
theorem Text.forall_ascii {P : Char → Prop} (h : ∀ n < 128, P (Char.ofNat n)) {c : Char}
    (hc : c.toNat < 128) : P c :=
  Char.ofNat_toNat c ▸ h c.toNat hc

namespace Encoding.Percent

theorem toNat_lt_of_isUnreserved {c : Char} (h : isUnreserved c = true) : c.toNat < 128 := by
  simp only [isUnreserved, isWordChar, isLetter, isDigit, Bool.or_eq_true, Bool.and_eq_true,
    decide_eq_true_eq, beq_iff_eq, Char.le_def, UInt32.le_iff_toNat_le] at h
  change c.val.toNat < 128
  rcases h with (((((⟨-, h⟩ | ⟨-, h⟩) | ⟨-, h⟩) | rfl) | rfl) | rfl) | rfl
  iterate 3 exact Nat.lt_of_le_of_lt h (by decide)
  all_goals decide

/-- What holds of the characters kept, of the percent sign and of the digits holds of every
character of an encoded text. -/
theorem forall_mem_encodeWith {P : Char → Prop} {keep : Char → Bool}
    (kept : ∀ c, keep c = true → P c) (percent : P '%') (digits : ∀ n < 16, P (upperDigit n))
    (cs : List Char) : ∀ c ∈ encodeWith keep cs, P c := by
  intro c hc
  obtain ⟨d, -, hc⟩ := List.mem_flatMap.1 hc
  split at hc
  case isTrue keeps => exact List.mem_singleton.1 hc ▸ kept d keeps
  case isFalse =>
    obtain ⟨b, -, hc⟩ := List.mem_flatMap.1 hc
    have small : b.toNat < 256 := b.toNat_lt
    simp only [encodeByte, List.mem_cons, List.not_mem_nil, or_false] at hc
    rcases hc with rfl | rfl | rfl
    · exact percent
    · exact digits _ (by omega)
    · exact digits _ (by omega)

theorem isPathChar_of_isUnreserved {c : Char} (h : isUnreserved c = true) :
    isPathChar c = true := by
  have all : ∀ n < 128, isUnreserved (Char.ofNat n) = true → isPathChar (Char.ofNat n) = true := by
    decide
  exact forall_ascii (P := fun c => isUnreserved c = true → isPathChar c = true) all
    (toNat_lt_of_isUnreserved h) h

/-- An encoded name holds nothing that means anything in a path. -/
theorem isPathChar_encodeName (s : String) : ∀ c ∈ (encodeName s).toList, isPathChar c = true := by
  rw [encodeName, String.toList_ofList]
  exact forall_mem_encodeWith (fun _ => isPathChar_of_isUnreserved) (by decide) (by decide) _

/-- An encoded name holds no slash. -/
theorem slash_not_mem_encodeName (s : String) : '/' ∉ (encodeName s).toList := by
  have unreserved : ∀ n < 128, isUnreserved (Char.ofNat n) = true → Char.ofNat n ≠ '/' := by decide
  have all : ∀ c ∈ (encodeName s).toList, c ≠ '/' := by
    rw [encodeName, String.toList_ofList]
    exact forall_mem_encodeWith (fun c h => forall_ascii
      (P := fun c => isUnreserved c = true → c ≠ '/') unreserved (toNat_lt_of_isUnreserved h) h)
      (by decide) (by decide) _
  exact fun mem => all _ mem rfl

/-! ## Dot segments -/

/-- A character that is escaped is no full stop, and neither is its first byte. -/
theorem encodeChar_of_not_isUnreserved {c : Char} (h : ¬ isUnreserved c = true) :
    ∃ b : UInt8, b.toNat ≠ 0x2E ∧ ∃ rest, encodeChar c =
      '%' :: upperDigit (b.toNat / 16) :: upperDigit (b.toNat % 16) :: rest := by
  cases bytes : Utf8.encodeChar c with
  | nil => exact absurd bytes (Utf8.encodeChar_ne_nil c)
  | cons b bs =>
    refine ⟨b, fun stop => h ?_, bs.flatMap encodeByte, by simp [encodeChar, bytes, encodeByte]⟩
    have first := Utf8.head_encodeChar bytes []
    obtain rfl : '.' = c := by simpa [Utf8.head, stop] using congrArg Prod.fst first
    decide

theorem lower_isUnreserved {c : Char} (h : isUnreserved c = true) :
    lower c ≠ '%' ∧ (lower c = '.' → c = '.') := by
  have all : ∀ n < 128, isUnreserved (Char.ofNat n) = true →
      lower (Char.ofNat n) ≠ '%' ∧ (lower (Char.ofNat n) = '.' → Char.ofNat n = '.') := by decide
  exact forall_ascii
    (P := fun c => isUnreserved c = true → lower c ≠ '%' ∧ (lower c = '.' → c = '.'))
    all (toNat_lt_of_isUnreserved h) h

/-- No name is encoded with an escaped full stop at its start. -/
theorem encodeWith_ne_escapedDot (cs rest : List Char) :
    (encodeWith isUnreserved cs).map lower ≠ '%' :: '2' :: 'e' :: rest := by
  intro h
  cases cs with
  | nil => cases h
  | cons c cs =>
    rw [encodeWith, List.flatMap_cons] at h
    split at h
    case isTrue kept => exact (lower_isUnreserved kept).1 (List.cons.inj h).1
    case isFalse escaped =>
      obtain ⟨b, ne, more, eq⟩ := encodeChar_of_not_isUnreserved escaped
      have small : b.toNat < 256 := b.toNat_lt
      have high : ∀ n < 16, lower (upperDigit n) = '2' → n = 2 := by decide
      have low : ∀ n < 16, lower (upperDigit n) = 'e' → n = 14 := by decide
      simp only [eq, List.cons_append, List.map_cons, List.cons.injEq] at h
      have := high _ (by omega) h.2.1
      have := low _ (by omega) h.2.2.1
      omega

/-- A name whose encoding starts with a full stop starts with one. -/
theorem eq_cons_of_encodeWith {cs rest : List Char}
    (h : (encodeWith isUnreserved cs).map lower = '.' :: rest) :
    ∃ ds, cs = '.' :: ds ∧ (encodeWith isUnreserved ds).map lower = rest := by
  cases cs with
  | nil => cases h
  | cons c cs =>
    rw [encodeWith, List.flatMap_cons] at h
    split at h
    case isTrue kept =>
      obtain ⟨first, others⟩ := List.cons.inj h
      exact ⟨cs, by rw [(lower_isUnreserved kept).2 first], others⟩
    case isFalse escaped =>
      obtain ⟨b, -, more, eq⟩ := encodeChar_of_not_isUnreserved escaped
      simp only [eq, List.cons_append, List.map_cons] at h
      exact absurd (List.cons.inj h).1 (by decide)

theorem eq_nil_of_encodeWith {cs : List Char}
    (h : (encodeWith isUnreserved cs).map lower = []) : cs = [] := by
  have bytes := decode_encodeWith (show isUnreserved '%' = false by decide) cs
  rw [List.map_eq_nil_iff.1 h] at bytes
  exact @Utf8.encode_injective cs [] bytes.symm

/-- Only the name `.` is encoded as a segment that stays where it is. -/
theorem isDot_encodeName {s : String} (h : s ≠ ".") : isDot (encodeName s).toList = false := by
  rw [Bool.eq_false_iff]
  intro dot
  rw [encodeName, String.toList_ofList, isDot, Bool.or_eq_true, beq_iff_eq, beq_iff_eq] at dot
  rcases dot with dot | dot
  · obtain ⟨ds, name, rest⟩ := eq_cons_of_encodeWith (congrArg (List.map lower) dot)
    rw [eq_nil_of_encodeWith rest] at name
    exact h (String.toList_inj.1 name)
  · exact encodeWith_ne_escapedDot _ _ dot

/-- Only the name `..` is encoded as a segment that goes up. -/
theorem isDoubleDot_encodeName {s : String} (h : s ≠ "..") :
    isDoubleDot (encodeName s).toList = false := by
  rw [Bool.eq_false_iff]
  intro dots
  simp only [encodeName, String.toList_ofList, isDoubleDot, List.contains_eq_mem, List.mem_cons,
    List.not_mem_nil, or_false, decide_eq_true_eq, ← String.toList_inj] at dots
  rcases dots with dots | dots | dots | dots
  · change _ = ['.', '.'] at dots
    obtain ⟨ds, name, rest⟩ := eq_cons_of_encodeWith dots
    obtain ⟨es, more, ended⟩ := eq_cons_of_encodeWith rest
    rw [more, eq_nil_of_encodeWith ended] at name
    exact h (String.toList_inj.1 name)
  · obtain ⟨ds, -, rest⟩ := eq_cons_of_encodeWith dots
    exact encodeWith_ne_escapedDot _ _ rest
  · exact encodeWith_ne_escapedDot _ _ dots
  · exact encodeWith_ne_escapedDot _ _ dots

/-- A name that is no dot segment is encoded as a plain segment. -/
theorem isPlain_encodeName {s : String} (noDot : s ≠ ".") (noDots : s ≠ "..") :
    IsPlain (encodeName s).toList :=
  ⟨isPathChar_encodeName s, slash_not_mem_encodeName s, isDot_encodeName noDot,
    isDoubleDot_encodeName noDots⟩

end Encoding.Percent

end TrainingPortal
