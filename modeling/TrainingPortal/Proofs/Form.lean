import TrainingPortal.Proofs.Encoding
import TrainingPortal.Proofs.Pieces

/-!
# Forms are read back

A form is read as the pairs it was made of (`decode_encodeChars`), whatever characters they hold,
and what stands before it behind another `&` is read for itself (`decode_append`). The separators
are those of the form alone: no character of a name or value is written as one of them.
-/

namespace TrainingPortal

open Text

theorem Text.Utf8.decodeLossy_encode (cs : List Char) : decodeLossy (encode cs) = cs := by
  rw [decodeLossy, chunks_encode, List.map_map]
  exact List.map_id cs

namespace Encoding

theorem Percent.forall_mem_encodeByte {P : Char → Prop} (escape : P '%')
    (digit : ∀ n < 16, P (upperDigit n)) (b : UInt8) : ∀ c ∈ encodeByte b, P c := by
  have small : b.toNat < 256 := b.toNat_lt
  simp only [encodeByte, List.forall_mem_cons, List.not_mem_nil, false_imp_iff, implies_true,
    and_true]
  exact ⟨escape, digit _ (by omega), digit _ (by omega)⟩

namespace Form

/-- Whether a form writes a character as it is, the blank aside. -/
def isKept (c : Char) : Bool := c == ' ' || isPlain c

/-- What is written for a character is free of anything that is neither plain nor a mark of a
form. -/
theorem forall_mem_encodeText {P : Char → Prop} (plus : P '+') (plain : ∀ c, isPlain c = true → P c)
    (escape : P '%') (s : String) : ∀ c ∈ encodeText s, P c := by
  intro d mem
  obtain ⟨c, -, mem⟩ := List.mem_flatMap.1 mem
  split_ifs at mem with blank kept
  · rwa [List.mem_singleton.1 mem]
  · rw [List.mem_singleton.1 mem]
    exact plain c kept
  · obtain ⟨b, -, mem⟩ := List.mem_flatMap.1 mem
    have digit : ∀ n < 16, isPlain (upperDigit n) = true := by decide
    exact Percent.forall_mem_encodeByte escape (fun n small => plain _ (digit n small)) b d mem

theorem not_mem_encodeText {c : Char} (plus : c ≠ '+') (plain : isPlain c = false)
    (escape : c ≠ '%') (s : String) : c ∉ encodeText s := by
  intro mem
  refine forall_mem_encodeText (P := fun d => d ≠ c) plus.symm ?_ escape.symm s c mem rfl
  rintro d kept rfl
  exact absurd kept (plain ▸ Bool.false_ne_true)

theorem decodeText_encodeText (s : String) : decodeText (encodeText s) = s := by
  have blanks : (encodeText s).map (fun c => if c = '+' then ' ' else c) =
      Percent.encodeWith isKept s.toList := by
    rw [encodeText, Percent.encodeWith, List.map_flatMap]
    refine congrArg (List.flatMap · s.toList) (funext fun c => ?_)
    by_cases blank : c = ' '
    · subst blank
      rfl
    · have kept : isKept c = isPlain c := by simp [isKept, blank]
      rw [if_neg blank, kept]
      split_ifs with plain
      · rw [List.map_singleton, if_neg]
        rintro rfl
        exact absurd plain (by decide)
      · refine (List.map_congr_left fun d mem => if_neg ?_).trans (List.map_id' _)
        obtain ⟨b, -, mem⟩ := List.mem_flatMap.1 mem
        exact Percent.forall_mem_encodeByte (P := (· ≠ '+')) (by decide) (by decide) b d mem
  rw [decodeText, blanks, Percent.decode_encodeWith (by decide), Utf8.decodeLossy_encode,
    String.ofList_toList]

theorem decodePair_encodePair (pair : String × String) : decodePair (encodePair pair) = pair := by
  rw [decodePair, encodePair,
    cutAt_append (not_mem_encodeText (by decide) (by decide) (by decide) _)]
  simp [decodeText_encodeText]

theorem decode_append (before after : List Char) :
    decode (before ++ '&' :: after) = decode before ++ decode after := by
  rw [decode, decode, decode, splitAt_append, List.filter_append, List.map_append]

theorem decode_encodePair (pair : String × String) : decode (encodePair pair) = [pair] := by
  have ampersand (s : String) : '&' ∉ encodeText s :=
    not_mem_encodeText (by decide) (by decide) (by decide) s
  have whole : '&' ∉ encodePair pair := by
    rw [encodePair, List.mem_append, List.mem_cons]
    simp [ampersand]
  have nonempty : (encodePair pair).isEmpty = false := by simp [encodePair]
  rw [decode, splitAt_of_not_mem whole]
  simp [nonempty, decodePair_encodePair]

/-- **The pairs of a form are read back.** -/
theorem decode_encodeChars (pairs : List (String × String)) :
    decode (encodeChars pairs) = pairs := by
  unfold encodeChars
  induction pairs with
  | nil => rfl
  | cons pair pairs ih =>
    cases pairs with
    | nil => simpa using decode_encodePair pair
    | cons next pairs =>
      rw [List.map_cons, List.map_cons, List.intercalate_cons_cons, List.append_assoc,
        List.singleton_append, decode_append, decode_encodePair, ← List.map_cons, ih,
        List.singleton_append]

end Form

end Encoding

end TrainingPortal
