import Mathlib.Data.UInt
import Mathlib.Tactic.SplitIfs
import TrainingPortal.Encoding.Form

/-!
# What is encoded can be read back

* UTF-8: the chunks of what is encoded are its characters, whatever follows
  (`chunks_encode_append`), so a text is known by its bytes.
* Percent encoding: the bytes that a text stands for are those that it was made of, whichever
  characters are kept, as long as the percent sign is not (`decode_encodeWith_append`).
-/

namespace TrainingPortal

open Text

/-! ## UTF-8 -/

namespace Text.Utf8

theorem toNat_byte {n : Nat} (h : n < 256) : (UInt8.ofNat n).toNat = n := by
  rw [UInt8.toNat_ofNat']
  omega

theorem isTail_byte (n : Nat) : isTail (UInt8.ofNat (0x80 + n % 64)) = true := by
  simp only [isTail, toNat_byte (show 0x80 + n % 64 < 256 by omega), Bool.and_eq_true,
    decide_eq_true_eq]
  omega

/-- The first byte of a character says how many bytes follow it. -/
theorem head_encodeChar {c : Char} {b : UInt8} {tail : List UInt8} (h : encodeChar c = b :: tail)
    (rest : List UInt8) : head b (tail ++ rest) = (some c, tail.length) := by
  have same : Char.ofNat c.toNat = c := Char.ofNat_toNat c
  have range : c.toNat < 0xD800 ∨ 0xDFFF < c.toNat ∧ c.toNat < 0x110000 := c.valid
  unfold encodeChar at h
  generalize c.toNat = n at *
  simp only at h
  split_ifs at h with one two three
  · obtain ⟨rfl, rfl⟩ := List.cons.inj h
    have first := toNat_byte (show n < 256 by omega)
    simp only [head, first, if_pos one, same, List.length_nil]
  · obtain ⟨rfl, rfl⟩ := List.cons.inj h
    have first := toNat_byte (show 0xC0 + n / 64 < 256 by omega)
    have second := toNat_byte (show 0x80 + n % 64 < 256 by omega)
    have value : (0xC0 + n / 64 - 0xC0) * 64 + (0x80 + n % 64 - 0x80) = n := by omega
    simp only [head, first, List.cons_append]
    rw [if_neg (by omega), if_pos (by omega), if_pos (isTail_byte n), second, value, same]
    rfl
  · obtain ⟨rfl, rfl⟩ := List.cons.inj h
    have first := toNat_byte (show 0xE0 + n / 4096 < 256 by omega)
    have second := toNat_byte (show 0x80 + n / 64 % 64 < 256 by omega)
    have third := toNat_byte (show 0x80 + n % 64 < 256 by omega)
    have value : (0xE0 + n / 4096 - 0xE0) * 4096 + (0x80 + n / 64 % 64 - 0x80) * 64 +
        (0x80 + n % 64 - 0x80) = n := by omega
    have follows :
        isSecondOfThree (0xE0 + n / 4096) (UInt8.ofNat (0x80 + n / 64 % 64)) = true := by
      simp only [isSecondOfThree, second, Bool.and_eq_true, decide_eq_true_eq]
      split_ifs <;> omega
    simp only [head, first, List.cons_append]
    rw [if_neg (by omega), if_neg (by omega), if_pos (by omega), if_pos follows,
      if_pos (isTail_byte n), second, third, value, same]
    rfl
  · obtain ⟨rfl, rfl⟩ := List.cons.inj h
    have first := toNat_byte (show 0xF0 + n / 262144 < 256 by omega)
    have second := toNat_byte (show 0x80 + n / 4096 % 64 < 256 by omega)
    have third := toNat_byte (show 0x80 + n / 64 % 64 < 256 by omega)
    have fourth := toNat_byte (show 0x80 + n % 64 < 256 by omega)
    have value : (0xF0 + n / 262144 - 0xF0) * 262144 + (0x80 + n / 4096 % 64 - 0x80) * 4096 +
        (0x80 + n / 64 % 64 - 0x80) * 64 + (0x80 + n % 64 - 0x80) = n := by omega
    have follows :
        isSecondOfFour (0xF0 + n / 262144) (UInt8.ofNat (0x80 + n / 4096 % 64)) = true := by
      simp only [isSecondOfFour, second, Bool.and_eq_true, decide_eq_true_eq]
      split_ifs <;> omega
    simp only [head, first, List.cons_append]
    rw [if_neg (by omega), if_neg (by omega), if_neg (by omega), if_pos (by omega),
      if_pos follows, if_pos (isTail_byte (n / 64)), if_pos (isTail_byte n), second, third, fourth,
      value, same]
    rfl

theorem encodeChar_ne_nil (c : Char) : encodeChar c ≠ [] := by
  unfold encodeChar
  simp only
  split_ifs <;> simp

theorem chunksFrom_append (bs rest : List UInt8) :
    chunksFrom bs.length (bs ++ rest) = chunks rest := by
  induction bs with
  | nil => rfl
  | cons b bs ih => rw [List.length_cons, List.cons_append, chunksFrom, ih]

theorem chunks_encodeChar_append (c : Char) (rest : List UInt8) :
    chunks (encodeChar c ++ rest) = some c :: chunks rest := by
  cases h : encodeChar c with
  | nil => exact absurd h (encodeChar_ne_nil c)
  | cons b tail =>
    rw [List.cons_append, chunks, chunksFrom]
    simp only [head_encodeChar h, chunksFrom_append]

theorem chunks_encode_append (cs : List Char) (rest : List UInt8) :
    chunks (encode cs ++ rest) = cs.map some ++ chunks rest := by
  induction cs with
  | nil => rfl
  | cons c cs ih =>
    rw [encode, List.flatMap_cons, List.append_assoc, chunks_encodeChar_append]
    exact congrArg (some c :: ·) ih

theorem chunks_encode (cs : List Char) : chunks (encode cs) = cs.map some := by
  simpa [chunks, chunksFrom] using chunks_encode_append cs []

/-- The characters of encoded characters are these. -/
@[simp] theorem decode?_encode (cs : List Char) : decode? (encode cs) = some cs := by
  rw [decode?, chunks_encode]
  induction cs with
  | nil => rfl
  | cons c cs ih => simp [List.mapM_cons, ih]

theorem encode_injective {cs ds : List Char} (h : encode cs = encode ds) : cs = ds := by
  have same := congrArg decode? h
  rwa [decode?_encode, decode?_encode, Option.some_inj] at same

end Text.Utf8

/-! ## Percent encoding -/

theorem Text.digitValue?_upperDigit {n : Nat} (h : n < 16) :
    digitValue? (upperDigit n) = some n := by
  revert n
  decide

namespace Encoding.Percent

theorem decode_cons_of_ne {c : Char} (h : c ≠ '%') (rest : List Char) :
    decode (c :: rest) = Utf8.encodeChar c ++ decode rest := by
  rw [decode]
  rintro _ _ _ rfl
  exact absurd rfl h

theorem decode_encodeByte_append (b : UInt8) (rest : List Char) :
    decode (encodeByte b ++ rest) = b :: decode rest := by
  have small : b.toNat < 256 := b.toNat_lt
  have high := digitValue?_upperDigit (show b.toNat / 16 < 16 by omega)
  have low := digitValue?_upperDigit (show b.toNat % 16 < 16 by omega)
  have value : 16 * (b.toNat / 16) + b.toNat % 16 = b.toNat := by omega
  simp only [encodeByte, List.cons_append, List.nil_append, decode, high, low, value,
    UInt8.ofNat_toNat]

theorem decode_encodeChar_append (c : Char) (rest : List Char) :
    decode (encodeChar c ++ rest) = Utf8.encodeChar c ++ decode rest := by
  unfold encodeChar
  induction Utf8.encodeChar c with
  | nil => rfl
  | cons b bs ih =>
    rw [List.flatMap_cons, List.append_assoc, decode_encodeByte_append, ih, List.cons_append]

/-- Escapes stand for the bytes that were escaped, and so does what was kept. -/
theorem decode_encodeWith_append {keep : Char → Bool} (h : keep '%' = false) (cs rest : List Char) :
    decode (encodeWith keep cs ++ rest) = Utf8.encode cs ++ decode rest := by
  unfold encodeWith Utf8.encode
  induction cs with
  | nil => rfl
  | cons c cs ih =>
    rw [List.flatMap_cons, List.flatMap_cons, List.append_assoc, List.append_assoc, ← ih]
    split
    case isTrue kept =>
      refine decode_cons_of_ne ?_ _
      rintro rfl
      exact absurd kept (h ▸ Bool.false_ne_true)
    case isFalse => exact decode_encodeChar_append c _

theorem decode_encodeWith {keep : Char → Bool} (h : keep '%' = false) (cs : List Char) :
    decode (encodeWith keep cs) = Utf8.encode cs := by
  simpa [decode] using decode_encodeWith_append h cs []

/-- What is kept as it is stays as it is. -/
theorem encodeWith_of_forall {keep : Char → Bool} {cs : List Char} (h : ∀ c ∈ cs, keep c = true) :
    encodeWith keep cs = cs := by
  unfold encodeWith
  induction cs with
  | nil => rfl
  | cons c cs ih =>
    rw [List.flatMap_cons, if_pos (h c List.mem_cons_self),
      ih fun d hd => h d (List.mem_cons_of_mem _ hd)]
    rfl

/-- The bytes of an encoded name are those of the name. -/
theorem decode_encodeName (s : String) : decode (encodeName s).toList = Utf8.bytes s := by
  rw [encodeName, String.toList_ofList, decode_encodeWith (by decide), Utf8.bytes]

end Encoding.Percent

end TrainingPortal
