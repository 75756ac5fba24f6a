import Mathlib.Data.Option.Basic
import TrainingPortal.Encoding.Base64

/-!
# Base64 is read back

The text of a byte string stands for the bytes it was made of (`decode?_encode`), whether the last
three bytes are complete or one or two of them are missing: there is a lemma for each of these
groups of digits.
-/

namespace TrainingPortal.Encoding.Base64

/-! ## Digits -/

theorem value?_digit {n : Nat} (h : n < 64) : value? (digit n) = some n := by
  revert n
  decide

/-- No digit is taken for padding. -/
theorem digit_ne_pad {n : Nat} (h : n < 64) : digit n ≠ '=' := by
  revert n
  decide

/-! ## Groups of digits -/

section

variable {x y z w : Nat} (hx : x < 64) (hy : y < 64)
include hx hy

theorem decode?_one (tail : y % 16 = 0) :
    decode? [digit x, digit y, '=', '='] = some [UInt8.ofNat (x * 4 + y / 16)] := by
  have fits : (guard (y % 16 = 0) : Option Unit) = some () := if_pos tail
  rw [decode?, value?_digit hx, value?_digit hy]
  exact congrArg (Option.bind · fun _ => some _) fits

theorem decode?_two (hz : z < 64) (tail : z % 4 = 0) :
    decode? [digit x, digit y, digit z, '='] =
      some [UInt8.ofNat (x * 4 + y / 16), UInt8.ofNat (y % 16 * 16 + z / 4)] := by
  have fits : (guard (z % 4 = 0) : Option Unit) = some () := if_pos tail
  rw [decode?, value?_digit hx, value?_digit hy, value?_digit hz]
  · exact congrArg (Option.bind · fun _ => some _) fits
  · exact digit_ne_pad hz

theorem decode?_three (hz : z < 64) (hw : w < 64) (rest : List Char) :
    decode? (digit x :: digit y :: digit z :: digit w :: rest) =
      (decode? rest).map fun bs => UInt8.ofNat (x * 4 + y / 16) ::
        UInt8.ofNat (y % 16 * 16 + z / 4) :: UInt8.ofNat (z % 4 * 64 + w) :: bs := by
  rw [decode?, value?_digit hx, value?_digit hy, value?_digit hz, value?_digit hw]
  · cases decode? rest <;> rfl
  · exact fun pad _ _ => digit_ne_pad hz pad
  · exact fun pad _ => digit_ne_pad hw pad

end

/-! ## Bytes -/

theorem ofNat_eq (b : UInt8) {n : Nat} (h : n = b.toNat) : UInt8.ofNat n = b := by
  rw [h, UInt8.ofNat_toNat]

/-- **A byte string is read back from its text.** -/
theorem decode?_encode (bs : List UInt8) : decode? (encode bs) = some bs := by
  fun_induction encode bs with
  | case1 => rfl
  | case2 a =>
    have ha : a.toNat < 256 := a.toNat_lt
    rw [decode?_one (by omega) (by omega) (by omega), ofNat_eq a (by omega)]
  | case3 a b =>
    have ha : a.toNat < 256 := a.toNat_lt
    have hb : b.toNat < 256 := b.toNat_lt
    rw [decode?_two (by omega) (by omega) (by omega) (by omega), ofNat_eq a (by omega),
      ofNat_eq b (by omega)]
  | case4 a b c rest ih =>
    have ha : a.toNat < 256 := a.toNat_lt
    have hb : b.toNat < 256 := b.toNat_lt
    have hc : c.toNat < 256 := c.toNat_lt
    rw [decode?_three (by omega) (by omega) (by omega) (by omega), ih, ofNat_eq a (by omega),
      ofNat_eq b (by omega), ofNat_eq c (by omega)]
    rfl

end TrainingPortal.Encoding.Base64
