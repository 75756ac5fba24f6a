import TrainingPortal.Text.Digits
import TrainingPortal.Text.Utf8

/-!
# Percent encoding

A character outside a chosen set is written as `%` and two upper-case hexadecimal digits for each
of its UTF-8 bytes. `encodeName` keeps only the unreserved characters, so that its result is a
single segment of a path; `decode` gives the bytes back.
-/

namespace TrainingPortal.Encoding.Percent

open Text

/-- The escape of one byte. -/
def encodeByte (b : UInt8) : List Char :=
  ['%', upperDigit (b.toNat / 16), upperDigit (b.toNat % 16)]

/-- The escapes of every byte of a character. -/
def encodeChar (c : Char) : List Char := (Utf8.encodeChar c).flatMap encodeByte

/-- The characters, those that `keep` refuses being escaped. -/
def encodeWith (keep : Char → Bool) (cs : List Char) : List Char :=
  cs.flatMap fun c => if keep c then [c] else encodeChar c

/-- The unreserved characters: ASCII letters, digits, `-`, `_`, `.` and `~`. -/
def isUnreserved (c : Char) : Bool :=
  isWordChar c || c == '-' || c == '_' || c == '.' || c == '~'

/-- A text as one segment of a path. -/
def encodeName (s : String) : String := String.ofList (encodeWith isUnreserved s.toList)

/-- The bytes that characters with escapes stand for; a `%` that two hexadecimal digits do not
follow stands for itself. -/
def decode : List Char → List UInt8
  | [] => []
  | '%' :: h :: l :: rest =>
    match digitValue? h, digitValue? l with
    | some x, some y => UInt8.ofNat (16 * x + y) :: decode rest
    | _, _ => Utf8.encodeChar '%' ++ decode (h :: l :: rest)
  | c :: rest => Utf8.encodeChar c ++ decode rest

end TrainingPortal.Encoding.Percent
