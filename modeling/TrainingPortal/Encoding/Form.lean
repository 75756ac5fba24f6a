import TrainingPortal.Encoding.Percent
import TrainingPortal.Text.Pieces

/-!
# Form encoding

Pairs of texts as `application/x-www-form-urlencoded`: names and values joined by `=`, pairs by
`&`, a space written as `+`. `decode` reads the pairs back.
-/

namespace TrainingPortal.Encoding.Form

open Text

/-- The characters a form writes as they are: ASCII letters, digits, `*`, `-`, `.` and `_`. -/
def isPlain (c : Char) : Bool :=
  isWordChar c || c == '*' || c == '-' || c == '.' || c == '_'

/-- One name or value. -/
def encodeText (s : String) : List Char :=
  s.toList.flatMap fun c =>
    if c = ' ' then ['+'] else if isPlain c then [c] else Percent.encodeChar c

/-- One pair. -/
def encodePair (pair : String × String) : List Char :=
  encodeText pair.1 ++ '=' :: encodeText pair.2

/-- The pairs, joined by `&`. -/
def encodeChars (pairs : List (String × String)) : List Char :=
  ['&'].intercalate (pairs.map encodePair)

/-- The pairs as a text. -/
def encode (pairs : List (String × String)) : String := String.ofList (encodeChars pairs)

/-- One name or value read back, broken UTF-8 leniently. -/
def decodeText (cs : List Char) : String :=
  String.ofList (Utf8.decodeLossy (Percent.decode (cs.map fun c => if c = '+' then ' ' else c)))

/-- One pair read back; without `=` it is a name with an empty value. -/
def decodePair (cs : List Char) : String × String :=
  let (name, value) := cutAt '=' cs
  (decodeText name, decodeText (value.getD []))

/-- The pairs of a form, empty pieces left out. -/
def decode (cs : List Char) : List (String × String) :=
  ((splitAt '&' cs).filter (!·.isEmpty)).map decodePair

end TrainingPortal.Encoding.Form
