/-!
# ASCII classes

Letters and digits of ASCII. The formats of this library mean no others where they speak of
letters and digits.
-/

namespace TrainingPortal.Text

/-- Whether a character is a decimal digit. -/
def isDigit (c : Char) : Bool := '0' ≤ c && c ≤ '9'

/-- Whether a character is an ASCII letter. -/
def isLetter (c : Char) : Bool := ('A' ≤ c && c ≤ 'Z') || ('a' ≤ c && c ≤ 'z')

/-- Whether a character is an ASCII letter or digit. -/
def isWordChar (c : Char) : Bool := isLetter c || isDigit c

/-- A character in lower case, if it is an ASCII letter. -/
def lower (c : Char) : Char := if 'A' ≤ c ∧ c ≤ 'Z' then Char.ofNat (c.toNat + 32) else c

end TrainingPortal.Text
