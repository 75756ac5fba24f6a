import TrainingPortal.Text.Pieces

/-!
# White space

The characters with the Unicode property White_Space, and trimming by them. `trim` takes the
longest runs of such characters off both ends of a text and leaves the rest alone.
-/

namespace TrainingPortal.Text

/-- The characters with the Unicode property White_Space. -/
def isBlank (c : Char) : Bool :=
  let n := c.toNat
  (0x9 ≤ n && n ≤ 0xD) || n == 0x20 || n == 0x85 || n == 0xA0 || n == 0x1680 ||
    (0x2000 ≤ n && n ≤ 0x200A) || n == 0x2028 || n == 0x2029 || n == 0x202F || n == 0x205F ||
    n == 0x3000

/-- The characters without leading white space. -/
def trimStart (cs : List Char) : List Char := cs.dropWhile isBlank

/-- The characters without trailing white space. -/
def trimEnd (cs : List Char) : List Char := dropTailWhile isBlank cs

/-- The text without white space at either end. -/
def trim (s : String) : String := String.ofList (trimEnd (trimStart s.toList))

end TrainingPortal.Text
