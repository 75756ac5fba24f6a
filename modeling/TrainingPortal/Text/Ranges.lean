/-!
# Ranges of characters

Classes of characters as tables: closed ranges of code points, in order.
-/

namespace TrainingPortal.Text

/-- Whether a character lies in one of some closed ranges of code points. -/
def inRanges (ranges : Array (Nat × Nat)) (c : Char) : Bool :=
  ranges.any fun (lo, hi) => lo ≤ c.toNat && c.toNat ≤ hi

end TrainingPortal.Text
