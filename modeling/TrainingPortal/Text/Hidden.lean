import TrainingPortal.Text.Mark
import TrainingPortal.Text.Unseen

/-!
# Characters without a face of their own

The characters that a quoted text shows by number: those that cannot be seen and those that would
merge with the character before them.
-/

namespace TrainingPortal.Text

/-- Whether quoted text shows a character by its number. -/
def isHidden (c : Char) : Bool := isUnseen c || isMerging c

end TrainingPortal.Text
