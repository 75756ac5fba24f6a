/-!
# Pieces of a text

Cutting a list of characters at separators and at its ends.
-/

namespace TrainingPortal.Text

/-- The pieces between the occurrences of a separator; there is always at least one. -/
def splitAt (separator : Char) : List Char → List (List Char)
  | [] => [[]]
  | c :: cs =>
    if c = separator then [] :: splitAt separator cs
    else match splitAt separator cs with
      | [] => [[c]]
      | piece :: pieces => (c :: piece) :: pieces

/-- What stands before the first occurrence of a separator and, if there is one, what stands after
it. -/
def cutAt (separator : Char) : List Char → List Char × Option (List Char)
  | [] => ([], none)
  | c :: cs =>
    if c = separator then ([], some cs)
    else (c :: (cutAt separator cs).1, (cutAt separator cs).2)

/-- What stands before the first element that satisfies `p`, and what stands from it on. -/
def cutWhere {α : Type} (p : α → Bool) (xs : List α) : List α × List α :=
  (xs.takeWhile (!p ·), xs.dropWhile (!p ·))

/-- The list without its longest tail of elements that satisfy `p`. -/
def dropTailWhile {α : Type} (p : α → Bool) (xs : List α) : List α :=
  (xs.reverse.dropWhile p).reverse

/-- The rest of the characters after a word that they start with. -/
def afterWord? (word : String) (cs : List Char) : Option (List Char) :=
  if word.toList.isPrefixOf cs then some (cs.drop word.length) else none

end TrainingPortal.Text
