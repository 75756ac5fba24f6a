import TrainingPortal.Text.Alphanumeric

/-!
# Values in dotenv lines

A value is plain text with quoted parts. Single quotes keep everything as it is; elsewhere a
backslash escapes a quote, a backslash, a dollar sign, a blank or stands for a line break with `n`,
and `$name` or `$` with a name in braces stands for the value of a name. The character that ends a
name without braces is taken as it is. A blank ends a plain value: only blanks and a comment may
follow.
-/

namespace TrainingPortal.Dotenv

/-- Where the reading of a value stands. -/
inductive ValueMode
  /-- Outside quotes. -/
  | plain
  /-- Between double quotes. -/
  | weak
  /-- Between single quotes. -/
  | strong
  /-- After a backslash, between double quotes or not. -/
  | escaped (inQuotes : Bool)
  /-- In a name after `$`, between double quotes or not. -/
  | bareName (inQuotes : Bool) (name : List Char)
  /-- In a name between braces, between double quotes or not. -/
  | bracedName (inQuotes : Bool) (name : List Char)
  /-- After the blank that ends a value. -/
  | ended
  /-- In the comment after a value. -/
  | comment
  deriving DecidableEq

namespace ValueMode

/-- Outside quotes or between double quotes. -/
def resume (inQuotes : Bool) : ValueMode := if inQuotes then weak else plain

/-- The mode after one more character and the text that it adds; `none` where the character may
not stand. -/
def step (valueOf : List Char → List Char) : ValueMode → Char → Option (ValueMode × List Char)
  | plain, c =>
    if c = '$' then some (bareName false [], [])
    else if c = '\'' then some (strong, [])
    else if c = '"' then some (weak, [])
    else if c = '\\' then some (escaped false, [])
    else if c = ' ' ∨ c = '\t' then some (ended, [])
    else some (plain, [c])
  | weak, c =>
    if c = '$' then some (bareName true [], [])
    else if c = '"' then some (plain, [])
    else if c = '\\' then some (escaped true, [])
    else some (weak, [c])
  | strong, c => if c = '\'' then some (plain, []) else some (strong, [c])
  | escaped inQuotes, c =>
    if c = '\\' ∨ c = '\'' ∨ c = '"' ∨ c = '$' ∨ c = ' ' then some (resume inQuotes, [c])
    else if c = 'n' then some (resume inQuotes, ['\n'])
    else none
  | bareName inQuotes name, c =>
    if Text.isAlphanumeric c then some (bareName inQuotes (name ++ [c]), [])
    else if c = '\x7b' ∧ name = [] then some (bracedName inQuotes [], [])
    else if c = '$' then some (bareName inQuotes [], valueOf name)
    else some (resume inQuotes, valueOf name ++ [c])
  | bracedName inQuotes name, c =>
    if c = '\x7d' then some (resume inQuotes, valueOf name)
    else some (bracedName inQuotes (name ++ [c]), [])
  | ended, c =>
    if c = ' ' ∨ c = '\t' then some (ended, [])
    else if c = '#' then some (comment, [])
    else none
  | comment, _ => some (comment, [])

/-- The text that is still to be added when a value ends; `none` where it may not end. -/
def finish (valueOf : List Char → List Char) : ValueMode → Option (List Char)
  | weak | strong | escaped true | bareName true _ | bracedName _ _ => none
  | bareName false name => some (valueOf name)
  | plain | escaped false | ended | comment => some []

end ValueMode

/-- What is wrong with a value. -/
inductive ValueFault
  /-- The character with this index may not stand there. -/
  | misplaced (index : Nat)
  /-- A quote or a brace is not closed. -/
  | unclosed
  deriving DecidableEq

/-- The value that characters stand for, from the character with this index on. -/
def readValue (valueOf : List Char → List Char) :
    ValueMode → Nat → List Char → Except ValueFault (List Char)
  | mode, _, [] =>
    match mode.finish valueOf with
    | some out => .ok out
    | none => .error .unclosed
  | mode, index, c :: cs =>
    match mode.step valueOf c with
    | some (mode, out) => (readValue valueOf mode (index + 1) cs).map (out ++ ·)
    | none => .error (.misplaced index)

end TrainingPortal.Dotenv
