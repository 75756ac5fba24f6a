import TrainingPortal.Text.Pieces

/-!
# Environment variables

The variables a program was started with. A variable is kept as one text `NAME=VALUE`, and the
value of a name is what follows the name and an equals sign in the first text that starts with
them. A name that holds an equals sign therefore finds the end of another variable's value.
-/

namespace TrainingPortal

/-- Environment variables and their values. -/
abbrev Variables := List (String × String)

/-- The text of a variable with its value. -/
def Variables.entry (name value : String) : List Char := name.toList ++ '=' :: value.toList

/-- The value of a variable; the empty name has none. -/
def Variables.get? (vars : Variables) (name : String) : Option String :=
  if name.isEmpty then none
  else vars.findSome? fun (bound, value) =>
    (Text.afterWord? (name ++ "=") (entry bound value)).map String.ofList

end TrainingPortal
