import TrainingPortal.CommandLine.Grammar

/-!
# Synopses

A line for every way to complete a command: the names of the commands on the way and the arguments
of the last one, optional ones in brackets.
-/

namespace TrainingPortal.CommandLine

/-- An argument as it is given. -/
def Argument.usage (a : Argument) : String :=
  let shown := match a.form with
    | .flag => "--" ++ a.name
    | .option _ => "--" ++ a.name ++ " <" ++ a.name.toUpper ++ ">"
    | .positional => "<" ++ a.name.toUpper ++ ">"
  (if a.required then shown else "[" ++ shown ++ "]") ++ if a.repeatable then "..." else ""

mutual

/-- The lines of a command, after the names of those above it. -/
def Command.synopsis (above : String) : Command → List String
  | .mk name _ arguments _ _ children =>
    if children.isEmpty then
      [" ".intercalate ((above ++ name) :: arguments.map Argument.usage)]
    else synopses (above ++ name ++ " ") children

/-- The lines of commands. -/
def synopses (above : String) : List Command → List String
  | [] => []
  | c :: cs => c.synopsis above ++ synopses above cs

end

end TrainingPortal.CommandLine
