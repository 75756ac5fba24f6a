import TrainingPortal.Log
import TrainingPortal.Text.Blank

/-!
# Log filters

Which log entries are kept, and how they are written. A filter is a list of directives separated by
commas: a level, the name of a part of the program, or both joined by `=`. For an entry the
directive with the longest name that its part starts with decides.
-/

namespace TrainingPortal

open Text

/-- A directive: the part of the program it is about, the empty name standing for all of it, and
the rank of the least severe level that is kept. -/
structure LogDirective where
  target : String
  rank : Nat
  deriving DecidableEq

/-- A list of directives. -/
abbrev LogFilter := List LogDirective

namespace LogFilter

/-- The rank of the level with a name, in letters of either case; `off` keeps nothing. -/
def rank? (name : String) : Option Nat :=
  match name.toLower with
  | "off" => some 0
  | "error" => some 1
  | "warn" => some 2
  | "info" => some 3
  | "debug" => some 4
  | "trace" => some 5
  | _ => none

/-- The directive in a piece of a filter. -/
def directive? (piece : String) : Option LogDirective :=
  match piece.splitOn "=" with
  | [part] =>
    match rank? part with
    | some rank => some ⟨"", rank⟩
    | none => some ⟨part, 5⟩
  | [part, ""] => some ⟨part, 5⟩
  | [part, level] => (rank? level).map (⟨part, ·⟩)
  | _ => none

/-- The filter that a text describes; without directives it keeps errors. -/
def parse (spec : String) : LogFilter :=
  let pieces := ((spec.splitOn ",").map trim).filter (!·.isEmpty)
  match pieces.filterMap directive? with
  | [] => [⟨"", 1⟩]
  | directives => directives.mergeSort fun a b => a.target.length ≤ b.target.length

/-- Whether an entry is kept. -/
def keeps (filter : LogFilter) (entry : LogEntry) : Bool :=
  match filter.reverse.find? fun d => d.target.toList.isPrefixOf entry.area.target.toList with
  | some d => entry.level.rank ≤ d.rank
  | none => false

end LogFilter

namespace LogEntry

/-- The text of an entry, further lines indented. -/
def indentedText (e : LogEntry) : String :=
  String.ofList (e.text.toList.flatMap fun c => if c = '\n' then "\n    ".toList else [c])

/-- An entry as it is written, after `stamp`, which says when it was made. -/
def write (stamp : String) (e : LogEntry) : String :=
  let level := e.level.name ++ String.ofList (List.replicate (5 - e.level.name.length) ' ')
  "[" ++ stamp ++ level ++ " " ++ e.area.target ++ "] " ++ e.indentedText ++ "\n"

end LogEntry

end TrainingPortal
