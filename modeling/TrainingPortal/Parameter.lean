import TrainingPortal.Json.Record
import TrainingPortal.Text.Quoted

/-!
# Session parameters

Named values that are handed to a workshop session, and ordered sets of them in which every name
occurs once: a value set again replaces the earlier one in its place.
-/

namespace TrainingPortal

/-- A named value. -/
structure Parameter where
  name : String
  value : String
  deriving DecidableEq, Inhabited

namespace Parameter

/-- A parameter for a reader. -/
def describe (p : Parameter) : String :=
  "Parameter \x7b name: " ++ Text.quoted p.name ++ ", value: " ++ Text.quoted p.value ++ " \x7d"

/-- A parameter as an object. -/
def toJson (p : Parameter) : Json := .object [("name", .text p.name), ("value", .text p.value)]

/-- A parameter read from a record. -/
def ofJson? (j : Json) : Option Parameter := do
  match ← Json.fields? ["name", "value"] j with
  | [name, value] =>
    return {
      name := ← Json.required Json.toText? name
      value := ← Json.required Json.toText? value }
  | _ => none

end Parameter

/-- Parameters in the order in which their names were first set. -/
abbrev ParameterSet := List Parameter

namespace ParameterSet

/-- Sets a value: in the place of an earlier one of that name, else at the end. -/
def set : ParameterSet → String → String → ParameterSet
  | [], name, value => [⟨name, value⟩]
  | p :: ps, name, value => if p.name = name then ⟨name, value⟩ :: ps else p :: set ps name value

/-- Sets the values of pairs, in order. -/
def setAll (ps : ParameterSet) (pairs : List (String × String)) : ParameterSet :=
  pairs.foldl (fun ps (name, value) => ps.set name value) ps

/-- The value of a name. -/
def get? (ps : ParameterSet) (name : String) : Option String :=
  (ps.find? (·.name == name)).map (·.value)

end ParameterSet

end TrainingPortal
