import TrainingPortal.Json.Reader

/-!
# Records in JSON

A record with named fields is written as an object with these names, or as an array of the values
in order. In an object, members with other names are passed over and no field may be given twice;
in an array, fields may be missing at the end and nothing may be left over. A field that is missing
takes its default, or makes the record undecodable if it has none.
-/

namespace TrainingPortal.Json

/-- The value of the member with this name, if there is one; `none` outside if there are two. -/
def member? (members : List (String × Json)) (name : String) : Option (Option Json) :=
  match members.filter (·.1 == name) with
  | [] => some none
  | [(_, value)] => some (some value)
  | _ => none

/-- The values given for the named fields, in the order of the names. -/
def fields? (names : List String) : Json → Option (List (Option Json))
  | object members => names.mapM (member? members)
  | array items =>
    if items.length ≤ names.length then
      some (items.map some ++ List.replicate (names.length - items.length) none)
    else none
  | _ => none

/-- A field that must be given. -/
def required {α : Type} (decode : Json → Option α) : Option Json → Option α
  | some value => decode value
  | none => none

/-- A field with a default. -/
def optional {α : Type} (default : α) (decode : Json → Option α) : Option Json → Option α
  | some value => decode value
  | none => some default

/-! ## Values of the common types -/

/-- A text. -/
def toText? : Json → Option String
  | text s => some s
  | _ => none

/-- A truth value. -/
def toBool? : Json → Option Bool
  | bool b => some b
  | _ => none

/-- An integer of 64 bits. -/
def toInt64? : Json → Option Int
  | integer n => if Text.isInt64 n then some n else none
  | _ => none

/-- A list of values of one type. -/
def toList? {α : Type} (decode : Json → Option α) : Json → Option (List α)
  | array items => items.mapM decode
  | _ => none

end TrainingPortal.Json
