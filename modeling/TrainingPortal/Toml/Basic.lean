import TrainingPortal.Text.Ascii

/-!
# TOML values

A document is a table of named values, and so is every section of it. A table remembers how it came
about, because that decides what may still be added to it (`Toml.bind` for a dotted name,
`Toml.update` for a section).
-/

namespace TrainingPortal

/-- How a table came about. -/
inductive TableOrigin
  /-- By a section of a table within it. -/
  | implied
  /-- By a dotted name before an equals sign. -/
  | dotted
  /-- By a section of its own. -/
  | stated
  deriving DecidableEq, Inhabited

/-- A TOML value. -/
inductive Toml
  | text (s : String)
  | integer (n : Int)
  | real (digits : String)
  | boolean (b : Bool)
  | datetime (digits : String)
  | array (items : List Toml)
  /-- A table in braces, to which nothing can be added. -/
  | closed (members : List (String × Toml))
  | table (origin : TableOrigin) (members : List (String × Toml))
  /-- Tables of the same name, the last one first. -/
  | series (last : List (String × Toml)) (before : List (List (String × Toml)))
  deriving Inhabited

namespace Toml

/-- Whether a character may stand in a name without quotes. -/
def isBare (c : Char) : Bool := Text.isWordChar c || c == '-' || c == '_'

/-- Named values. -/
abbrev Members := List (String × Toml)

/-- The members with a new value for a name, or with the name added. -/
def put (name : String) (value : Toml) : Members → Members
  | [] => [(name, value)]
  | (other, old) :: rest =>
    if other = name then (name, value) :: rest else (other, old) :: put name value rest

/-- Binds a value to a dotted name. The tables on the way must have come about by dotted names too;
those that a section only implies may be passed through but not filled. -/
def bind (members : Members) : List String → Toml → Option Members
  | [], _ => none
  | [name], value => if (members.lookup name).isSome then none else some (put name value members)
  | name :: next :: rest, value =>
    match members.lookup name with
    | none => (bind [] (next :: rest) value).map fun inner => put name (table .dotted inner) members
    | some (table origin inner) =>
      if origin = .stated ∨ (origin = .implied ∧ rest.isEmpty) then none
      else (bind inner (next :: rest) value).map fun inner => put name (table origin inner) members
    | some (series last before) =>
      if rest.isEmpty then none
      else (bind last (next :: rest) value).map fun last => put name (series last before) members
    | some _ => none

/-- Binds values to dotted names, in order. -/
def bindAll (members : Members) (bindings : List (List String × Toml)) : Option Members :=
  bindings.foldlM (fun members (path, value) => bind members path value) members

/-- Changes what is at the end of the path of a section, implying the tables on the way. -/
def update (f : Option Toml → Option Toml) (members : Members) : List String → Option Members
  | [] => none
  | [name] => (f (members.lookup name)).map fun value => put name value members
  | name :: next :: rest =>
    match members.lookup name with
    | none => (update f [] (next :: rest)).map fun inner => put name (table .implied inner) members
    | some (table origin inner) =>
      (update f inner (next :: rest)).map fun inner => put name (table origin inner) members
    | some (series last before) =>
      (update f last (next :: rest)).map fun last => put name (series last before) members
    | some _ => none

/-! ## Sections -/

/-- A section of a document: its heading and what is bound under it. -/
structure Section where
  path : List String
  /-- Whether the section adds a table to a series. -/
  inSeries : Bool
  bindings : List (List String × Toml)

/-- The table of a section: one that so far was only implied, or a new one. -/
def openTable (bindings : List (List String × Toml)) : Option Toml → Option Toml
  | none => (bindAll [] bindings).map (table .stated)
  | some (table .implied members) => (bindAll members bindings).map (table .stated)
  | some _ => none

/-- The series with the table of a section added. -/
def extendSeries (bindings : List (List String × Toml)) : Option Toml → Option Toml
  | none => (bindAll [] bindings).map (series · [])
  | some (series last before) => (bindAll [] bindings).map (series · (last :: before))
  | some _ => none

/-- The members of a document: what is bound before the first section, and the sections. -/
def assemble (bindings : List (List String × Toml)) (sections : List Section) : Option Members := do
  let root ← bindAll [] bindings
  sections.foldlM (fun root s =>
    update (if s.inSeries then extendSeries s.bindings else openTable s.bindings) root s.path) root

/-! ## Views -/

/-- The members of a table of any kind. -/
def members? : Toml → Option Members
  | closed members | table _ members => some members
  | _ => none

/-- The items of an array of any kind. -/
def items? : Toml → Option (List Toml)
  | array items => some items
  | series last before => some ((last :: before).reverse.map (table .stated))
  | _ => none

end Toml

end TrainingPortal
