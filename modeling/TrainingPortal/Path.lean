import TrainingPortal.Text.Pieces

/-!
# File paths

A path is a text cut at its slashes. `parent?` is the path of the directory that holds what a path
names: the path up to its last telling segment, where empty segments and `.` tell nothing unless a
`.` stands first.
-/

namespace TrainingPortal.Path

/-- The segments between the slashes. -/
def segments (path : List Char) : List (List Char) := Text.splitAt '/' path

/-- Whether a path starts at the root. -/
def isAbsolute (path : String) : Bool := path.toList.head? == some '/'

/-- Whether a segment behind the first leads nowhere. -/
def isIdle (segment : List Char) : Bool := segment.isEmpty || segment == ['.']

/-- The segments after the first, without idle ones at the end. -/
def trimIdle (tail : List (List Char)) : List (List Char) :=
  Text.dropTailWhile isIdle tail

/-- The segments joined by slashes. -/
def ofSegments (segments : List (List Char)) : String := String.ofList (['/'].intercalate segments)

/-- The path of the directory that holds what the path names. -/
def parent? (path : String) : Option String :=
  match segments path.toList with
  | [] => none
  | first :: tail =>
    match (trimIdle tail).reverse with
    | [] => if first.isEmpty then none else some ""
    | _ :: before =>
      match trimIdle before.reverse with
      | [] => some (if first.isEmpty then "/" else String.ofList first)
      | kept => some (ofSegments (first :: kept))

/-- A path with a name appended. -/
def join (path name : String) : String :=
  if path.isEmpty || path.toList.getLast? == some '/' then path ++ name else path ++ "/" ++ name

end TrainingPortal.Path
