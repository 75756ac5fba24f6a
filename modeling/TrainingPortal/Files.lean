import TrainingPortal.Path
import TrainingPortal.Text.Utf8

/-!
# A tree of files

The files a program may read and write, as a value: every place in the tree holds a file, a
directory or nothing, and a place is the list of names that leads to it from the root. A path is
followed name by name from the working directory, or from the root if it is absolute; `.` and empty
segments stay, `..` goes up, and each of them, like any name, must be looked up in a directory.
-/

namespace TrainingPortal

/-- Why a file could not be used. -/
inductive FileError
  | notFound
  | notADirectory
  | isADirectory
  | alreadyExists
  | nameTooLong
  | nulInPath
  | notUtf8
  deriving DecidableEq, Inhabited

/-- The text of a file error. -/
def FileError.message : FileError → String
  | notFound => "No such file or directory (os error 2)"
  | notADirectory => "Not a directory (os error 20)"
  | isADirectory => "Is a directory (os error 21)"
  | alreadyExists => "File exists (os error 17)"
  | nameTooLong => "File name too long (os error 36)"
  | nulInPath => "file name contained an unexpected NUL byte"
  | notUtf8 => "stream did not contain valid UTF-8"

/-- What stands at a place. -/
inductive FileEntry
  | file (content : List UInt8)
  | directory
  deriving DecidableEq, Inhabited

/-- A tree of files with a working directory. -/
structure Files where
  /-- The place of the working directory; it and the places above it are directories. -/
  home : List (List Char) := []
  entries : List (List (List Char) × FileEntry) := []
  deriving Inhabited

namespace Files

/-- What stands at a place. -/
def entry? (fs : Files) (place : List (List Char)) : Option FileEntry :=
  if place.isPrefixOf fs.home then some .directory
  else (fs.entries.find? (·.1 == place)).map (·.2)

/-- The tree with something new at a place. -/
def put (fs : Files) (place : List (List Char)) (entry : FileEntry) : Files :=
  { fs with entries := (place, entry) :: fs.entries.filter (·.1 != place) }

/-! ## Following paths -/

/-- The longest name, in bytes. -/
def longestName : Nat := 255

/-- The longest path, in bytes. -/
def longestPath : Nat := 4095

/-- The place that segments lead to; only the last one may be missing from its directory. -/
def follow (fs : Files) (place : List (List Char)) :
    List (List Char) → Except FileError (List (List Char))
  | [] => .ok place
  | segment :: rest =>
    match fs.entry? place with
    | none => .error .notFound
    | some (.file _) => .error .notADirectory
    | some .directory =>
      if Path.isIdle segment then follow fs place rest
      else if segment = ['.', '.'] then follow fs place.dropLast rest
      else if longestName < Text.Utf8.length segment then .error .nameTooLong
      else follow fs (place ++ [segment]) rest

/-- The place a path starts from and its segments, unless no path can be like that. -/
def start (fs : Files) (path : String) :
    Except FileError (List (List Char) × List (List Char)) :=
  let cs := path.toList
  if cs.contains '\x00' then .error .nulInPath
  else if cs.isEmpty then .error .notFound
  else if longestPath < Text.Utf8.length cs then .error .nameTooLong
  else .ok (if Path.isAbsolute path then [] else fs.home, Path.segments cs)

/-- The place that a path leads to, and what stands there. -/
def find (fs : Files) (path : String) : Except FileError (List (List Char) × FileEntry) := do
  let (place, segments) ← fs.start path
  let place ← fs.follow place segments
  match fs.entry? place with
  | some entry => .ok (place, entry)
  | none => .error .notFound

/-- Whether a path leads to anything. -/
def exists? (fs : Files) (path : String) : Bool := (fs.find path).isOk

/-- Whether a path leads to a directory. -/
def isDirectory (fs : Files) (path : String) : Bool :=
  match fs.find path with
  | .ok (_, .directory) => true
  | _ => false

/-! ## Reading -/

/-- The bytes of a file. -/
def read (fs : Files) (path : String) : Except FileError (List UInt8) := do
  match ← fs.find path with
  | (_, .file content) => .ok content
  | (_, .directory) => .error .isADirectory

/-- The text of a file. -/
def readText (fs : Files) (path : String) : Except FileError String := do
  match Text.Utf8.decode? (← fs.read path) with
  | some cs => .ok (String.ofList cs)
  | none => .error .notUtf8

/-! ## Writing -/

/-- The place of something to be created: the name at the end of the path, in the directory that
the rest leads to, and whether slashes follow the name. A path without such a name leads to a
directory. -/
def target (fs : Files) (path : String) :
    Except FileError (Option (List (List Char)) × Bool) := do
  let (place, segments) ← fs.start path
  let slashed := segments.getLast?.any (·.isEmpty)
  match segments.reverse.dropWhile (·.isEmpty) with
  | [] => .ok (none, slashed)
  | name :: before =>
    let parent ← fs.follow place before.reverse
    match fs.entry? parent with
    | none => .error .notFound
    | some (.file _) => .error .notADirectory
    | some .directory =>
      if name = ['.'] ∨ name = ['.', '.'] then .ok (none, slashed)
      else if longestName < Text.Utf8.length name then .error .nameTooLong
      else .ok (some (parent ++ [name]), slashed)

/-- Writes a file, replacing what it held. -/
def write (fs : Files) (path : String) (content : List UInt8) : Except FileError Files := do
  match ← fs.target path with
  | (none, _) => .error .isADirectory
  | (some place, slashed) =>
    if slashed then .error .isADirectory
    else match fs.entry? place with
      | some .directory => .error .isADirectory
      | _ => .ok (fs.put place (.file content))

/-- Creates a directory in an existing one. -/
def makeDirectory (fs : Files) (path : String) : Except FileError Files := do
  match ← fs.target path with
  | (none, _) => .error .alreadyExists
  | (some place, _) =>
    match fs.entry? place with
    | some _ => .error .alreadyExists
    | none => .ok (fs.put place .directory)

/-- Creates a directory and those above it that are missing. What was created before a failure
stays. -/
def makeDirectoriesWith : Nat → Files → String → Except FileError Unit × Files
  | 0, fs, _ => (.error .notFound, fs)
  | fuel + 1, fs, path =>
    if path.isEmpty then (.ok (), fs)
    else match fs.makeDirectory path with
      | .ok fs => (.ok (), fs)
      | .error .notFound =>
        match Path.parent? path with
        | none => (.error .notFound, fs)
        | some parent =>
          match makeDirectoriesWith fuel fs parent with
          | (.error e, fs) => (.error e, fs)
          | (.ok (), fs) =>
            match fs.makeDirectory path with
            | .ok fs => (.ok (), fs)
            | .error e => if fs.isDirectory path then (.ok (), fs) else (.error e, fs)
      | .error e => if fs.isDirectory path then (.ok (), fs) else (.error e, fs)

/-- Creates a directory and those above it that are missing. -/
def makeDirectories (fs : Files) (path : String) : Except FileError Unit × Files :=
  makeDirectoriesWith (path.length + 1) fs path

end Files

end TrainingPortal
