import TrainingPortal.Dotenv.Line
import TrainingPortal.Dotenv.Value
import TrainingPortal.Files
import TrainingPortal.Text.Ascii
import TrainingPortal.Variables

/-!
# Dotenv files

The bindings of names to values in a dotenv file. Every logical line holds a binding
`NAME=VALUE`, with `export` before it if one likes, or nothing. A name that a value refers to has
the value of the environment variable, or else the one bound earlier in the file, or else none.
`read` gives the bindings up to the first fault, and the fault.
-/

namespace TrainingPortal.Dotenv

open Text

/-- Why the bindings of a file end before the file. -/
inductive Fault
  /-- A line, or a value, cannot be read from this index on. -/
  | malformed (text : String) (index : Nat)
  /-- The file itself cannot be read. -/
  | unreadable (cause : FileError)
  deriving DecidableEq

/-- The text of a fault. -/
def Fault.message : Fault → String
  | malformed text index => s!"Error parsing line: '{text}', error at line index: {index}"
  | unreadable cause => cause.message

/-- A name bound to a value. -/
abbrev Binding := String × String

/-- The value that a name stands for within a value. -/
def valueOf (vars : Variables) (bound : List Binding) (name : List Char) : List Char :=
  match vars.get? (String.ofList name) with
  | some value => value.toList
  | none => ((bound.reverse.lookup (String.ofList name)).getD "").toList

/-- Whether a character may start a name. -/
def startsName (c : Char) : Bool := isLetter c || c == '_'

/-- Whether a character may stand in a name. -/
def continuesName (c : Char) : Bool := isWordChar c || c == '_' || c == '.'

/-- The name that characters start with and the rest. -/
def readName : List Char → Option (List Char × List Char)
  | [] => none
  | c :: cs =>
    if startsName c then some (c :: cs.takeWhile continuesName, cs.dropWhile continuesName)
    else none

/-- The rest after an equals sign. -/
def afterEquals : List Char → Option (List Char)
  | '=' :: rest => some rest
  | _ => none

/-- The name that a line binds and what stands after the equals sign; otherwise the part of the
line from the fault on. -/
def readBinder (cs : List Char) : Except (List Char) (List Char × List Char) :=
  match readName cs with
  | none => .error cs
  | some (name, rest) =>
    let rest := trimStart rest
    match afterEquals rest with
    | some value => .ok (name, value)
    | none =>
      if name = "export".toList then
        match readName rest with
        | none => .error rest
        | some (name, rest) =>
          let rest := trimStart rest
          match afterEquals rest with
          | some value => .ok (name, value)
          | none => .error rest
      else .error rest

/-- The binding in a logical line, if there is one. -/
def readLine (vars : Variables) (bound : List Binding) (line : List Char) :
    Except Fault (Option Binding) :=
  let cs := trimStart (trimEnd line)
  if cs.isEmpty ∨ cs.head? = some '#' then .ok none
  else match readBinder cs with
    | .error rest =>
      .error (.malformed (String.ofList line) (Utf8.length (trimEnd line) - Utf8.length rest))
    | .ok (name, rest) =>
      let value := trimStart rest
      if value.isEmpty ∨ value.head? = some '#' then .ok (some (String.ofList name, ""))
      else match readValue (valueOf vars bound) .plain 0 value with
        | .ok out => .ok (some (String.ofList name, String.ofList out))
        | .error (.misplaced index) => .error (.malformed (String.ofList value) index)
        | .error .unclosed => .error (.malformed (String.ofList value) (Utf8.length value - 1))

/-- The bindings in logical lines up to the first fault, after those already `bound`. -/
def readLines (vars : Variables) (bound : List Binding) :
    List (List Char) → List Binding × Option Fault
  | [] => (bound, none)
  | line :: rest =>
    match readLine vars bound line with
    | .ok none => readLines vars bound rest
    | .ok (some binding) => readLines vars (bound ++ [binding]) rest
    | .error fault => (bound, some fault)

/-- The fault with which the logical lines of a file end. -/
def Ending.fault? : Ending → Option Fault
  | .complete => none
  | .unfinished line => some (.malformed (String.ofList line) (Utf8.length line))
  | .notUtf8 => some (.unreadable .notUtf8)

/-- The bindings in the content of a file up to the first fault, and the fault. -/
def parse (vars : Variables) (content : List UInt8) : List Binding × Option Fault :=
  let (lines, ending) := logicalLines content
  match readLines vars [] lines with
  | (bindings, some fault) => (bindings, some fault)
  | (bindings, none) => (bindings, ending.fault?)

/-- The bindings in a file up to the first fault, and the fault. -/
def read (fs : Files) (vars : Variables) (path : String) : List Binding × Option Fault :=
  match fs.read path with
  | .ok content => parse vars content
  | .error e => ([], some (.unreadable e))

end TrainingPortal.Dotenv
