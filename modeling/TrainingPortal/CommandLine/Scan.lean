import TrainingPortal.CommandLine.Grammar
import TrainingPortal.Text.Digits
import TrainingPortal.Text.Pieces
import TrainingPortal.Variables

/-!
# Scanning a command line

The words of a command line are scanned from left to right by one command after the other, each in
a `Frame` of its own. An option without `=` is open until its value comes; its value is only checked
when the next argument begins or the command line ends. At the end the frames are closed from the
innermost outwards (`Frame.close`): open options are checked, variables stand in for what was not
given, and the rules of the command are applied.
-/

namespace TrainingPortal.CommandLine

open Text

/-- An argument that was given. -/
structure Given where
  name : String
  /-- Whether a variable stands in for it. -/
  fromVariable : Bool := false
  value : Option String
  deriving DecidableEq

/-- What a command has got of the command line so far. -/
structure Frame where
  command : Command
  given : List Given := []
  /-- An option whose value is still to come, or still to be checked. -/
  pending : Option (Argument × Option String) := none
  /-- Whether only positional values follow. -/
  trailing : Bool := false
  /-- How many positional values there were. -/
  places : Nat := 0

/-! ## Values -/

/-- The number that digits after an optional plus sign denote. -/
def unsigned? (s : String) : Option Nat :=
  let digits := match s.toList with
    | '+' :: rest => rest
    | cs => cs
  if digits.isEmpty || !digits.all isDigit then none else some (ofDigits 10 digits)

/-- The number that digits after an optional sign denote, if it is not below zero. -/
def natural? (s : String) : Option Nat :=
  match s.toList with
  | '-' :: rest => if !rest.isEmpty && rest.all (· == '0') then some 0 else none
  | _ => unsigned? s

/-- Refuses a value that is not of the kind. -/
def ValueKind.check (kind : ValueKind) (value : String) : Except UsageStop Unit :=
  match kind with
  | text => .ok ()
  | path => if value.isEmpty then .error .invalidValue else .ok ()
  | word words => if words.contains value then .ok () else .error .invalidValue
  | number64 => if (unsigned? value).any (· < UInt64.size) then .ok () else .error .valueValidation
  | number32 => if (natural? value).any (· < UInt32.size) then .ok () else .error .valueValidation

/-- Refuses a value that the argument cannot have. -/
def Argument.check (a : Argument) (value : String) : Except UsageStop Unit :=
  match a.form with
  | .option kind => kind.check value
  | _ => .ok ()

namespace Frame

/-! ## Taking arguments -/

/-- Takes an argument with its value. -/
def take (f : Frame) (a : Argument) (value : Option String) : Except UsageStop Frame := do
  if !a.repeatable && f.given.any (·.name == a.name) then throw .argumentConflict
  if let some value := value then a.check value
  return { f with given := f.given ++ [{ name := a.name, value }] }

/-- Takes the option that is pending. -/
def settle (f : Frame) : Except UsageStop Frame :=
  match f.pending with
  | none => .ok f
  | some (_, none) => .error .invalidValue
  | some (a, some value) => take { f with pending := none } a (some value)

/-- Whether the next word is the value of an option. -/
def awaits (f : Frame) : Bool := f.pending.any (·.2.isNone)

/-- Whether the command is the outermost one, which alone has a version. -/
def isOutermost (parents : List Frame) : Bool := parents.isEmpty

/-- An option with an attached value, or one whose value is to come. -/
def beginOption (f : Frame) (a : Argument) (attached : Option String) : Except UsageStop Frame := do
  let f ← f.settle
  match attached with
  | some value => f.take a (some value)
  | none => return { f with pending := some (a, none) }

/-- A word that starts with two hyphens, after these. -/
def long (f : Frame) (outermost : Bool) (word : List Char) : Except UsageStop Frame :=
  let name := String.ofList (cutAt '=' word).1
  let attached := (cutAt '=' word).2.map String.ofList
  let stop (s : UsageStop) : Except UsageStop Frame :=
    if attached.isSome then .error .tooManyValues else f.settle.bind fun _ => .error s
  if name = "help" then stop .help
  else if outermost && name == "version" then stop .version
  else match f.command.long? name with
    | none => .error .unknownArgument
    | some a =>
      match a.form with
      | .option _ => f.beginOption a attached
      | _ =>
        if attached.isSome then .error .tooManyValues
        else f.settle.bind fun f => f.take a none

/-- The letters after a single hyphen. -/
def letters (f : Frame) (outermost : Bool) : List Char → Except UsageStop Frame
  | [] => .ok f
  | c :: rest =>
    if c = 'h' then f.settle.bind fun _ => .error .help
    else if outermost && c == 'V' then f.settle.bind fun _ => .error .version
    else match f.command.short? c with
      | none => .error .unknownArgument
      | some a =>
        match a.form with
        | .option _ =>
          let attached := match rest with
            | [] => none
            | '=' :: value => some (String.ofList value)
            | value => some (String.ofList value)
          f.beginOption a attached
        | _ => (f.settle.bind fun f => f.take a none).bind fun f => letters f outermost rest

/-- A value without a name. -/
def place (f : Frame) (word : String) : Except UsageStop Frame := do
  match f.command.positionals[f.places]? with
  | some a =>
    let f ← f.settle
    let f ← f.take a (some word)
    return { f with places := f.places + 1 }
  | none =>
    if f.trailing && ((f.command.child? word).isSome ||
        (word == "help" && !f.command.children.isEmpty)) then throw .unknownArgument
    else if !f.command.children.isEmpty then throw .invalidSubcommand
    else throw .unknownArgument

/-! ## Closing -/

/-- The frame with arguments for which a variable stands in. -/
def standIn (f : Frame) (vars : Variables) : Except UsageStop Frame :=
  f.command.arguments.foldlM (fun f a =>
    match a.fallback.bind vars.get? with
    | none => .ok f
    | some value =>
      if f.given.any (·.name == a.name) then .ok f
      else (a.check value).map fun () =>
        let given : Given := { name := a.name, fromVariable := true, value := some value }
        { f with given := f.given ++ [given] }) f

/-- Whether an argument was given. -/
def has (f : Frame) (name : String) : Bool := f.given.any (·.name == name)

/-- Applies the rules of the command. -/
def checkRules (f : Frame) (innermost : Bool) : Except UsageStop Unit := do
  if innermost && !f.command.children.isEmpty then
    throw (if f.given.isEmpty then .helpForNothing else .missingSubcommand)
  if 1 < (f.command.exclusive.filter f.has).length then throw .argumentConflict
  if f.command.arguments.any fun a => a.required && !f.has a.name then
    throw .missingRequiredArgument
  if f.command.requirements.any fun r =>
      r.anyOf.any f.has && !r.needed.all f.has && !r.unlessAny.any f.has then
    throw .missingRequiredArgument

/-- The frame at the end of the command line. -/
def close (vars : Variables) (innermost : Bool) (f : Frame) : Except UsageStop Frame := do
  let f ← f.settle
  let f ← f.standIn vars
  f.checkRules innermost
  return f

end Frame

/-! ## Scanning -/

/-- Where `help` and the names after it lead to. -/
def helpFor (c : Command) : List String → UsageStop
  | [] => .help
  | name :: rest =>
    if c.children.isEmpty then .invalidSubcommand
    else if name = "help" then if rest.isEmpty then .help else .invalidSubcommand
    else match c.child? name with
      | some child => helpFor child rest
      | none => .invalidSubcommand

/-- Scans words into the frame at hand; `parents` are the frames around it. The frames come out
with the innermost first. -/
def scan (f : Frame) (parents : List Frame) : List String → Except UsageStop (List Frame)
  | [] => .ok (f :: parents)
  | word :: rest =>
    if f.trailing then (f.place word).bind fun f => scan f parents rest
    else if !f.awaits && word == "help" && !f.command.children.isEmpty then
      .error (helpFor f.command rest)
    else match (if f.awaits then none else f.command.child? word) with
      | some child => scan { command := child } (f :: parents) rest
      | none =>
        match word.toList with
        | ['-', '-'] => scan { f with trailing := true } parents rest
        | '-' :: '-' :: name =>
          (f.long (Frame.isOutermost parents) name).bind fun f => scan f parents rest
        | '-' :: c :: more =>
          (f.letters (Frame.isOutermost parents) (c :: more)).bind fun f => scan f parents rest
        | _ =>
          match f.pending with
          | some (a, none) => scan { f with pending := some (a, some word) } parents rest
          | _ => (f.place word).bind fun f => scan f parents rest

/-- Closes frames from the innermost outwards. -/
def closeAll (vars : Variables) : List Frame → Except UsageStop (List Frame)
  | [] => .ok []
  | f :: parents => do
    let f ← f.close vars true
    let parents ← parents.mapM (Frame.close vars false)
    return f :: parents

/-- The closed frames of a command line, the innermost first. -/
def parse (c : Command) (vars : Variables) (words : List String) : Except UsageStop (List Frame) :=
  (scan { command := c } [] words).bind (closeAll vars)

end TrainingPortal.CommandLine
