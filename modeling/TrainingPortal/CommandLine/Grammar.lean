/-!
# Grammars of command lines

A command has arguments, commands below it, and rules on which of its arguments go together. An
argument is a flag, an option with a value, or a positional value. Any command answers to `--help`,
and one with commands below it to `help`.
-/

namespace TrainingPortal.CommandLine

/-- What the value of an argument must be. -/
inductive ValueKind
  | text
  /-- A text that is not empty. -/
  | path
  /-- One of the words given. -/
  | word (words : List String)
  /-- A number of 64 bits. -/
  | number64
  /-- A number of 32 bits. -/
  | number32
  deriving DecidableEq

/-- How an argument is given. -/
inductive ArgumentForm
  /-- By its name alone. -/
  | flag
  /-- By its name and a value. -/
  | option (kind : ValueKind)
  /-- By a value in its place. -/
  | positional
  deriving DecidableEq

/-- An argument of a command. -/
structure Argument where
  /-- The name, which stands after `--` unless the argument is positional. -/
  name : String
  short : Option Char := none
  form : ArgumentForm := .option .text
  required : Bool := false
  /-- Whether it may be given more than once. -/
  repeatable : Bool := false
  /-- The variable that stands in for it. -/
  fallback : Option String := none
  deriving DecidableEq

/-- A rule that arguments need each other. -/
structure Requirement where
  /-- If one of these is given … -/
  anyOf : List String
  /-- … then all of these must be … -/
  needed : List String
  /-- … unless one of these is. -/
  unlessAny : List String := []
  deriving DecidableEq

/-- A command. -/
inductive Command
  | mk (name : String) (aliases : List String) (arguments : List Argument)
      (exclusive : List String) (requirements : List Requirement) (children : List Command)

namespace Command

/-- The name of a command. -/
def name : Command → String
  | mk name .. => name

/-- Other names of a command. -/
def aliases : Command → List String
  | mk _ aliases .. => aliases

/-- The arguments of a command. -/
def arguments : Command → List Argument
  | mk _ _ arguments .. => arguments

/-- Arguments of which at most one may be given. -/
def exclusive : Command → List String
  | mk _ _ _ exclusive .. => exclusive

/-- The rules on what arguments need. -/
def requirements : Command → List Requirement
  | mk _ _ _ _ requirements _ => requirements

/-- The commands below a command, one of which must be given. -/
def children : Command → List Command
  | mk _ _ _ _ _ children => children

/-- The command below with this name. -/
def child? (c : Command) (name : String) : Option Command :=
  c.children.find? fun child => child.name == name || child.aliases.contains name

/-- The arguments given by value alone. -/
def positionals (c : Command) : List Argument := c.arguments.filter (·.form == .positional)

/-- The argument with this name. -/
def long? (c : Command) (name : String) : Option Argument :=
  c.arguments.find? fun a => a.name == name && a.form != .positional

/-- The argument with this letter. -/
def short? (c : Command) (letter : Char) : Option Argument :=
  c.arguments.find? (·.short == some letter)

end Command

/-- Why a command line leads to no command, or to the help or version text. -/
inductive UsageStop
  | invalidValue
  | unknownArgument
  | invalidSubcommand
  | tooManyValues
  | valueValidation
  | argumentConflict
  | missingRequiredArgument
  | missingSubcommand
  /-- The help that is shown in place of an empty command. -/
  | helpForNothing
  | help
  | version
  deriving DecidableEq

namespace UsageStop

/-- The name of the kind of a stop. -/
def name : UsageStop → String
  | invalidValue => "InvalidValue"
  | unknownArgument => "UnknownArgument"
  | invalidSubcommand => "InvalidSubcommand"
  | tooManyValues => "TooManyValues"
  | valueValidation => "ValueValidation"
  | argumentConflict => "ArgumentConflict"
  | missingRequiredArgument => "MissingRequiredArgument"
  | missingSubcommand => "MissingSubcommand"
  | helpForNothing => "DisplayHelpOnMissingArgumentOrSubcommand"
  | help => "DisplayHelp"
  | version => "DisplayVersion"

/-- The exit code of a stop: only help and version that were asked for are a success. -/
def exitCode : UsageStop → Nat
  | help | version => 0
  | _ => 2

end UsageStop

end TrainingPortal.CommandLine
