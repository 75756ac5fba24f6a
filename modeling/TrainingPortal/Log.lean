/-!
# Log entries

What a run records about itself: entries with a level, the part of the program they come from and
a text. A filter lets through the entries of a level and the more severe ones, for the whole program
or for a part of it.
-/

namespace TrainingPortal

/-- How severe a log entry is. -/
inductive LogLevel
  | error
  | warn
  | info
  | debug
  | trace
  deriving DecidableEq, Inhabited

namespace LogLevel

/-- The rank of a level, the most severe first. -/
def rank : LogLevel → Nat
  | error => 1
  | warn => 2
  | info => 3
  | debug => 4
  | trace => 5

/-- The name of a level. -/
def name : LogLevel → String
  | error => "ERROR"
  | warn => "WARN"
  | info => "INFO"
  | debug => "DEBUG"
  | trace => "TRACE"

end LogLevel

/-- The parts of the program that log. -/
inductive LogArea
  | main
  | profiles
  | parameters
  | credentials
  | login
  | calls
  | catalog
  | sessions
  | broker
  | source
  | workshop
  deriving DecidableEq, Inhabited

/-- The name under which a part logs. -/
def LogArea.target : LogArea → String
  | main => "workshop_cli"
  | profiles => "workshop_cli::config"
  | parameters => "workshop_cli::params"
  | credentials => "workshop_cli::auth::credentials"
  | login => "workshop_cli::api::auth"
  | calls => "workshop_cli::api::client"
  | catalog => "workshop_cli::api::catalog"
  | sessions => "workshop_cli::api::session"
  | broker => "workshop_cli::api::broker"
  | source => "workshop_cli::cli::source"
  | workshop => "workshop_cli::cli::commands::workshop::handler"

/-- An entry of the log. -/
structure LogEntry where
  level : LogLevel
  area : LogArea
  text : String
  deriving DecidableEq, Inhabited

end TrainingPortal
