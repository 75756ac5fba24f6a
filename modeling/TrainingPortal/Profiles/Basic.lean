import TrainingPortal.Profiles.Table

/-!
# Profiles

What is kept from one command to the next: the profiles of training portals, which of them is
current, and the settings.
-/

namespace TrainingPortal

/-- Time limits. -/
structure Settings where
  /-- Seconds for a call to a portal. -/
  httpTimeout : UInt64 := 30
  /-- Seconds to connect to a portal. -/
  connectTimeout : UInt64 := 10
  /-- Seconds until a session must be activated. -/
  activationTimeout : UInt32 := 60
  deriving DecidableEq, Inhabited

/-- The limits of calls to a portal, in seconds. They are for whoever makes the calls to keep: no
time passes on a `Network`, so what comes of a call does not depend on them. -/
structure CallLimits where
  request : UInt64
  connect : UInt64
  deriving DecidableEq

/-- The limits of calls, a limit given for this command overriding the one kept. -/
def Settings.callLimits (s : Settings) (httpTimeout : Option UInt64) : CallLimits where
  request := httpTimeout.getD s.httpTimeout
  connect := s.connectTimeout

/-- Profiles with a selection and settings. -/
structure Profiles where
  /-- The name of the current profile. -/
  current : Option String := none
  portals : ProfileTable := .empty
  settings : Settings := {}
  deriving DecidableEq, Inhabited

namespace Profiles

/-- The current profile: its name and credentials. -/
def current? (p : Profiles) : Option (String × Credentials) := do
  let name ← p.current
  let c ← p.portals.get? name
  return (name, c)

/-- The profiles with one added, which becomes current if none is. -/
def add (p : Profiles) (name : String) (c : Credentials) : Profiles :=
  { p with portals := p.portals.insert name c, current := some (p.current.getD name) }

/-- The profiles with another current one. -/
def select (p : Profiles) (name : String) : Profiles := { p with current := some name }

/-- The profiles without one; if it was current, none is afterwards. -/
def remove (p : Profiles) (name : String) : Profiles :=
  { p with
    portals := p.portals.erase name
    current := if p.current = some name then none else p.current }

end Profiles

end TrainingPortal
