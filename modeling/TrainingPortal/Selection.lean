import TrainingPortal.Credentials.Origin
import TrainingPortal.Profiles.Basic

/-!
# Which portal a command talks to

A command says in one of five ways which portal it means, and the first that is present decides: an
address on the command line, the environment variables, a dotenv file, the name of a profile, or
nothing at all, which stands for the current profile. If that way fails the others are not tried.
-/

namespace TrainingPortal

/-- What a command says about the portal it means. -/
structure Selection where
  /-- The name of a profile. -/
  portal : Option String := none
  portalUrl : Option String := none
  clientId : Option String := none
  clientSecret : Option String := none
  username : Option String := none
  password : Option String := none
  fromEnv : Bool := false
  fromEnvFile : Option String := none
  deriving DecidableEq, Inhabited

/-- The portal that a command talks to. -/
structure Target where
  /-- How the portal is called in messages. -/
  label : String
  credentials : Credentials
  deriving DecidableEq

namespace Selection

/-- The portal that is meant. -/
def resolve (s : Selection) (profiles : Profiles) (fs : Files) (vars : Variables) :
    ExceptT Failure Traced Target := do
  if let some url := s.portalUrl then
    let c ← Credentials.fromCommandLine url (s.clientId.getD "") (s.clientSecret.getD "")
      (s.username.getD "") (s.password.getD "")
    return ⟨url, c⟩
  else if s.fromEnv then
    let c ← Credentials.fromVariables vars
    return ⟨c.url, c⟩
  else if let some path := s.fromEnvFile then
    let c ← Credentials.fromEnvFile fs vars path
    return ⟨c.url, c⟩
  else if let some name := s.portal then
    match profiles.portals.get? name with
    | some c => return ⟨name, c⟩
    | none => throw (.profileUnknown name)
  else
    match profiles.current? with
    | some (name, c) =>
      Traced.log .debug .source s!"Using current portal {name}"
      return ⟨name, c⟩
    | none => throw .noneSelected

end Selection

end TrainingPortal
