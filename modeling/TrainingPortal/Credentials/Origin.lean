import TrainingPortal.Credentials
import TrainingPortal.Failure
import TrainingPortal.Trace

/-!
# Credentials from outside

Credentials that are given as environment variables, in a dotenv file or on the command line. The
same five names are used for variables and in the file, and the first one missing is reported.
-/

namespace TrainingPortal.Credentials

/-- The name that gives the address of the portal. -/
def urlName : String := "WORKSHOP_PORTAL_URL"

/-- The name that gives the identifier of the client. -/
def clientIdName : String := "WORKSHOP_CLIENT_ID"

/-- The name that gives the secret of the client. -/
def clientSecretName : String := "WORKSHOP_CLIENT_SECRET"

/-- The name that gives the robot account. -/
def usernameName : String := "WORKSHOP_USERNAME"

/-- The name that gives the password of the robot account. -/
def passwordName : String := "WORKSHOP_PASSWORD"

/-- The credentials that a lookup of the five names gives. -/
def ofLookup (lookup : String → Option String) (missing : String → Failure) :
    Except Failure Credentials := do
  let get (name : String) : Except Failure String :=
    match lookup name with
    | some value => .ok value
    | none => .error (missing name)
  return {
    url := ← get urlName
    clientId := ← get clientIdName
    clientSecret := ← get clientSecretName
    username := ← get usernameName
    password := ← get passwordName }

/-- The credentials in environment variables. -/
def fromVariables (vars : Variables) : ExceptT Failure Traced Credentials := do
  Traced.log .info .credentials "Importing portal credentials from environment variables"
  ofLookup vars.get? .variableUnset

/-- The credentials that bindings give; of several bindings of a name the last counts. -/
def ofBindings (path : String) (bindings : List Dotenv.Binding) : Except Failure Credentials :=
  ofLookup (fun name => bindings.reverse.lookup name) (.envFileLacks · path)

/-- The credentials in a dotenv file. -/
def fromEnvFile (fs : Files) (vars : Variables) (path : String) :
    ExceptT Failure Traced Credentials := do
  Traced.log .info .credentials s!"Importing portal credentials from .env file: {path}"
  if !fs.exists? path then throw (.envFileMissing path)
  match Dotenv.read fs vars path with
  | (_, some fault) => throw (.envFileFault path fault)
  | (bindings, none) => ofBindings path bindings

/-- The credentials given on the command line. -/
def fromCommandLine (url clientId clientSecret username password : String) :
    Traced Credentials := do
  Traced.log .info .credentials "Using portal credentials from command line parameters"
  return { url, clientId, clientSecret, username, password }

end TrainingPortal.Credentials
