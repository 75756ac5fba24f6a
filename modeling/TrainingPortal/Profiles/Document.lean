import TrainingPortal.Profiles.Basic
import TrainingPortal.Toml.Reader
import TrainingPortal.Toml.Writer

/-!
# Profiles as a document

The TOML document in which profiles are kept, written by `Profiles.render?` and read back by
`Profiles.ofDocument?`. A document written by hand may leave out the current profile, the profiles,
any of the settings and the workshops of a profile, and may hold anything else besides.
-/

namespace TrainingPortal

open Text Toml

/-! ## Writing -/

/-- The bindings of one profile. -/
def Credentials.render (c : Credentials) : List Char :=
  writeBinding "url" (writeText c.url) ++ writeBinding "client_id" (writeText c.clientId) ++
    writeBinding "client_secret" (writeText c.clientSecret) ++
    writeBinding "username" (writeText c.username) ++
    writeBinding "password" (writeText c.password) ++
    if c.workshops.isEmpty then [] else writeBinding "workshops" (writeTexts c.workshops)

namespace Profiles

/-- The section of one profile. -/
def renderPortal (name : String) (c : Credentials) : List Char :=
  "[portals.".toList ++ writeName name ++ "]\n".toList ++ c.render

/-- The section of the settings. -/
def renderSettings (s : Settings) : List Char :=
  "[settings]\n".toList ++
    writeBinding "http_timeout_secs" (decimal s.httpTimeout.toNat) ++
    writeBinding "connect_timeout_secs" (decimal s.connectTimeout.toNat) ++
    writeBinding "activation_timeout_secs" (decimal s.activationTimeout.toNat)

/-- The parts of the document, which stand with a blank line between them. -/
def parts (p : Profiles) : List (List Char) :=
  (p.current.map fun name => writeBinding "current_portal" (writeText name)).toList ++
    (if p.portals.entries.isEmpty then ["[portals]\n".toList]
      else p.portals.entries.map fun (name, c) => renderPortal name c) ++
    [renderSettings p.settings]

/-- The document of profiles; there is none if a time limit exceeds the integers of TOML. -/
def render? (p : Profiles) : Option String :=
  if isInt64 p.settings.httpTimeout.toNat && isInt64 p.settings.connectTimeout.toNat then
    some (String.ofList (['\n'].intercalate p.parts))
  else none

end Profiles

/-! ## Reading -/

/-- A text. -/
def Toml.toText? : Toml → Option String
  | .text s => some s
  | _ => none

/-- A list of texts. -/
def Toml.toTexts? (value : Toml) : Option (List String) := do
  (← value.items?).mapM Toml.toText?

/-- A whole number below a bound. -/
def Toml.toNat? (bound : Nat) : Toml → Option Nat
  | .integer n => if 0 ≤ n ∧ n < bound then some n.toNat else none
  | _ => none

/-- A number of seconds in 64 bits. -/
def Toml.toUInt64? (value : Toml) : Option UInt64 :=
  (value.toNat? UInt64.size).map UInt64.ofNat

/-- A number of seconds in 32 bits. -/
def Toml.toUInt32? (value : Toml) : Option UInt32 :=
  (value.toNat? UInt32.size).map UInt32.ofNat

/-- A value that may be missing. -/
def Toml.optional {α : Type} (default : α) (decode : Toml → Option α) : Option Toml → Option α
  | some value => decode value
  | none => some default

/-- The values of a record's fields, in order: by name from a table, by place from an array. -/
def Toml.fields? (names : List String) (value : Toml) : Option (List (Option Toml)) :=
  match value.members? with
  | some members => some (names.map fun name => List.lookup name members)
  | none => value.items?.map fun items => names.zipIdx.map fun (_, i) => items[i]?

/-- Credentials in a document. -/
def Credentials.ofToml? (value : Toml) : Option Credentials := do
  match ← Toml.fields? fieldNames value with
  | [url, clientId, clientSecret, username, password, workshops] =>
    return {
      url := ← (← url).toText?
      clientId := ← (← clientId).toText?
      clientSecret := ← (← clientSecret).toText?
      username := ← (← username).toText?
      password := ← (← password).toText?
      workshops := ← Toml.optional [] Toml.toTexts? workshops }
  | _ => none

/-- Settings in a document. A date in their place counts as settings of which none is given. -/
def Settings.ofToml? (value : Toml) : Option Settings := do
  let names := ["http_timeout_secs", "connect_timeout_secs", "activation_timeout_secs"]
  let fields ← match value with
    | .datetime _ => some [none, none, none]
    | value => Toml.fields? names value
  match fields with
  | [http, connect, activation] =>
    return {
      httpTimeout := ← Toml.optional 30 Toml.toUInt64? http
      connectTimeout := ← Toml.optional 10 Toml.toUInt64? connect
      activationTimeout := ← Toml.optional 60 Toml.toUInt32? activation }
  | _ => none

/-- The profiles in a document. -/
def ProfileTable.ofToml? (value : Toml) : Option ProfileTable := do
  let members ← value.members?
  return .ofList (← members.mapM fun (name, value) => (Credentials.ofToml? value).map (name, ·))

/-- The profiles, selection and settings in a document. -/
def Profiles.ofDocument? (document : String) : Option Profiles := do
  let members ← Toml.parse? document
  return {
    current := ← Toml.optional none (fun v => v.toText?.map some) (members.lookup "current_portal")
    portals := ← Toml.optional .empty ProfileTable.ofToml? (members.lookup "portals")
    settings := ← Toml.optional {} Settings.ofToml? (members.lookup "settings") }

end TrainingPortal
