import TrainingPortal.Credentials.Origin
import TrainingPortal.Proofs.Dotenv
import TrainingPortal.Proofs.Dotenv.References
import TrainingPortal.Proofs.Parameters

/-!
# Credentials from outside

Variables and dotenv files give credentials through a lookup of five names: either the lookup gives
every field (`GivenBy`), or the first name that it lacks is reported (`lacking?`). A dotenv file is
also a source of parameters, and the two ways of reading it agree (`dotenv_readers_agree`): one puts
the bindings into an ordered set, where a name bound again keeps its place, the other looks up the
last binding of each name, and both stop at the first fault. Environment variables get into the
credentials of a dotenv file only by the names to which the file refers (`fromEnvFile_depends`).
-/

namespace TrainingPortal.Credentials

/-- The five names, in the order in which they are looked up. -/
def names : List String :=
  [urlName, clientIdName, clientSecretName, usernameName, passwordName]

/-- Whether a lookup gives the fields of credentials. Workshops do not come from outside. -/
structure GivenBy (lookup : String → Option String) (c : Credentials) : Prop where
  url : lookup urlName = some c.url
  clientId : lookup clientIdName = some c.clientId
  clientSecret : lookup clientSecretName = some c.clientSecret
  username : lookup usernameName = some c.username
  password : lookup passwordName = some c.password
  workshops : c.workshops = []

/-- The first of the five names that a lookup does not give. -/
def lacking? (lookup : String → Option String) : Option String :=
  names.find? fun name => (lookup name).isNone

/-- The value that a lookup gives for a name. -/
def given (lookup : String → Option String) (missing : String → Failure) (name : String) :
    Except Failure String :=
  match lookup name with
  | some value => .ok value
  | none => .error (missing name)

variable {lookup : String → Option String} {missing : String → Failure} {c : Credentials}
  {name value : String}

/-! ## Looking up the five names -/

theorem ofLookup_eq (lookup : String → Option String) (missing : String → Failure) :
    ofLookup lookup missing = do
      let url ← given lookup missing urlName
      let clientId ← given lookup missing clientIdName
      let clientSecret ← given lookup missing clientSecretName
      let username ← given lookup missing usernameName
      let password ← given lookup missing passwordName
      return { url, clientId, clientSecret, username, password } :=
  rfl

theorem given_bind_some {α : Type} (h : lookup name = some value)
    (f : String → Except Failure α) : given lookup missing name >>= f = f value := by
  rw [given, h]
  rfl

theorem given_bind_none {α : Type} (h : lookup name = none) (f : String → Except Failure α) :
    given lookup missing name >>= f = .error (missing name) := by
  rw [given, h]
  rfl

/-- The first missing name of several is reported, whatever comes after it. -/
theorem given_bind_of_find? {α : Type} {names : List String} {f : String → Except Failure α}
    {first : String} (h : ((first :: names).find? fun name => (lookup name).isNone) = some name)
    (rest : ∀ value, (names.find? fun name => (lookup name).isNone) = some name →
      f value = .error (missing name)) :
    given lookup missing first >>= f = .error (missing name) := by
  cases found : lookup first with
  | none =>
    rw [List.find?_cons_of_pos (by rw [found]; rfl)] at h
    cases h
    exact given_bind_none found f
  | some value =>
    rw [List.find?_cons_of_neg (by rw [found]; nofun)] at h
    rw [given_bind_some found]
    exact rest value h

theorem ofLookup_of_lacking (h : lacking? lookup = some name) :
    ofLookup lookup missing = .error (missing name) :=
  given_bind_of_find? h fun _ h => given_bind_of_find? h fun _ h => given_bind_of_find? h fun _ h =>
    given_bind_of_find? h fun _ h => given_bind_of_find? h nofun

theorem ofLookup_of_givenBy (h : GivenBy lookup c) : ofLookup lookup missing = .ok c := by
  obtain ⟨url, clientId, clientSecret, username, password, workshops⟩ := c
  obtain ⟨hurl, hid, hsecret, hname, hpassword, rfl⟩ := h
  rw [ofLookup_eq, given_bind_some hurl, given_bind_some hid, given_bind_some hsecret,
    given_bind_some hname, given_bind_some hpassword]
  rfl

theorem lacking?_eq_none_iff :
    lacking? lookup = none ↔ ∀ name ∈ names, ∃ value, lookup name = some value := by
  simp only [lacking?, List.find?_eq_none, Option.isNone_iff_eq_none, ← ne_eq,
    Option.ne_none_iff_exists']

theorem GivenBy.lacking?_eq_none (h : GivenBy lookup c) : lacking? lookup = none := by
  simp [lacking?, names, h.url, h.clientId, h.clientSecret, h.username, h.password]

/-- A lookup that lacks no name gives credentials. -/
theorem exists_givenBy (h : lacking? lookup = none) : ∃ c, GivenBy lookup c := by
  have all := lacking?_eq_none_iff.1 h
  simp only [names, List.forall_mem_cons] at all
  obtain ⟨⟨url, hurl⟩, ⟨clientId, hid⟩, ⟨clientSecret, hsecret⟩, ⟨username, hname⟩,
    ⟨password, hpassword⟩, -⟩ := all
  exact ⟨⟨url, clientId, clientSecret, username, password, []⟩, hurl, hid, hsecret, hname,
    hpassword, rfl⟩

theorem ofLookup_eq_ok_iff : ofLookup lookup missing = .ok c ↔ GivenBy lookup c := by
  refine ⟨fun h => ?_, ofLookup_of_givenBy⟩
  cases lacks : lacking? lookup with
  | some name => cases h.symm.trans (ofLookup_of_lacking lacks)
  | none =>
    obtain ⟨c', gives⟩ := exists_givenBy lacks
    cases h.symm.trans (ofLookup_of_givenBy gives)
    exact gives

theorem ofLookup_eq_error_iff {e : Failure} :
    ofLookup lookup missing = .error e ↔
      ∃ name, lacking? lookup = some name ∧ e = missing name := by
  refine ⟨fun h => ?_, fun ⟨name, lacks, eq⟩ => eq ▸ ofLookup_of_lacking lacks⟩
  cases lacks : lacking? lookup with
  | some name => exact ⟨name, rfl, Except.error.inj (h.symm.trans (ofLookup_of_lacking lacks))⟩
  | none =>
    obtain ⟨c, gives⟩ := exists_givenBy lacks
    cases h.symm.trans (ofLookup_of_givenBy gives)

theorem exists_ofLookup_iff :
    (∃ c, ofLookup lookup missing = .ok c) ↔ lacking? lookup = none :=
  ⟨fun ⟨_, h⟩ => (ofLookup_eq_ok_iff.1 h).lacking?_eq_none,
    fun h => (exists_givenBy h).imp fun _ => ofLookup_of_givenBy⟩

/-- A lookup matters only by the five names. -/
theorem ofLookup_congr {lookup' : String → Option String}
    (same : ∀ name ∈ names, lookup name = lookup' name) :
    ofLookup lookup missing = ofLookup lookup' missing := by
  simp only [names, List.forall_mem_cons] at same
  obtain ⟨url, clientId, clientSecret, username, password, -⟩ := same
  unfold ofLookup
  simp only [url, clientId, clientSecret, username, password]

/-! ## Variables and files -/

section

variable {fs : Files} {vars : Variables} {path : String} {bindings : List Dotenv.Binding}
  {fault : Dotenv.Fault}

theorem value_fromVariables (vars : Variables) :
    (fromVariables vars).run.value = ofLookup vars.get? .variableUnset :=
  Traced.value_ofExcept (ofLookup vars.get? .variableUnset)

theorem value_fromEnvFile_of_missing (absent : fs.exists? path = false) :
    (fromEnvFile fs vars path).run.value = .error (.envFileMissing path) := by
  unfold fromEnvFile
  rw [absent]
  rfl

theorem value_fromEnvFile_of_fault (there : fs.exists? path = true)
    (reads : Dotenv.read fs vars path = (bindings, some fault)) :
    (fromEnvFile fs vars path).run.value = .error (.envFileFault path fault) := by
  unfold fromEnvFile
  rw [there, reads]
  rfl

theorem value_fromEnvFile_of_read (there : fs.exists? path = true)
    (reads : Dotenv.read fs vars path = (bindings, none)) :
    (fromEnvFile fs vars path).run.value = ofBindings path bindings := by
  unfold fromEnvFile
  rw [there, reads]
  exact Traced.value_ofExcept (ofBindings path bindings)

variable {fs' : Files} {vars' : Variables}

theorem fromVariables_congr (same : ∀ name ∈ names, vars.get? name = vars'.get? name) :
    fromVariables vars = fromVariables vars' := by
  unfold fromVariables
  rw [ofLookup_congr same]

theorem fromEnvFile_congr (there : fs.exists? path = fs'.exists? path)
    (reads : fs.read path = fs'.read path)
    (same : ∀ content, fs.read path = .ok content → ∀ name ∈ Dotenv.references content,
      vars.get? name = vars'.get? name) :
    fromEnvFile fs vars path = fromEnvFile fs' vars' path := by
  unfold fromEnvFile
  rw [there, Dotenv.read_congr reads same]

end

/-! ## One file, two readers -/

/-- The last binding of a name is what a set of parameters holds for it. -/
theorem ofBindings_eq (path : String) (bindings : List Dotenv.Binding) :
    ofBindings path bindings =
      ofLookup (ParameterSet.setAll [] bindings).get? (.envFileLacks · path) :=
  ofLookup_congr fun name _ => (ParameterSet.get?_setAll bindings name).symm

theorem lacking?_get? (ps : ParameterSet) :
    lacking? ps.get? = names.find? fun name => decide (name ∉ ps.names) := by
  simp only [lacking?, ParameterSet.isNone_get?]

theorem lacking?_get?_eq_none_iff (ps : ParameterSet) :
    lacking? ps.get? = none ↔ ∀ name ∈ names, name ∈ ps.names := by
  simp [lacking?_get?]

/-- **Parameters and credentials read a dotenv file alike.** For a file that is there, parameters
cannot be taken from it exactly if credentials cannot because of a fault, and the fault is the same.
Otherwise credentials are taken from it exactly if all five names are among the parameters, with
the values that these have; and if one is not, the first that is not is reported. -/
theorem dotenv_readers_agree (fs : Files) (vars : Variables) (path : String)
    (there : fs.exists? path = true) :
    (∀ e, (ParameterSet.applyEnvFiles fs vars [path] []).value.1 = .error e ↔
      ∃ fault : Dotenv.Fault,
        e = .precondition s!"cannot read parameters data file {path}: {fault.message}" ∧
        (fromEnvFile fs vars path).run.value = .error (.envFileFault path fault)) ∧
    ∀ ps : ParameterSet, (ParameterSet.applyEnvFiles fs vars [path] []).value = (.ok (), ps) →
      ((∃ c, (fromEnvFile fs vars path).run.value = .ok c) ↔ ∀ name ∈ names, name ∈ ps.names) ∧
      (∀ c, (fromEnvFile fs vars path).run.value = .ok c ↔ GivenBy ps.get? c) ∧
      ∀ e, (fromEnvFile fs vars path).run.value = .error e ↔
        ∃ name, (names.find? fun name => decide (name ∉ ps.names)) = some name ∧
          e = .envFileLacks name path := by
  obtain ⟨⟨bindings, fault?⟩, reads⟩ : ∃ result, Dotenv.read fs vars path = result := ⟨_, rfl⟩
  cases fault? with
  | some fault =>
    obtain ⟨ps', applied⟩ := Source.value_apply_of_faults (.envFile reads) []
    rw [ParameterSet.applyEnvFiles_singleton, applied, value_fromEnvFile_of_fault there reads]
    refine ⟨fun e => ⟨fun h => ⟨fault, (Except.error.inj h).symm, rfl⟩, ?_⟩, fun ps h => ?_⟩
    · rintro ⟨fault', rfl, same⟩
      cases same
      rfl
    · cases congrArg Prod.fst h
  | none =>
    rw [ParameterSet.applyEnvFiles_singleton, Source.value_apply_of_gives (.envFile reads),
      value_fromEnvFile_of_read there reads, ofBindings_eq]
    refine ⟨fun e => ⟨nofun, ?_⟩, fun ps h => ?_⟩
    · rintro ⟨fault, -, faulty⟩
      obtain ⟨name, -, eq⟩ := ofLookup_eq_error_iff.1 faulty
      cases eq
    · cases h
      exact ⟨exists_ofLookup_iff.trans (lacking?_get?_eq_none_iff _),
        fun c => ofLookup_eq_ok_iff, fun e => by rw [ofLookup_eq_error_iff, lacking?_get?]⟩

/-- A tree with a dotenv file that binds the address twice, the second time by way of a name. -/
def rebound : Files where
  entries := [(["portal.env".toList], .file
    (Text.Utf8.bytes "WORKSHOP_PORTAL_URL=a\nHOST=b\nWORKSHOP_CLIENT_ID=c\n" ++
      Text.Utf8.bytes "WORKSHOP_CLIENT_SECRET=s\nWORKSHOP_USERNAME=u\nWORKSHOP_PASSWORD=pw\n" ++
      Text.Utf8.bytes "export WORKSHOP_PORTAL_URL=http://$HOST\n"))]

/-- The second address counts for both readers. -/
theorem dotenv_readers_agree_rebound :
    rebound.exists? "/portal.env" = true ∧
      (fromEnvFile rebound [] "/portal.env").run.value = .ok {
        url := "http://b", clientId := "c", clientSecret := "s", username := "u",
        password := "pw" } := by
  have there : rebound.exists? "/portal.env" = true := by decide +kernel
  obtain ⟨-, credentials, -⟩ := (dotenv_readers_agree rebound [] "/portal.env" there).2
    [⟨urlName, "http://b"⟩, ⟨"HOST", "b"⟩, ⟨clientIdName, "c"⟩, ⟨clientSecretName, "s"⟩,
      ⟨usernameName, "u"⟩, ⟨passwordName, "pw"⟩] (by decide +kernel)
  exact ⟨there, (credentials _).2 ⟨by decide, by decide, by decide, by decide, by decide, rfl⟩⟩

/-! ## One file, two environments -/

/-- Bindings lack the same name first if they bind the same names. -/
theorem ofBindings_eq_error_iff_of_names {bindings bindings' : List Dotenv.Binding}
    (same : bindings.map Prod.fst = bindings'.map Prod.fst) (path : String) (e : Failure) :
    ofBindings path bindings = .error e ↔ ofBindings path bindings' = .error e := by
  rw [ofBindings_eq, ofBindings_eq, ofLookup_eq_error_iff, ofLookup_eq_error_iff, lacking?_get?,
    lacking?_get?, ParameterSet.names_setAll, ParameterSet.names_setAll, same]

/-- Credentials cannot be taken from a file for the same reason whatever variables are set. -/
theorem fromEnvFile_eq_error_iff (fs : Files) (vars vars' : Variables) (path : String)
    (e : Failure) :
    (fromEnvFile fs vars path).run.value = .error e ↔
      (fromEnvFile fs vars' path).run.value = .error e := by
  cases there : fs.exists? path with
  | false => rw [value_fromEnvFile_of_missing there, value_fromEnvFile_of_missing there]
  | true =>
    obtain ⟨names, faults⟩ := Dotenv.read_outline fs vars vars' path
    cases first : Dotenv.read fs vars path with | mk bindings fault? =>
    cases second : Dotenv.read fs vars' path with | mk bindings' fault?' =>
    rw [first, second] at names faults
    obtain rfl : fault? = fault?' := faults
    cases fault? with
    | some fault =>
      rw [value_fromEnvFile_of_fault there first, value_fromEnvFile_of_fault there second]
    | none =>
      rw [value_fromEnvFile_of_read there first, value_fromEnvFile_of_read there second]
      exact ofBindings_eq_error_iff_of_names names path e

/-- **A dotenv file is read with the variables that it refers to.** Credentials cannot be taken from
a file for the same reason whatever variables are set. Those that can be taken from it depend on no
variables but those to which its values refer, and so on none at all if there is no dollar sign in
its lines. -/
theorem fromEnvFile_depends (fs : Files) (vars vars' : Variables) (path : String) :
    (∀ e, (fromEnvFile fs vars path).run.value = .error e ↔
      (fromEnvFile fs vars' path).run.value = .error e) ∧
    ((∀ content, fs.read path = .ok content → ∀ name ∈ Dotenv.references content,
      vars.get? name = vars'.get? name) → fromEnvFile fs vars path = fromEnvFile fs vars' path) ∧
    ((∀ content, fs.read path = .ok content → ∀ line ∈ (Dotenv.logicalLines content).1,
      '$' ∉ line) → fromEnvFile fs vars path = fromEnvFile fs vars' path) := by
  refine ⟨fromEnvFile_eq_error_iff fs vars vars' path, fromEnvFile_congr rfl rfl,
    fun plain => fromEnvFile_congr rfl rfl fun content reads name mem => ?_⟩
  rw [Dotenv.references_of_forall_not_mem (plain content reads)] at mem
  cases mem

/-- A dotenv file that binds a name and refers to it in the address. Its password looks like a
reference, but is none. -/
def borrowing : List UInt8 :=
  Text.Utf8.bytes "HOST=a\nWORKSHOP_PORTAL_URL=http://$HOST\nWORKSHOP_CLIENT_ID=c\n" ++
    Text.Utf8.bytes "WORKSHOP_CLIENT_SECRET=s\nWORKSHOP_USERNAME=u\n" ++
    Text.Utf8.bytes "WORKSHOP_PASSWORD='$USER' # not $HOME\n"

/-- A dotenv file that refers to nothing and lacks most names. -/
def addressOnly : List UInt8 := Text.Utf8.bytes "WORKSHOP_PORTAL_URL=http://a # not $HOST\n"

/-- A tree with these two files. -/
def borrowingFiles : Files where
  entries := [(["portal.env".toList], .file borrowing), (["address.env".toList], .file addressOnly)]

/-- Of the first file only `HOST` matters, and of the second nothing. -/
theorem fromEnvFile_depends_on_host :
    fromEnvFile borrowingFiles [("HOST", "b")] "/portal.env" =
      fromEnvFile borrowingFiles [("USER", "x"), ("HOST", "b"), ("HOME", "y")] "/portal.env" ∧
    fromEnvFile borrowingFiles [("HOST", "b")] "/address.env" =
      fromEnvFile borrowingFiles [] "/address.env" ∧
    (fromEnvFile borrowingFiles [(clientIdName, "c")] "/address.env").run.value =
      .error (.envFileLacks clientIdName "/address.env") := by
  refine ⟨(fromEnvFile_depends borrowingFiles _ _ "/portal.env").2.1 ?_,
    (fromEnvFile_depends borrowingFiles _ _ "/address.env").2.2 ?_,
    ((fromEnvFile_depends borrowingFiles [] _ "/address.env").1 _).1 ?_⟩
  · intro content reads name mem
    have found : borrowingFiles.read "/portal.env" = .ok borrowing := by decide +kernel
    cases found.symm.trans reads
    have refers : Dotenv.references borrowing = ["HOST"] := by decide +kernel
    obtain rfl : name = "HOST" := by simpa [refers] using mem
    decide
  · intro content reads
    have found : borrowingFiles.read "/address.env" = .ok addressOnly := by decide +kernel
    cases found.symm.trans reads
    decide +kernel
  · have there : borrowingFiles.exists? "/address.env" = true := by decide +kernel
    have reads : Dotenv.read borrowingFiles [] "/address.env" =
        ([(urlName, "http://a")], none) := by decide +kernel
    rw [value_fromEnvFile_of_read there reads]
    rfl

/-- A variable comes before the file's own binding: the address is another one if the name to which
it refers is also the name of a variable. -/
theorem fromEnvFile_borrows :
    (fromEnvFile borrowingFiles [] "/portal.env").run.value = .ok {
      url := "http://a", clientId := "c", clientSecret := "s", username := "u",
      password := "$USER" } ∧
    (fromEnvFile borrowingFiles [("HOST", "b")] "/portal.env").run.value = .ok {
      url := "http://b", clientId := "c", clientSecret := "s", username := "u",
      password := "$USER" } := by
  have there : borrowingFiles.exists? "/portal.env" = true := by decide +kernel
  have alone : Dotenv.read borrowingFiles [] "/portal.env" =
      ([("HOST", "a"), (urlName, "http://a"), (clientIdName, "c"), (clientSecretName, "s"),
        (usernameName, "u"), (passwordName, "$USER")], none) := by decide +kernel
  have among : Dotenv.read borrowingFiles [("HOST", "b")] "/portal.env" =
      ([("HOST", "a"), (urlName, "http://b"), (clientIdName, "c"), (clientSecretName, "s"),
        (usernameName, "u"), (passwordName, "$USER")], none) := by decide +kernel
  rw [value_fromEnvFile_of_read there alone, value_fromEnvFile_of_read there among]
  exact ⟨rfl, rfl⟩

end TrainingPortal.Credentials
