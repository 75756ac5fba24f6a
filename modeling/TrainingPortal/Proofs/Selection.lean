import TrainingPortal.Proofs.Credentials
import TrainingPortal.Proofs.Dotenv
import TrainingPortal.Selection

/-!
# The first way decides

A selection may say in several ways which portal it means, and the first of them decides
(`Selection.resolve_uses_first`): what a selection comes to is what this way comes to by itself
(`Way.Comes`), and it stays the same wherever that way reads the same (`Way.Agree`), whatever the
selection says in later ways and whatever these would read. The result is settled in two steps. A
selection is resolved by the computation of its first way (`resolve_of_first`), and of each of these
computations one lemma says what it comes to and one what it depends on.
-/

namespace TrainingPortal

namespace Profiles

variable {p : Profiles} {name : String} {c : Credentials}

theorem current?_eq_some_iff :
    p.current? = some (name, c) ↔ p.current = some name ∧ p.portals.get? name = some c := by
  simp [current?, Option.bind_eq_some_iff]

theorem current?_eq_none_iff :
    p.current? = none ↔ ∀ name, p.current = some name → p.portals.get? name = none := by
  simp only [Option.eq_none_iff_forall_ne_some, ne_eq, Prod.forall, current?_eq_some_iff, not_and]
  exact forall_congr' fun _ => forall_comm

end Profiles

namespace Selection

/-- What a selection is resolved with. -/
structure Situation where
  profiles : Profiles := {}
  files : Files := {}
  vars : Variables := []

/-- The ways to say which portal is meant, with what is said. -/
inductive Way
  | address (url clientId clientSecret username password : String)
  | environment
  | envFile (path : String)
  | profile (name : String)
  /-- Nothing is said, which stands for the current profile. -/
  | current

/-- The first way that is present. -/
inductive First : Selection → Way → Prop
  | address {s : Selection} {url : String} (given : s.portalUrl = some url) :
    First s (.address url (s.clientId.getD "") (s.clientSecret.getD "") (s.username.getD "")
      (s.password.getD ""))
  | environment {s : Selection} (address : s.portalUrl = none) (given : s.fromEnv = true) :
    First s .environment
  | envFile {s : Selection} {path : String} (address : s.portalUrl = none)
    (environment : s.fromEnv = false) (given : s.fromEnvFile = some path) : First s (.envFile path)
  | profile {s : Selection} {name : String} (address : s.portalUrl = none)
    (environment : s.fromEnv = false) (envFile : s.fromEnvFile = none)
    (given : s.portal = some name) : First s (.profile name)
  | current {s : Selection} (address : s.portalUrl = none) (environment : s.fromEnv = false)
    (envFile : s.fromEnvFile = none) (profile : s.portal = none) : First s .current

namespace Way

/-- Whether a way leads to a profile that is kept. -/
def Kept : Way → Prop
  | address .. | environment | envFile _ => False
  | profile _ | current => True

/-- What a way comes to by itself. -/
inductive Comes (w : Situation) : Way → Except Failure Target → Prop
  | address {url clientId clientSecret username password : String} :
    Comes w (.address url clientId clientSecret username password)
      (.ok ⟨url, { url, clientId, clientSecret, username, password }⟩)
  | environment {c : Credentials} (gives : Credentials.GivenBy w.vars.get? c) :
    Comes w .environment (.ok ⟨c.url, c⟩)
  | unset {name : String} (lacks : Credentials.lacking? w.vars.get? = some name) :
    Comes w .environment (.error (.variableUnset name))
  | envFile {path : String} {bindings : List Dotenv.Binding} {c : Credentials}
    (there : w.files.exists? path = true)
    (reads : Dotenv.read w.files w.vars path = (bindings, none))
    (gives : Credentials.GivenBy (fun name => bindings.reverse.lookup name) c) :
    Comes w (.envFile path) (.ok ⟨c.url, c⟩)
  | missing {path : String} (absent : w.files.exists? path = false) :
    Comes w (.envFile path) (.error (.envFileMissing path))
  | faulty {path : String} {bindings : List Dotenv.Binding} {fault : Dotenv.Fault}
    (there : w.files.exists? path = true)
    (reads : Dotenv.read w.files w.vars path = (bindings, some fault)) :
    Comes w (.envFile path) (.error (.envFileFault path fault))
  | unbound {path name : String} {bindings : List Dotenv.Binding}
    (there : w.files.exists? path = true)
    (reads : Dotenv.read w.files w.vars path = (bindings, none))
    (lacks : Credentials.lacking? (fun name => bindings.reverse.lookup name) = some name) :
    Comes w (.envFile path) (.error (.envFileLacks name path))
  | profile {name : String} {c : Credentials} (kept : w.profiles.portals.get? name = some c) :
    Comes w (.profile name) (.ok ⟨name, c⟩)
  | unknown {name : String} (unknown : w.profiles.portals.get? name = none) :
    Comes w (.profile name) (.error (.profileUnknown name))
  | current {name : String} {c : Credentials} (selected : w.profiles.current = some name)
    (kept : w.profiles.portals.get? name = some c) : Comes w .current (.ok ⟨name, c⟩)
  | unselected (none_kept : ∀ name, w.profiles.current = some name →
      w.profiles.portals.get? name = none) : Comes w .current (.error .noneSelected)

/-- Whether two situations agree in what a way reads. -/
def Agree (w w' : Situation) : Way → Prop
  | address .. => True
  | environment => ∀ name ∈ Credentials.names, w.vars.get? name = w'.vars.get? name
  | envFile path =>
    w.files.exists? path = w'.files.exists? path ∧ w.files.read path = w'.files.read path ∧
      ∀ name, w.vars.get? name = w'.vars.get? name
  | profile name => w.profiles.portals.get? name = w'.profiles.portals.get? name
  | current => w.profiles.current? = w'.profiles.current?

/-- The computation of a way. -/
def run (w : Situation) : Way → ExceptT Failure Traced Target
  | address url clientId clientSecret username password => do
    let c ← Credentials.fromCommandLine url clientId clientSecret username password
    return ⟨url, c⟩
  | environment => do
    let c ← Credentials.fromVariables w.vars
    return ⟨c.url, c⟩
  | envFile path => do
    let c ← Credentials.fromEnvFile w.files w.vars path
    return ⟨c.url, c⟩
  | profile name =>
    match w.profiles.portals.get? name with
    | some c => return ⟨name, c⟩
    | none => throw (.profileUnknown name)
  | current =>
    match w.profiles.current? with
    | some (name, c) => do
      Traced.log .debug .source s!"Using current portal {name}"
      return ⟨name, c⟩
    | none => throw .noneSelected

end Way

variable {s s' : Selection} {w w' : Situation} {way other : Way}

/-! ## The first way of a selection -/

theorem exists_first (s : Selection) : ∃ way, First s way := by
  cases address : s.portalUrl with
  | some url => exact ⟨_, .address address⟩
  | none =>
    cases environment : s.fromEnv with
    | true => exact ⟨_, .environment address environment⟩
    | false =>
      cases envFile : s.fromEnvFile with
      | some path => exact ⟨_, .envFile address environment envFile⟩
      | none =>
        cases profile : s.portal with
        | some name => exact ⟨_, .profile address environment envFile profile⟩
        | none => exact ⟨_, .current address environment envFile profile⟩

theorem First.unique (h : First s way) (h' : First s other) : other = way := by
  cases h <;> cases h' <;> simp_all

/-- A selection is resolved by its first way. -/
theorem resolve_of_first (h : First s way) (w : Situation) :
    s.resolve w.profiles w.files w.vars = way.run w := by
  unfold resolve
  cases h with
  | address given => rw [given]; rfl
  | environment address given => rw [address, given]; rfl
  | envFile address environment given => rw [address, environment, given]; rfl
  | profile address environment envFile given => rw [address, environment, envFile, given]; rfl
  | current address environment envFile profile =>
    rw [address, environment, envFile, profile]
    rfl

/-! ## What a way comes to -/

theorem Way.value_run_environment (w : Situation) :
    (run w environment).run.value =
      Credentials.ofLookup w.vars.get? .variableUnset >>= fun c => .ok ⟨c.url, c⟩ := by
  rw [run, Traced.value_bind, Credentials.value_fromVariables]
  rfl

theorem Way.value_run_envFile (w : Situation) (path : String) :
    (run w (envFile path)).run.value =
      (Credentials.fromEnvFile w.files w.vars path).run.value >>= fun c => .ok ⟨c.url, c⟩ := by
  rw [run, Traced.value_bind]
  rfl

theorem Way.Comes.value {r : Except Failure Target} (h : way.Comes w r) :
    (way.run w).run.value = r := by
  cases h with
  | address => rfl
  | environment gives =>
    rw [value_run_environment, Credentials.ofLookup_of_givenBy gives]
    rfl
  | unset lacks =>
    rw [value_run_environment, Credentials.ofLookup_of_lacking lacks]
    rfl
  | envFile there reads gives =>
    rw [value_run_envFile, Credentials.value_fromEnvFile_of_read there reads,
      Credentials.ofBindings, Credentials.ofLookup_of_givenBy gives]
    rfl
  | missing absent =>
    rw [value_run_envFile, Credentials.value_fromEnvFile_of_missing absent]
    rfl
  | faulty there reads =>
    rw [value_run_envFile, Credentials.value_fromEnvFile_of_fault there reads]
    rfl
  | unbound there reads lacks =>
    rw [value_run_envFile, Credentials.value_fromEnvFile_of_read there reads,
      Credentials.ofBindings, Credentials.ofLookup_of_lacking lacks]
    rfl
  | profile kept =>
    rw [run, kept]
    rfl
  | unknown unknown =>
    rw [run, unknown]
    rfl
  | current selected kept =>
    rw [run, Profiles.current?_eq_some_iff.2 ⟨selected, kept⟩]
    rfl
  | unselected none_kept =>
    rw [run, Profiles.current?_eq_none_iff.2 none_kept]
    rfl

/-- A target that comes of a kept profile is this profile under its name. -/
theorem Way.Comes.kept {target : Target} (h : way.Comes w (.ok target)) (kept : way.Kept) :
    w.profiles.portals.get? target.label = some target.credentials := by
  cases h with
  | address | environment | envFile => exact kept.elim
  | profile stored | current _ stored => exact stored

/-- A target from outside is labelled with its address and has no workshops. -/
theorem Way.Comes.plain {target : Target} (h : way.Comes w (.ok target)) (outside : ¬ way.Kept) :
    target.label = target.credentials.url ∧ target.credentials.workshops = [] := by
  cases h with
  | address => exact ⟨rfl, rfl⟩
  | environment gives | envFile _ _ gives => exact ⟨rfl, gives.workshops⟩
  | profile | current => exact (outside trivial).elim

/-- Every way comes to something. -/
theorem Way.exists_comes (w : Situation) (way : Way) : ∃ r, way.Comes w r := by
  cases way with
  | address url clientId clientSecret username password => exact ⟨_, .address⟩
  | environment =>
    cases lacks : Credentials.lacking? w.vars.get? with
    | some name => exact ⟨_, .unset lacks⟩
    | none =>
      obtain ⟨c, gives⟩ := Credentials.exists_givenBy lacks
      exact ⟨_, .environment gives⟩
  | envFile path =>
    cases there : w.files.exists? path with
    | false => exact ⟨_, .missing there⟩
    | true =>
      obtain ⟨⟨bindings, fault?⟩, reads⟩ :
        ∃ result, Dotenv.read w.files w.vars path = result := ⟨_, rfl⟩
      cases fault? with
      | some fault => exact ⟨_, .faulty there reads⟩
      | none =>
        cases lacks : Credentials.lacking? fun name => bindings.reverse.lookup name with
        | some name => exact ⟨_, .unbound there reads lacks⟩
        | none =>
          obtain ⟨c, gives⟩ := Credentials.exists_givenBy lacks
          exact ⟨_, .envFile there reads gives⟩
  | profile name =>
    cases kept : w.profiles.portals.get? name with
    | some c => exact ⟨_, .profile kept⟩
    | none => exact ⟨_, .unknown kept⟩
  | current =>
    cases selected : w.profiles.current? with
    | some current =>
      obtain ⟨selected, kept⟩ := Profiles.current?_eq_some_iff.1 selected
      exact ⟨_, .current selected kept⟩
    | none => exact ⟨_, .unselected (Profiles.current?_eq_none_iff.1 selected)⟩

theorem Way.comes_iff {r : Except Failure Target} :
    way.Comes w r ↔ (way.run w).run.value = r := by
  refine ⟨Comes.value, fun h => ?_⟩
  obtain ⟨r', comes⟩ := exists_comes w way
  exact h ▸ comes.value ▸ comes

/-! ## What a way depends on -/

theorem Way.run_congr (h : way.Agree w w') : way.run w = way.run w' := by
  cases way with
  | address url clientId clientSecret username password => rfl
  | environment => rw [run, run, Credentials.fromVariables_congr h]
  | envFile path =>
    rw [run, run, Credentials.fromEnvFile_congr h.1 h.2.1 fun _ _ name _ => h.2.2 name]
  | profile name =>
    change w.profiles.portals.get? name = w'.profiles.portals.get? name at h
    rw [run, run, h]
  | current =>
    change w.profiles.current? = w'.profiles.current? at h
    rw [run, run, h]

/-! ## The result -/

/-- **The first way decides.** A selection says in exactly one way first which portal it means. What
it comes to is what this way comes to by itself, so that a failure of this way is the failure of the
selection, whatever the later ways would come to. Another selection whose first way is the same,
resolved in any situation that agrees in what this way reads, comes to the same and logs the same.
A target that comes of a kept profile is this profile under its name; any other is labelled with its
address and has no workshops. -/
theorem resolve_uses_first (s : Selection) (w : Situation) :
    ∃ way, First s way ∧ (∀ other, First s other → other = way) ∧
      (∀ r, (s.resolve w.profiles w.files w.vars).run.value = r ↔ way.Comes w r) ∧
      (∀ s' w', First s' way → way.Agree w w' →
        s'.resolve w'.profiles w'.files w'.vars = s.resolve w.profiles w.files w.vars) ∧
      ∀ target, (s.resolve w.profiles w.files w.vars).run.value = .ok target →
        (way.Kept → w.profiles.portals.get? target.label = some target.credentials) ∧
        (¬ way.Kept →
          target.label = target.credentials.url ∧ target.credentials.workshops = []) := by
  obtain ⟨way, first⟩ := exists_first s
  simp only [resolve_of_first first]
  refine ⟨way, first, fun other => first.unique, fun r => Way.comes_iff.symm, ?_, ?_⟩
  · intro s' w' first' agree
    rw [resolve_of_first first', Way.run_congr agree]
  · intro target comes
    exact ⟨(Way.comes_iff.2 comes).kept, (Way.comes_iff.2 comes).plain⟩

/-- A situation without files and variables, in which one profile is kept. -/
def profileOnly : Situation where
  profiles := Profiles.add {} "main"
    { url := "http://a.test", clientId := "c", clientSecret := "s", username := "u",
      password := "pw", workshops := ["lab"] }

/-- A dotenv file that is missing is not made up for by a profile. -/
theorem resolve_uses_first_missing_file :
    (resolve { fromEnvFile := some "/portal.env", portal := some "main" } profileOnly.profiles
      profileOnly.files profileOnly.vars).run.value = .error (.envFileMissing "/portal.env") ∧
    ∃ c, Way.Comes profileOnly (.profile "main") (.ok ⟨"main", c⟩) := by
  obtain ⟨way, -, only, comes, -⟩ := resolve_uses_first
    { fromEnvFile := some "/portal.env", portal := some "main" } profileOnly
  obtain rfl := only (.envFile "/portal.env") (.envFile rfl rfl rfl)
  exact ⟨(comes _).2 (.missing (by decide +kernel)), _, .profile rfl⟩

end Selection

end TrainingPortal
