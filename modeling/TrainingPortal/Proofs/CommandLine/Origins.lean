import TrainingPortal.Proofs.CommandLine.Frames
import TrainingPortal.Proofs.Commands.Stages

/-!
# Flags that say which portal is meant

An accepted command line names at most one portal of its own, and all flags of the robot account or
none. With an address it has all of them, so the credentials are those given
(`PortalCommand.flags_go_together`). Without one it has none, unless credentials are taken from
variables or from a file: then the flags of the robot account are accepted and ignored
(`PortalCommand.flags_ignored`).
-/

namespace TrainingPortal

namespace Selection

/-- The flags of the robot account. -/
def robot (s : Selection) : List (Option String) :=
  [s.clientId, s.clientSecret, s.username, s.password]

/-- Which of the flags that each name a portal of their own were given. -/
def origins (s : Selection) : List Bool := [s.portalUrl.isSome, s.fromEnv, s.fromEnvFile.isSome]

/-- What the rules of a command line ask of a selection. -/
structure Coherent (s : Selection) : Prop where
  single : s.origins.count true ≤ 1
  complete : s.portalUrl.isSome = true ∨ (∃ flag ∈ s.robot, flag.isSome = true) →
    ∀ flag ∈ s.robot, flag.isSome = true
  grounded : (∃ flag ∈ s.robot, flag.isSome = true) → true ∈ s.origins

variable {s : Selection}

theorem Coherent.portalUrl_iff (h : s.Coherent)
    (plain : (∃ flag ∈ s.robot, flag.isSome = true) →
      s.fromEnv = false ∧ s.fromEnvFile = none) :
    s.portalUrl.isSome = true ↔ ∀ flag ∈ s.robot, flag.isSome = true := by
  refine ⟨fun url => h.complete (.inl url), fun all => ?_⟩
  have given : ∃ flag ∈ s.robot, flag.isSome = true :=
    ⟨s.clientId, List.mem_cons_self, all _ List.mem_cons_self⟩
  obtain ⟨env, file⟩ := plain given
  simpa [origins, env, file] using h.grounded given

theorem resolve_of_portalUrl {url id secret user password : String}
    (h : s.portalUrl = some url)
    (flags : s.robot = [some id, some secret, some user, some password])
    (profiles : Profiles) (fs : Files) (vars : Variables) :
    (s.resolve profiles fs vars).run.value =
      .ok ⟨url, { url, clientId := id, clientSecret := secret, username := user, password }⟩ := by
  obtain ⟨hid, hsecret, huser, hpassword⟩ :
      s.clientId = some id ∧ s.clientSecret = some secret ∧ s.username = some user ∧
        s.password = some password := by
    simpa [robot] using flags
  rw [resolve, h, hid, hsecret, huser, hpassword]
  rfl

theorem Coherent.resolve (h : s.Coherent) {url : String} (given : s.portalUrl = some url) :
    ∃ id secret user password, s.robot = [some id, some secret, some user, some password] ∧
      ∀ profiles fs vars, (s.resolve profiles fs vars).run.value =
        .ok ⟨url, { url, clientId := id, clientSecret := secret, username := user, password }⟩ := by
  have all : ∀ flag ∈ s.robot, flag.isSome = true := h.complete (.inl (by rw [given]; rfl))
  simp only [robot, List.forall_mem_cons, Option.isSome_iff_exists] at all
  obtain ⟨⟨id, hid⟩, ⟨secret, hsecret⟩, ⟨user, huser⟩, ⟨password, hpassword⟩, -⟩ := all
  have flags : s.robot = [some id, some secret, some user, some password] := by
    rw [robot, hid, hsecret, huser, hpassword]
  exact ⟨id, secret, user, password, flags, resolve_of_portalUrl given flags⟩

end Selection

namespace CommandLine

/-! ## The commands of the program -/

theorem mem_of_within {c : Command} (h : Within program c) :
    c ∈ program :: program.children ++ program.children.flatMap Command.children := by
  induction h with
  | program => exact List.mem_cons_self
  | @child c child h name found ih =>
    have mem : child ∈ c.children := List.mem_of_find?_eq_some found
    rcases List.mem_append.1 ih with ih | ih
    · rcases List.mem_cons.1 ih with rfl | ih
      · exact List.mem_append_left _ (List.mem_cons_of_mem _ mem)
      · exact List.mem_append_right _ (List.mem_flatMap.2 ⟨c, ih, mem⟩)
    · -- there are no commands below these
      have leaves : ((program.children.flatMap Command.children).all fun c =>
        c.children.isEmpty) = true := rfl
      have leaf := List.all_eq_true.1 leaves c ih
      rw [List.isEmpty_iff.1 leaf] at mem
      cases mem

/-- Whether a command has the arguments that say which portal is meant, and no others of these
names. -/
def MeansPortal (c : Command) : Prop :=
  ∃ name aliases arguments, c = portalLeaf name aliases arguments ∧
    ∀ a ∈ arguments, a.name ∉ originArguments ++ robotArguments

/-- The names of the commands that talk to a portal. -/
def portalCommands : List String := ["request", "catalog", "terminate"]

/-- A command named as one that talks to a portal has the arguments for it. -/
theorem meansPortal_of_within {c : Command} (h : Within program c)
    (named : c.name ∈ portalCommands) : MeansPortal c := by
  have those : (program :: program.children ++ program.children.flatMap Command.children).filter
      (fun c => portalCommands.contains c.name) =
        [requestCommand, catalogCommand, terminateCommand] := rfl
  have mem : c ∈ [requestCommand, catalogCommand, terminateCommand] :=
    those ▸ List.mem_filter.2 ⟨mem_of_within h, List.elem_eq_true_of_mem named⟩
  rcases List.mem_cons.1 mem with rfl | mem
  · exact ⟨_, _, _, rfl, by decide⟩
  rcases List.mem_cons.1 mem with rfl | mem
  · exact ⟨_, _, _, rfl, by decide⟩
  obtain rfl := List.mem_singleton.1 mem
  exact ⟨_, _, _, rfl, by decide⟩

/-! ## What a frame says about the portal -/

/-- The options with the credentials of a portal, or with the file that holds them. -/
def valuedArguments : List String := "portal-url" :: "from-env-file" :: robotArguments

namespace Frame

variable {f : Frame}

/-- An option about the portal was given exactly if it has a value. -/
theorem isSome_value?_of_meansPortal (h : f.Fits) (means : MeansPortal f.command) {name : String}
    (valued : name ∈ valuedArguments) : (f.value? name).isSome = f.has name := by
  obtain ⟨_, _, arguments, command, others⟩ := means
  have known : ∀ name ∈ valuedArguments, name ∈ originArguments ++ robotArguments := by decide
  have forms : ∀ a ∈ commonArguments ++ portalArguments, a.name ∈ valuedArguments →
      a.form = .option .text ∨ a.form = .option .path := by decide
  refine isSome_value? h fun a mem same => ?_
  subst same
  have form : a.form = .option .text ∨ a.form = .option .path := by
    rw [command] at mem
    rcases List.mem_append.1 mem with mem | mem
    · rcases List.mem_append.1 mem with mem | mem
      · exact forms a (List.mem_append_left _ mem) valued
      · exact absurd (known _ valued) (others a mem)
    · exact forms a (List.mem_append_right _ mem) valued
  exact form.elim (⟨_, ·⟩) (⟨_, ·⟩)

theorem origins_selection (h : f.Fits) (means : MeansPortal f.command) :
    f.selection.origins = originArguments.map f.has := by
  have url : f.selection.portalUrl.isSome = f.has "portal-url" :=
    isSome_value?_of_meansPortal h means (by decide)
  have file : f.selection.fromEnvFile.isSome = f.has "from-env-file" :=
    isSome_value?_of_meansPortal h means (by decide)
  rw [Selection.origins, url, file]
  rfl

theorem robot_selection (h : f.Fits) (means : MeansPortal f.command) :
    f.selection.robot.map Option.isSome = robotArguments.map f.has := by
  have values : f.selection.robot = robotArguments.map f.value? := rfl
  rw [values, List.map_map]
  exact List.map_congr_left fun name mem =>
    isSome_value?_of_meansPortal h means (List.mem_cons_of_mem _ (List.mem_cons_of_mem _ mem))

/-- **What a command says about the portal** keeps the rules of the command. -/
theorem coherent_selection (h : f.Fits) (obeys : f.Obeys) (means : MeansPortal f.command) :
    f.selection.Coherent := by
  have origins := origins_selection h means
  have robot := robot_selection h means
  -- what holds of the flags holds of the arguments
  have all : (∀ flag ∈ f.selection.robot, flag.isSome = true) ↔
      ∀ name ∈ robotArguments, f.has name = true := by
    rw [← List.forall_mem_map (P := (· = true)), robot, List.forall_mem_map]
  have any : (∃ flag ∈ f.selection.robot, flag.isSome = true) ↔
      ∃ name ∈ robotArguments, f.has name = true := by
    rw [← List.mem_map, robot, List.mem_map]
  have url : f.selection.portalUrl.isSome = f.has "portal-url" :=
    isSome_value?_of_meansPortal h means (by decide)
  obtain ⟨_, _, _, command, -⟩ := means
  have exclusive : (originArguments.filter f.has).length ≤ 1 := by
    have := obeys.exclusive
    rwa [command] at this
  have rules : ∀ r ∈ portalRequirements, (∃ name ∈ r.anyOf, f.has name = true) →
      (∀ name ∈ r.needed, f.has name = true) ∨ ∃ name ∈ r.unlessAny, f.has name = true := by
    have := obeys.requirements
    rwa [command] at this
  have complete := rules _ List.mem_cons_self
  have grounded := rules _ (List.mem_cons_of_mem _ List.mem_cons_self)
  refine ⟨?_, fun given => ?_, fun given => ?_⟩
  · rw [origins, List.count, List.countP_map, List.countP_eq_length_filter]
    simpa [Function.comp_def] using exclusive
  · -- nothing excuses what an address and the flags need
    have asked : ∃ name ∈ "portal-url" :: robotArguments, f.has name = true := by
      rcases given with given | given
      · exact ⟨_, List.mem_cons_self, url ▸ given⟩
      · obtain ⟨name, mem, given⟩ := any.1 given
        exact ⟨name, List.mem_cons_of_mem _ mem, given⟩
    exact all.2 ((complete asked).resolve_right (by rintro ⟨_, ⟨⟩, _⟩))
  · rw [origins, List.mem_map]
    rcases grounded (any.1 given) with needed | ⟨name, mem, excused⟩
    · exact ⟨_, List.mem_cons_self, needed _ List.mem_cons_self⟩
    · exact ⟨name, List.mem_cons_of_mem _ mem, excused⟩

end Frame

end CommandLine

/-! ## Accepted command lines -/

namespace PortalCommand

open CommandLine

/-- A command that is asked for by a frame is the command of that frame, and says what it says about
the portal. -/
theorem of_action {f : Frame} {c : PortalCommand} (h : f.action = c.action) :
    f.command.name ∈ portalCommands ∧ f.selection = c.selection := by
  unfold Frame.action at h
  split at h
  case h_1 named | h_2 named | h_3 named =>
    cases c <;> cases h
    exact ⟨named ▸ by decide, rfl⟩
  all_goals cases c <;> cases h

variable {vars : Variables} {words : List String} {options : CommonOptions} {c : PortalCommand}

/-- What an accepted command line says about the portal keeps the rules for it. -/
theorem coherent_of_read (accepted : read vars words = .ok ⟨options, c.action⟩) :
    c.selection.Coherent := by
  obtain ⟨frames, parsed, accepted⟩ := bind_eq_ok_iff.1 accepted
  obtain ⟨f, parents, rfl, fits, obeys, within⟩ := exists_innermost parsed
  have same : f.action = c.action := congrArg Invocation.action (Except.ok.inj accepted)
  obtain ⟨named, selection⟩ := of_action same
  rw [← selection]
  exact Frame.coherent_selection fits obeys (meansPortal_of_within within named)

/-- **Flags that say which portal is meant.** An accepted command line names at most one portal of
its own. It has all flags of the robot account if it has one of them or an address, and one of them
only if it names a portal. Unless such a flag stands beside another origin of credentials, the
address was given exactly if these flags were; and with an address the credentials are those given,
whatever the profiles, files and variables are. -/
theorem flags_go_together (accepted : read vars words = .ok ⟨options, c.action⟩) :
    c.selection.origins.count true ≤ 1 ∧
    (c.selection.portalUrl.isSome = true ∨ (∃ flag ∈ c.selection.robot, flag.isSome = true) →
      ∀ flag ∈ c.selection.robot, flag.isSome = true) ∧
    ((∃ flag ∈ c.selection.robot, flag.isSome = true) → true ∈ c.selection.origins) ∧
    (((∃ flag ∈ c.selection.robot, flag.isSome = true) →
        c.selection.fromEnv = false ∧ c.selection.fromEnvFile = none) →
      (c.selection.portalUrl.isSome = true ↔
        ∀ flag ∈ c.selection.robot, flag.isSome = true)) ∧
    ∀ url, c.selection.portalUrl = some url →
      ∃ id secret user password,
        c.selection.robot = [some id, some secret, some user, some password] ∧
        ∀ profiles fs vars, (c.selection.resolve profiles fs vars).run.value =
          .ok ⟨url, { url, clientId := id, clientSecret := secret, username := user, password }⟩ :=
  have coherent := coherent_of_read accepted
  ⟨coherent.single, coherent.complete, coherent.grounded, coherent.portalUrl_iff,
    fun _ given => coherent.resolve given⟩

/-- The flags in any order: the credentials are those given. -/
theorem flags_go_together_any_order :
    ∃ s, read [] ["workshop", "catalog", "--password", "p", "--portal-url", "u", "--username", "r",
        "--client-secret", "s", "--client-id", "c"] = .ok ⟨{}, (catalog s).action⟩ ∧
      s.portalUrl = some "u" ∧ s.robot = [some "c", some "s", some "r", some "p"] ∧
      ∃ id secret user password, s.robot = [some id, some secret, some user, some password] ∧
        ∀ profiles fs vars, (s.resolve profiles fs vars).run.value = .ok ⟨"u",
          { url := "u", clientId := id, clientSecret := secret, username := user, password }⟩ := by
  let s : Selection := ⟨none, some "u", some "c", some "s", some "r", some "p", false, none⟩
  have accepted : read [] ["workshop", "catalog", "--password", "p", "--portal-url", "u",
      "--username", "r", "--client-secret", "s", "--client-id", "c"] =
        .ok ⟨{}, (catalog s).action⟩ := by
    decide +kernel
  exact ⟨s, accepted, rfl, rfl, (flags_go_together accepted).2.2.2.2 "u" rfl⟩

/-- Flags of the robot account beside `--from-env`: no address is given, and they make no
difference. -/
theorem flags_ignored :
    ∃ s, read [] ["workshop", "catalog", "--from-env", "--client-id", "a", "--client-secret", "b",
        "--username", "c", "--password", "d"] = .ok ⟨{}, (catalog s).action⟩ ∧
      (∀ flag ∈ s.robot, flag.isSome = true) ∧ s.portalUrl = none ∧
      ∀ profiles fs vars, s.resolve profiles fs vars =
        Selection.resolve { fromEnv := true } profiles fs vars := by
  refine ⟨⟨none, none, some "a", some "b", some "c", some "d", true, none⟩, ?_, ?_, rfl, ?_⟩
  · decide +kernel
  · decide
  · exact fun _ _ _ => rfl

end PortalCommand

end TrainingPortal
