import TrainingPortal.CommandLine.Invocation
import TrainingPortal.Proofs.Stateful

/-!
# What a frame holds

Whatever the words of a command line are, a frame only takes arguments of its command, and an option
only with a value (`Frame.Fits`). Every step of the scanner keeps this and the command of the frame
(`Frame.Follows`), so it holds of the innermost frame of a command line that is accepted, whose
command is one of the program (`exists_innermost`). There an option was given exactly if it has a
value (`Frame.isSome_value?`), and the rules of the command hold (`Frame.Obeys`).
-/

namespace TrainingPortal.CommandLine

open Text

/-! ## Frames and their steps -/

namespace Frame

/-- Whether a frame holds arguments of its command, the options among them with a value. -/
structure Fits (f : Frame) : Prop where
  given : ∀ g ∈ f.given, ∃ a ∈ f.command.arguments, a.name = g.name ∧
    ∀ kind, a.form = .option kind → g.value.isSome = true
  pending : ∀ p ∈ f.pending, p.1 ∈ f.command.arguments

/-- Whether a frame is a later state of another one, and fits its command. -/
structure Follows (f f' : Frame) : Prop where
  command : f'.command = f.command
  fits : f'.Fits

variable {f f' f'' : Frame} {a : Argument}

theorem Fits.start (c : Command) : Fits { command := c } :=
  ⟨List.forall_mem_nil _, nofun⟩

theorem Follows.trans (h : f.Follows f') (h' : f'.Follows f'') : f.Follows f'' :=
  ⟨h'.command.trans h.command, h'.fits⟩

theorem Fits.trail (h : f.Fits) : f.Follows { f with trailing := true } := ⟨rfl, h.given, h.pending⟩

theorem Fits.await (h : f.Fits) (mem : a ∈ f.command.arguments) (value : Option String) :
    f.Follows { f with pending := some (a, value) } := by
  refine ⟨rfl, h.given, ?_⟩
  rintro _ ⟨⟩
  exact mem

theorem Fits.add (h : f.Fits) (mem : a ∈ f.command.arguments) {g : Given} (name : g.name = a.name)
    (valued : ∀ kind, a.form = .option kind → g.value.isSome = true) :
    f.Follows { f with given := f.given ++ [g] } := by
  refine ⟨rfl, fun g' mem' => ?_, h.pending⟩
  rcases List.mem_append.1 mem' with mem' | mem'
  · exact h.given g' mem'
  · obtain rfl := List.mem_singleton.1 mem'
    exact ⟨a, mem, name.symm, valued⟩

/-! ### Steps that keep what fits -/

/-- Whether a step that starts with a frame can only come to one that follows it. -/
def Keeps (f : Frame) (x : Except UsageStop Frame) : Prop := ∀ f', x = .ok f' → f.Follows f'

section Keeps

variable {x : Except UsageStop Frame}

theorem Keeps.error (stop : UsageStop) : f.Keeps (.error stop) := nofun

theorem Keeps.ok (h : f.Follows f') : f.Keeps (.ok f') := by
  rintro _ ⟨⟩
  exact h

theorem Keeps.after {α : Type} {y : Except UsageStop α} {next : α → Except UsageStop Frame}
    (h : ∀ a, f.Keeps (next a)) : f.Keeps (y >>= next) := by
  intro f' eq
  obtain ⟨a, -, eq⟩ := bind_eq_ok_iff.1 eq
  exact h a f' eq

theorem Keeps.bind {next : Frame → Except UsageStop Frame} (h : f.Keeps x)
    (h' : ∀ f', f.Follows f' → f'.Keeps (next f')) : f.Keeps (x >>= next) := by
  intro f'' eq
  obtain ⟨f', eq', eq⟩ := bind_eq_ok_iff.1 eq
  have follows := h f' eq'
  exact follows.trans (h' f' follows f'' eq)

theorem Follows.keeps (h : f.Follows f') (h' : f'.Keeps x) : f.Keeps x :=
  fun f'' eq => h.trans (h' f'' eq)

end Keeps

theorem keeps_take {value : Option String} (h : f.Fits) (mem : a ∈ f.command.arguments)
    (valued : ∀ kind, a.form = .option kind → value.isSome = true) :
    f.Keeps (f.take a value) := by
  have taken := h.add (g := { name := a.name, value }) mem rfl valued
  cases value with
  | none =>
    unfold take
    dsimp only
    split
    · exact .error _
    · exact .ok taken
  | some value =>
    unfold take
    dsimp only
    split
    · exact .error _
    · exact .after fun _ => .ok taken

theorem keeps_settle (h : f.Fits) : f.Keeps f.settle := by
  unfold settle
  split
  case h_1 => exact .ok ⟨rfl, h⟩
  case h_2 => exact .error _
  case h_3 a value there =>
    have free : f.Follows { f with pending := none } := ⟨rfl, h.given, nofun⟩
    exact free.keeps (keeps_take free.fits (h.pending _ there) fun _ _ => rfl)

theorem keeps_beginOption (h : f.Fits) (mem : a ∈ f.command.arguments)
    (attached : Option String) : f.Keeps (f.beginOption a attached) := by
  refine (keeps_settle h).bind fun f' follows => ?_
  rw [← follows.command] at mem
  cases attached with
  | some value => exact keeps_take follows.fits mem fun _ _ => rfl
  | none => exact .ok (follows.fits.await mem none)

/-- A flag is taken once what is pending has been. -/
theorem keeps_settle_take (h : f.Fits) (mem : a ∈ f.command.arguments)
    (flag : ∀ kind, a.form ≠ .option kind) : f.Keeps (f.settle.bind fun f => f.take a none) :=
  (keeps_settle h).bind fun _ follows =>
    keeps_take follows.fits (follows.command ▸ mem) fun kind form => absurd form (flag kind)

theorem keeps_long (h : f.Fits) (outermost : Bool) (word : List Char) :
    f.Keeps (f.long outermost word) := by
  have stops (attached : Option String) (stop : UsageStop) : f.Keeps
      (if attached.isSome then .error .tooManyValues else f.settle.bind fun _ => .error stop) := by
    split
    · exact .error _
    · exact .after fun _ => .error _
  unfold long
  dsimp only
  split
  · exact stops _ _
  split
  · exact stops _ _
  split
  case h_1 => exact .error _
  case h_2 a found =>
    have mem : a ∈ f.command.arguments := List.mem_of_find?_eq_some found
    split
    case h_1 => exact keeps_beginOption h mem _
    case h_2 flag =>
      split
      · exact .error _
      · exact keeps_settle_take h mem flag

theorem keeps_letters (h : f.Fits) (outermost : Bool) (cs : List Char) :
    f.Keeps (f.letters outermost cs) := by
  induction cs generalizing f with
  | nil => exact .ok ⟨rfl, h⟩
  | cons c rest ih =>
    unfold letters
    split
    · exact .after fun _ => .error _
    split
    · exact .after fun _ => .error _
    split
    case h_1 => exact .error _
    case h_2 a found =>
      have mem : a ∈ f.command.arguments := List.mem_of_find?_eq_some found
      split
      case h_1 => exact keeps_beginOption h mem _
      case h_2 flag => exact (keeps_settle_take h mem flag).bind fun f' follows => ih follows.fits

theorem keeps_place (h : f.Fits) (word : String) : f.Keeps (f.place word) := by
  unfold place
  split
  case h_1 a found =>
    have mem : a ∈ f.command.arguments := (List.mem_filter.1 (List.mem_of_getElem? found)).1
    refine (keeps_settle h).bind fun f' follows => ?_
    refine (keeps_take follows.fits (follows.command ▸ mem) fun _ _ => rfl).bind fun g after => ?_
    exact .ok ⟨rfl, after.fits.given, after.fits.pending⟩
  case h_2 =>
    split
    · exact .error _
    split
    · exact .error _
    · exact .error _

/-- What variables stand in for is given with its value. -/
theorem keeps_standIn (h : f.Fits) (vars : Variables) : f.Keeps (f.standIn vars) := by
  unfold standIn
  -- the arguments still to come are arguments of the command, whatever was given so far
  suffices fold : ∀ (args : List Argument) (f : Frame), f.Fits →
      (∀ a ∈ args, a ∈ f.command.arguments) → f.Keeps (args.foldlM _ f) from
    fold f.command.arguments f h fun _ mem => mem
  intro args
  induction args with
  | nil => exact fun f h _ => .ok ⟨rfl, h⟩
  | cons a args ih =>
    intro f h known
    obtain ⟨mem, others⟩ := List.forall_mem_cons.1 known
    rw [List.foldlM_cons]
    refine Keeps.bind ?_ fun f' follows =>
      ih f' follows.fits fun b mem => follows.command ▸ others b mem
    split
    case h_1 => exact .ok ⟨rfl, h⟩
    case h_2 value _ =>
      split
      · exact .ok ⟨rfl, h⟩
      · cases a.check value with
        | error stop => exact .error stop
        | ok =>
          exact .ok (h.add (g := { name := a.name, fromVariable := true, value := some value })
            mem rfl fun _ _ => rfl)

/-! ### Closed frames -/

/-- Whether what is given in a frame obeys the rules of its command. -/
structure Obeys (f : Frame) : Prop where
  exclusive : (f.command.exclusive.filter f.has).length ≤ 1
  required : ∀ a ∈ f.command.arguments, a.required = true → f.has a.name = true
  requirements : ∀ r ∈ f.command.requirements, (∃ name ∈ r.anyOf, f.has name = true) →
    (∀ name ∈ r.needed, f.has name = true) ∨ ∃ name ∈ r.unlessAny, f.has name = true

/-- What comes after a rule is only reached where the rule holds. -/
theorem of_guarded {refused : Prop} [Decidable refused] {stop : UsageStop}
    {next : PUnit → Except UsageStop Unit}
    (h : (if refused then throw stop >>= next else next ()) = .ok ()) :
    ¬ refused ∧ next () = .ok () := by
  split at h
  case isTrue => cases h
  case isFalse holds => exact ⟨holds, h⟩

theorem obeys_of_checkRules {innermost : Bool} (h : f.checkRules innermost = .ok ()) :
    f.Obeys := by
  unfold checkRules at h
  obtain ⟨-, h⟩ := of_guarded h
  obtain ⟨exclusive, h⟩ := of_guarded h
  obtain ⟨required, h⟩ := of_guarded h
  have kept : ¬ (f.command.requirements.any fun r =>
      r.anyOf.any f.has && !r.needed.all f.has && !r.unlessAny.any f.has) = true := by
    intro broken
    rw [if_pos broken] at h
    cases h
  refine ⟨Nat.not_lt.1 exclusive, fun a mem needed => ?_, fun r mem ⟨name, named, given⟩ => ?_⟩
  · cases given : f.has a.name with
    | true => rfl
    | false => exact absurd (List.any_eq_true.2 ⟨a, mem, by simp [needed, given]⟩) required
  · cases all : r.needed.all f.has with
    | true => exact .inl (List.all_eq_true.1 all)
    | false =>
      cases excused : r.unlessAny.any f.has with
      | true => exact .inr (List.any_eq_true.1 excused)
      | false =>
        have any : r.anyOf.any f.has = true := List.any_eq_true.2 ⟨name, named, given⟩
        exact absurd (List.any_eq_true.2 ⟨r, mem, by simp [any, all, excused]⟩) kept

theorem close_inv {vars : Variables} {innermost : Bool} (h : f.Fits)
    (closed : f.close vars innermost = .ok f') : f.Follows f' ∧ f'.Obeys := by
  obtain ⟨f₁, settled, closed⟩ := bind_eq_ok_iff.1 closed
  obtain ⟨f₂, stood, closed⟩ := bind_eq_ok_iff.1 closed
  obtain ⟨⟨⟩, checked, closed⟩ := bind_eq_ok_iff.1 closed
  obtain rfl := Except.ok.inj closed
  have follows := keeps_settle h _ settled
  exact ⟨follows.trans (keeps_standIn follows.fits vars _ stood), obeys_of_checkRules checked⟩

/-- An option was given exactly if it has a value. -/
theorem isSome_value? (h : f.Fits) {name : String}
    (option : ∀ a ∈ f.command.arguments, a.name = name → ∃ kind, a.form = .option kind) :
    (f.value? name).isSome = f.has name := by
  rw [value?, has, ← List.isSome_find?]
  cases found : f.given.find? (·.name == name) with
  | none => rfl
  | some g =>
    obtain ⟨a, mem, same, valued⟩ := h.given g (List.mem_of_find?_eq_some found)
    have named := List.find?_some found
    obtain ⟨kind, form⟩ := option a mem (same.trans (eq_of_beq named))
    exact valued kind form

end Frame

/-! ## Scans -/

/-- Whether a command is one of the commands of a program: the program itself or one below. -/
inductive Within (program : Command) : Command → Prop
  | program : Within program program
  | child {c child : Command} (h : Within program c) {name : String}
    (found : c.child? name = some child) : Within program child

variable {program : Command} {vars : Variables}

theorem exists_innermost_of_scan {words : List String} {f : Frame} {parents frames : List Frame}
    (h : f.Fits) (within : Within program f.command) (scanned : scan f parents words = .ok frames) :
    ∃ f' rest, frames = f' :: rest ∧ f'.Fits ∧ Within program f'.command := by
  induction words generalizing f parents with
  | nil => exact ⟨f, parents, (Except.ok.inj scanned).symm, h, within⟩
  | cons word rest ih =>
    -- a step that keeps what fits goes on with the same command
    have goes {x : Except UsageStop Frame} {parents : List Frame} (keeps : f.Keeps x)
        (next : (x.bind fun f => scan f parents rest) = .ok frames) :
        ∃ f' rest, frames = f' :: rest ∧ f'.Fits ∧ Within program f'.command := by
      obtain ⟨f', eq, next⟩ := bind_eq_ok_iff.1 next
      have follows := keeps f' eq
      exact ih follows.fits (follows.command ▸ within) next
    unfold scan at scanned
    split at scanned
    case isTrue => exact goes (Frame.keeps_place h word) scanned
    case isFalse =>
    split at scanned
    case isTrue => cases scanned
    case isFalse =>
    split at scanned
    case h_1 child found =>
      have below : f.command.child? word = some child := by
        split at found
        · cases found
        · exact found
      exact ih (Frame.Fits.start child) (within.child below) scanned
    case h_2 =>
    split at scanned
    case h_1 => exact ih h.trail.fits within scanned
    case h_2 name => exact goes (Frame.keeps_long h _ _) scanned
    case h_3 => exact goes (Frame.keeps_letters h _ _) scanned
    case h_4 =>
    split at scanned
    case h_1 a pending =>
      have awaits := h.await (h.pending _ pending) (some word)
      exact ih awaits.fits within scanned
    case h_2 => exact goes (Frame.keeps_place h word) scanned

/-- **The innermost frame of a command line that is accepted** fits its command, which is one of the
program, and obeys its rules. -/
theorem exists_innermost {words : List String} {frames : List Frame}
    (parsed : parse program vars words = .ok frames) :
    ∃ f rest, frames = f :: rest ∧ f.Fits ∧ f.Obeys ∧ Within program f.command := by
  obtain ⟨scanned, scans, closed⟩ := bind_eq_ok_iff.1 parsed
  obtain ⟨f, parents, rfl, fits, within⟩ :=
    exists_innermost_of_scan (Frame.Fits.start program) .program scans
  obtain ⟨f', close, closed⟩ := bind_eq_ok_iff.1 closed
  obtain ⟨parents', -, closed⟩ := bind_eq_ok_iff.1 closed
  obtain ⟨follows, obeys⟩ := Frame.close_inv fits close
  exact ⟨f', parents', (Except.ok.inj closed).symm, follows.fits, obeys, follows.command ▸ within⟩

end TrainingPortal.CommandLine
