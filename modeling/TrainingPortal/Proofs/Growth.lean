import TrainingPortal.Proofs.Directories

/-!
# Trees that grow

Creating the directory of a file that is then not written leaves a tree that `Grows`: what stood
somewhere still stands there, and what is new are directories, each one in a directory
(`grows_of_withDirectory`). So no file is created, changed or removed (`Grows.entry?_file_iff`).

A path that leads to a file still leads to it (`Grows.read_of_read`). A path that led to no file
leads to none, either, unless it goes up again from something that was missing
(`Grows.read_iff`): directories above which it goes up may be there now.
-/

namespace TrainingPortal

open Text

namespace Files

variable {fs fs₁ fs' : Files} {path : String} {place : List (List Char)}

/-! ## Trees without gaps -/

/-- Whether everything in a tree lies in a directory. -/
def Sound (fs : Files) : Prop :=
  ∀ place, fs.entry? place ≠ none → fs.entry? place.dropLast = some .directory

/-- What is listed decides whether a tree is sound. -/
theorem sound_of_entries
    (h : ∀ listed ∈ fs.entries, fs.entry? listed.1.dropLast = some .directory) : Sound fs := by
  intro place stands
  by_cases above : place.isPrefixOf fs.home
  · have before : place.dropLast.isPrefixOf fs.home = true :=
      List.isPrefixOf_iff_prefix.2
        ((List.dropLast_prefix place).trans (List.isPrefixOf_iff_prefix.1 above))
    exact entry?_of_above before
  · rw [entry?_of_not_above above] at stands
    cases found : fs.entries.find? (·.1 == place) with
    | none => simp [found] at stands
    | some listed =>
      obtain rfl : listed.1 = place := by simpa using List.find?_some found
      exact h listed (List.mem_of_find?_eq_some found)

/-- In a sound tree, directories lead to everything. -/
theorem Sound.entry?_of_prefix (sound : Sound fs) {before : List (List Char)}
    (h : before <+: place) (stands : fs.entry? place ≠ none) :
    before = place ∨ fs.entry? before = some .directory := by
  induction place using List.reverseRecOn with
  | nil => exact .inl (List.prefix_nil.1 h)
  | append_singleton place name ih =>
    rcases List.prefix_concat_iff.1 h with rfl | h
    · exact .inl rfl
    · have here : fs.entry? place = some .directory := by simpa using sound _ stands
      rcases ih h (by simp [here]) with rfl | directory
      · exact .inr here
      · exact .inr directory

/-! ## Growth -/

/-- A tree with what stood in another one and, besides, directories that lie in directories. -/
structure Grows (fs fs' : Files) : Prop where
  home : fs'.home = fs.home
  entries : ∀ place, fs'.entry? place = fs.entry? place ∨
    fs.entry? place = none ∧ fs'.entry? place = some .directory ∧
      fs'.entry? place.dropLast = some .directory

namespace Grows

theorem refl (fs : Files) : Grows fs fs := ⟨rfl, fun _ => .inl rfl⟩

theorem entry?_of_some (h : Grows fs fs') {entry : FileEntry}
    (stands : fs.entry? place = some entry) : fs'.entry? place = some entry := by
  rcases h.entries place with same | ⟨missing, -⟩
  · rw [same, stands]
  · rw [missing] at stands
    cases stands

theorem trans (first : Grows fs fs₁) (second : Grows fs₁ fs') : Grows fs fs' where
  home := second.home.trans first.home
  entries place := by
    rcases first.entries place with same | ⟨missing, made, below⟩
    · rcases second.entries place with same' | ⟨missing', made⟩
      · exact .inl (same'.trans same)
      · exact .inr ⟨same ▸ missing', made⟩
    · exact .inr ⟨missing, second.entry?_of_some made, second.entry?_of_some below⟩

theorem keepsDirectories (h : Grows fs fs') : KeepsDirectories fs fs' :=
  ⟨h.home, fun _ directory => h.entry?_of_some directory⟩

/-- No file is created, changed or removed. -/
theorem entry?_file_iff (h : Grows fs fs') {content : List UInt8} :
    fs'.entry? place = some (.file content) ↔ fs.entry? place = some (.file content) := by
  refine ⟨fun stands => ?_, h.entry?_of_some⟩
  rcases h.entries place with same | ⟨-, made, -⟩
  · rw [← same, stands]
  · rw [made] at stands
    cases stands

theorem sound (h : Grows fs fs') (sound : Sound fs) : Sound fs' := by
  intro place stands
  rcases h.entries place with same | ⟨-, -, below⟩
  · exact h.entry?_of_some (sound place (same ▸ stands))
  · exact below

end Grows

/-! ## Creating directories -/

theorem grows_makeDirectory (h : fs.makeDirectory path = .ok fs') : Grows fs fs' := by
  obtain ⟨place, slashed, target, missing, rfl⟩ := makeDirectory_inv h
  obtain ⟨-, -, parent, name, -, -, -, -, -, -, directory, rfl⟩ := target_inv target
  have free : fs.entry? (parent ++ [name]) ≠ some .directory := by simp [missing]
  refine ⟨rfl, fun place => ?_⟩
  by_cases new : place = parent ++ [name]
  · subst new
    refine .inr ⟨missing, entry?_put_self free _, ?_⟩
    rw [List.dropLast_concat]
    exact (keepsDirectories_put free _).2 parent directory
  · exact .inl (entry?_put_of_ne new _)

/-- What creating a directory and those above it can come to: directories are created along the
parents of the path, and then perhaps the one at the path. -/
inductive Creates : Files → String → Files → Prop
  | nothing {fs : Files} {path : String} : Creates fs path fs
  | above {fs fs' : Files} {path parent : String} (h : Path.parent? path = some parent)
    (named : parent.isEmpty = false) (creates : Creates fs parent fs') : Creates fs path fs'
  | last {fs fs₁ fs' : Files} {path : String} (creates : Creates fs path fs₁)
    (made : fs₁.makeDirectory path = .ok fs') : Creates fs path fs'

theorem creates_makeDirectoriesWith (fuel : Nat) (fs : Files) (path : String) :
    Creates fs path (fs.makeDirectoriesWith fuel path).2 := by
  induction fuel generalizing fs path with
  | zero => exact .nothing
  | succ fuel ih =>
    have settle {fs' : Files} (e : FileError) (creates : Creates fs path fs') :
        Creates fs path
          (if fs'.isDirectory path then (Except.ok (), fs') else (.error e, fs')).2 := by
      split <;> exact creates
    rw [makeDirectoriesWith]
    split
    case isTrue => exact .nothing
    case isFalse =>
      split
      case h_1 made => exact .last .nothing made
      case h_2 =>
        split
        case h_1 => exact .nothing
        case h_2 parent h =>
          -- the directories above come first, and the path is tried again below them
          have above : Creates fs path (fs.makeDirectoriesWith fuel parent).2 := by
            cases named : parent.isEmpty with
            | true => cases fuel <;> simpa [makeDirectoriesWith, named] using Creates.nothing
            | false => exact .above h named (ih fs parent)
          split
          case h_1 failed => exact failed ▸ above
          case h_2 made =>
            rw [made] at above
            split
            case h_1 made => exact .last above made
            case h_2 => exact settle _ above
      case h_3 => exact settle _ .nothing

theorem creates_makeDirectories (fs : Files) (path : String) :
    Creates fs path (fs.makeDirectories path).2 :=
  creates_makeDirectoriesWith (path.length + 1) fs path

theorem Creates.grows (h : Creates fs path fs') : Grows fs fs' := by
  induction h with
  | nothing => exact .refl _
  | above _ _ _ ih => exact ih
  | last _ made ih => exact ih.trans (grows_makeDirectory made)

theorem grows_of_withDirectory {outcome : Except FileError Unit}
    (h : fs.withDirectory path = (outcome, fs')) : Grows fs fs' := by
  rw [withDirectory] at h
  split at h
  case h_1 =>
    cases h
    exact .refl fs
  case h_2 parent _ =>
    split_ifs at h
    · have creates := creates_makeDirectories fs parent
      rw [h] at creates
      exact creates.grows
    · cases h
      exact .refl fs

/-- A file that is written lies in a directory. -/
theorem Sound.write {content : List UInt8} (sound : Sound fs)
    (h : fs.write path content = .ok fs') : Sound fs' := by
  obtain ⟨place, target, free, rfl⟩ := write_eq_ok_iff.1 h
  obtain ⟨-, -, parent, name, -, -, -, -, -, -, directory, rfl⟩ := target_inv target
  have keeps := keepsDirectories_put free (.file content)
  intro place stands
  by_cases new : place = parent ++ [name]
  · rw [new, List.dropLast_concat]
    exact keeps.2 parent directory
  · rw [entry?_put_of_ne new] at stands
    exact keeps.2 _ (sound place stands)

/-! ## Paths in a tree that grew -/

/-- Whether segments lead nowhere because something is missing there or on the way. -/
def Lacks (fs : Files) (place : List (List Char)) (segments : List (List Char)) : Prop :=
  match fs.follow place segments with
  | .ok place => fs.entry? place = none
  | .error e => e = .notFound

/-- Whether a path goes up from something that is missing. -/
def GoesUpFromMissing (fs : Files) (path : String) : Prop :=
  ∃ start before after, fs.start path = .ok (start, before ++ ['.', '.'] :: after) ∧
    fs.Lacks start before

theorem lacks_of_missing (missing : fs.entry? place = none) (segments : List (List Char)) :
    fs.Lacks place segments := by
  cases segments with
  | nil => exact missing
  | cons segment rest =>
    unfold Lacks follow
    rw [missing]

theorem lacks_cons_iff {segment : List Char} {next : List (List Char)}
    (step : fs.follow place [segment] = .ok next) (segments : List (List Char)) :
    fs.Lacks place (segment :: segments) ↔ fs.Lacks next segments := by
  have whole : fs.follow place (segment :: segments) = fs.follow next segments := by
    rw [← List.singleton_append, follow_append, step]
    rfl
  rw [Lacks, whole, Lacks]

/-- A path that does not go up leads below where it starts. -/
theorem prefix_of_follow {start : List (List Char)} {segments : List (List Char)}
    (down : ['.', '.'] ∉ segments) (follows : fs.follow start segments = .ok place) :
    start <+: place := by
  induction segments generalizing start with
  | nil =>
    obtain rfl := Except.ok.inj follows
    exact List.prefix_rfl
  | cons segment rest ih =>
    obtain ⟨ne, down⟩ := not_or.1 (List.mem_cons.not.1 down)
    rw [follow] at follows
    split at follows
    case h_1 => cases follows
    case h_2 => cases follows
    case h_3 =>
      rw [if_neg (Ne.symm ne)] at follows
      split_ifs at follows
      · exact ih down follows
      · exact (List.prefix_append start [segment]).trans (ih down follows)

/-- What a path leads to in a tree that grew was there before, if the path nowhere goes up from
something that was missing. -/
theorem Grows.follow_of_follow (h : Grows fs fs') (sound : Sound fs)
    {start : List (List Char)} {segments : List (List Char)}
    (down : ∀ before after, segments = before ++ ['.', '.'] :: after → ¬ fs.Lacks start before)
    (follows : fs'.follow start segments = .ok place) (stands : fs.entry? place ≠ none) :
    fs.follow start segments = .ok place := by
  induction segments generalizing start with
  | nil => exact follows
  | cons segment rest ih =>
    rcases h.entries start with same | ⟨missing, -⟩
    · have alike : fs'.follow start [segment] = fs.follow start [segment] := by
        simp only [follow, same]
      rw [← List.singleton_append, follow_append, alike] at follows
      obtain ⟨next, step, follows⟩ := bind_eq_ok_iff.1 follows
      rw [← List.singleton_append, follow_append, step]
      refine ih (fun before after eq lacks => ?_) follows
      exact down (segment :: before) after (congrArg (segment :: ·) eq)
        ((lacks_cons_iff step before).2 lacks)
    · -- the path would lead down through a place with nothing below it
      have noUp : ['.', '.'] ∉ segment :: rest := by
        intro mem
        obtain ⟨before, after, eq⟩ := List.append_of_mem mem
        exact down before after eq (lacks_of_missing missing before)
      rcases sound.entry?_of_prefix (prefix_of_follow noUp follows) stands with rfl | directory
      · exact absurd missing stands
      · rw [missing] at directory
        cases directory

theorem Grows.start_eq (h : Grows fs fs') (path : String) : fs'.start path = fs.start path := by
  rw [Files.start, Files.start, h.home]

/-- What is found at a path is still found there in a tree that grew. -/
theorem Grows.find_of_find (h : Grows fs fs') {entry : FileEntry}
    (found : fs.find path = .ok (place, entry)) : fs'.find path = .ok (place, entry) := by
  obtain ⟨start, segments, begins, follows, stands⟩ := find_eq_ok_iff.1 found
  exact find_eq_ok_iff.2 ⟨start, segments, (h.start_eq path).trans begins,
    h.keepsDirectories.follow follows, h.entry?_of_some stands⟩

/-- What is found at a path in a tree that grew was found there if it was there, unless the path
goes up from something that was missing. -/
theorem Grows.find_of_entry? (h : Grows fs fs') (sound : Sound fs)
    (down : ¬ fs.GoesUpFromMissing path) {entry : FileEntry}
    (found : fs'.find path = .ok (place, entry)) (stood : fs.entry? place = some entry) :
    fs.find path = .ok (place, entry) := by
  obtain ⟨start, segments, begins', follows, -⟩ := find_eq_ok_iff.1 found
  have begins := (h.start_eq path).symm.trans begins'
  refine find_eq_ok_iff.2 ⟨start, segments, begins, ?_, stood⟩
  refine h.follow_of_follow sound (fun before after eq lacks => ?_) follows (by simp [stood])
  exact down ⟨start, before, after, eq ▸ begins, lacks⟩

/-- A file that is read at a path is still read there in a tree that grew. -/
theorem Grows.read_of_read (h : Grows fs fs') {content : List UInt8}
    (read : fs.read path = .ok content) : fs'.read path = .ok content := by
  obtain ⟨place, found⟩ := read_eq_ok_iff.1 read
  exact read_eq_ok_iff.2 ⟨place, h.find_of_find found⟩

/-- **A path leads to a file in a tree that grew exactly if it did before**, unless it goes up from
something that was missing. -/
theorem Grows.read_iff (h : Grows fs fs') (sound : Sound fs)
    (down : ¬ fs.GoesUpFromMissing path) {content : List UInt8} :
    fs'.read path = .ok content ↔ fs.read path = .ok content := by
  refine ⟨fun read => ?_, h.read_of_read⟩
  obtain ⟨place, found⟩ := read_eq_ok_iff.1 read
  obtain ⟨-, -, -, -, stands⟩ := find_eq_ok_iff.1 found
  exact read_eq_ok_iff.2
    ⟨place, h.find_of_entry? sound down found (h.entry?_file_iff.1 stands)⟩

end Files

end TrainingPortal
