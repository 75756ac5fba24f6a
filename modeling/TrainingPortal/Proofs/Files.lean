import TrainingPortal.Files
import TrainingPortal.Proofs.Encoding
import TrainingPortal.Proofs.Stateful

/-!
# What is written is found again

Writing a file succeeds exactly where the tree accepts one (`Files.Accepts`,
`Files.write_eq_ok_iff`), whatever is written. Afterwards its path leads to it (`Files.find_write`):
the directories on the way are still there, because a file never takes the place of a directory.
-/

namespace TrainingPortal

namespace Files

variable {fs : Files} {path : String}

/-! ## Following a path in two steps -/

theorem follow_append (fs : Files) (place : List (List Char)) (before after : List (List Char)) :
    fs.follow place (before ++ after) =
      (fs.follow place before).bind fun place => fs.follow place after := by
  induction before generalizing place with
  | nil => rfl
  | cons segment before ih =>
    rw [List.cons_append, follow, follow]
    cases fs.entry? place with
    | none => rfl
    | some entry =>
      cases entry with
      | file content => rfl
      | directory =>
        dsimp only
        split_ifs <;> first | exact ih _ | rfl

/-! ## What a path leads to -/

/-- Something is found where a path leads. -/
theorem find_eq_ok_iff {place : List (List Char)} {entry : FileEntry} :
    fs.find path = .ok (place, entry) ↔
      ∃ start segments, fs.start path = .ok (start, segments) ∧
        fs.follow start segments = .ok place ∧ fs.entry? place = some entry := by
  constructor
  · intro h
    obtain ⟨⟨start, segments⟩, begins, h⟩ := bind_eq_ok_iff.1 h
    obtain ⟨there, follows, h⟩ := bind_eq_ok_iff.1 h
    cases stands : fs.entry? there with
    | none =>
      rw [stands] at h
      cases h
    | some here =>
      rw [stands] at h
      obtain ⟨rfl, rfl⟩ := Prod.mk.inj (Except.ok.inj h)
      exact ⟨start, segments, begins, follows, stands⟩
  · rintro ⟨start, segments, begins, follows, stands⟩
    simp only [find, begins, follows, stands, bind, Except.bind]

theorem read_eq_ok_iff {content : List UInt8} :
    fs.read path = .ok content ↔ ∃ place, fs.find path = .ok (place, .file content) := by
  constructor
  · intro h
    obtain ⟨⟨place, entry⟩, found, h⟩ := bind_eq_ok_iff.1 h
    cases entry with
    | directory => cases h
    | file here =>
      obtain rfl := Except.ok.inj h
      exact ⟨place, found⟩
  · rintro ⟨place, found⟩
    simp only [read, found, bind, Except.bind]

theorem exists?_iff :
    fs.exists? path = true ↔ ∃ place entry, fs.find path = .ok (place, entry) := by
  rw [exists?]
  cases fs.find path with
  | error e => simp [Except.isOk, Except.toBool]
  | ok there => exact iff_of_true rfl ⟨there.1, there.2, rfl⟩

theorem exists?_of_read {content : List UInt8} (h : fs.read path = .ok content) :
    fs.exists? path = true :=
  exists?_iff.2 ((read_eq_ok_iff.1 h).imp fun _ found => ⟨_, found⟩)

/-! ## Names in a directory -/

/-- A name in a directory. -/
structure IsName (name : List Char) : Prop where
  notIdle : Path.isIdle name = false
  notUp : name ≠ ['.', '.']
  notLong : Text.Utf8.length name ≤ longestName

instance (name : List Char) : Decidable (IsName name) :=
  decidable_of_iff (Path.isIdle name = false ∧ name ≠ ['.', '.'] ∧
      Text.Utf8.length name ≤ longestName)
    ⟨fun ⟨idle, up, long⟩ => ⟨idle, up, long⟩, fun h => ⟨h.notIdle, h.notUp, h.notLong⟩⟩

theorem follow_name {place : List (List Char)} {name : List Char} (h : IsName name)
    (directory : fs.entry? place = some .directory) :
    fs.follow place [name] = .ok (place ++ [name]) := by
  rw [follow, directory]
  simp [h.notIdle, h.notUp, Nat.not_lt.2 h.notLong, follow]

/-- A tree in which all directories of another are still directories. -/
def KeepsDirectories (fs fs' : Files) : Prop :=
  fs'.home = fs.home ∧
    ∀ place, fs.entry? place = some .directory → fs'.entry? place = some .directory

theorem KeepsDirectories.follow {fs' : Files} (h : KeepsDirectories fs fs')
    {place target : List (List Char)} {segments : List (List Char)}
    (found : fs.follow place segments = .ok target) : fs'.follow place segments = .ok target := by
  induction segments generalizing place with
  | nil => exact found
  | cons segment rest ih =>
    rw [Files.follow] at found ⊢
    cases entry : fs.entry? place with
    | none =>
      rw [entry] at found
      cases found
    | some here =>
      rw [entry] at found
      cases here with
      | file content => cases found
      | directory =>
        rw [h.2 place entry]
        dsimp only at found ⊢
        split_ifs at found ⊢ <;> exact ih found

/-! ## Putting something at a place -/

/-- The home directory and those above it are always there. -/
theorem entry?_of_above {place : List (List Char)} (above : place.isPrefixOf fs.home) :
    fs.entry? place = some .directory :=
  if_pos above

/-- Elsewhere stands what is listed. -/
theorem entry?_of_not_above {place : List (List Char)} (outside : ¬ place.isPrefixOf fs.home) :
    fs.entry? place = (fs.entries.find? (·.1 == place)).map (·.2) :=
  if_neg outside

theorem entry?_put_self {place : List (List Char)} (h : fs.entry? place ≠ some .directory)
    (entry : FileEntry) : entry? (fs.put place entry) place = some entry := by
  have outside : ¬ place.isPrefixOf fs.home := fun above => h (entry?_of_above above)
  have outside' : ¬ place.isPrefixOf (fs.put place entry).home := outside
  rw [entry?_of_not_above outside', put, List.find?_cons_of_pos (by simp), Option.map_some]

theorem entry?_put_of_ne {place other : List (List Char)} (h : other ≠ place) (entry : FileEntry) :
    entry? (fs.put place entry) other = fs.entry? other := by
  have same : ((fs.put place entry).entries.find? (·.1 == other)) =
      fs.entries.find? (·.1 == other) := by
    have skip : ((place, entry).1 == other) = false := by simpa using Ne.symm h
    rw [put, List.find?_cons, skip, List.find?_filter]
    refine congrArg (fun p => fs.entries.find? p) (funext fun entry' => ?_)
    by_cases eq : entry'.1 = other
    · simp [eq, h]
    · simp [eq]
  unfold entry?
  rw [same]
  rfl

theorem keepsDirectories_put {place : List (List Char)} (h : fs.entry? place ≠ some .directory)
    (entry : FileEntry) : KeepsDirectories fs (fs.put place entry) := by
  refine ⟨rfl, fun other directory => ?_⟩
  rw [entry?_put_of_ne _ entry]
  · exact directory
  · rintro rfl
    exact h directory

/-! ## Where a file is written -/

/-- The segments up to the name at the end of a path, and the slashes that follow it. -/
theorem segments_eq_of_telling {segments before : List (List Char)} {name : List Char}
    (telling : segments.reverse.dropWhile (·.isEmpty) = name :: before) :
    ∃ slashes, segments = before.reverse ++ name :: slashes ∧
      (∀ segment ∈ slashes, segment.isEmpty = true) ∧ name.isEmpty = false := by
  have whole := List.takeWhile_append_dropWhile (p := fun s : List Char => s.isEmpty)
    (l := segments.reverse)
  have nonempty := List.head?_dropWhile_not (fun s : List Char => s.isEmpty) segments.reverse
  rw [telling] at whole nonempty
  refine ⟨(segments.reverse.takeWhile (·.isEmpty)).reverse, ?_, fun segment mem => ?_, ?_⟩
  · simpa using congrArg List.reverse whole.symm
  · exact List.all_eq_true.1 List.all_takeWhile segment (List.mem_reverse.1 mem)
  · simpa using nonempty

/-- What it takes for a path to lead to a place for something in a directory. -/
theorem target_inv {place : List (List Char)} {slashed : Bool}
    (h : fs.target path = .ok (some place, slashed)) :
    ∃ start before parent name slashes, fs.start path = .ok (start, before ++ name :: slashes) ∧
      (∀ segment ∈ slashes, segment.isEmpty = true) ∧ (slashed = false → slashes = []) ∧
      IsName name ∧ fs.follow start before = .ok parent ∧ fs.entry? parent = some .directory ∧
      place = parent ++ [name] := by
  obtain ⟨⟨start, segments⟩, begins, h⟩ := bind_eq_ok_iff.1 h
  dsimp only at h
  split at h
  case h_1 => cases h
  case h_2 name before telling =>
    obtain ⟨parent, follows, h⟩ := bind_eq_ok_iff.1 h
    split at h
    case h_1 => cases h
    case h_2 => cases h
    case h_3 directory =>
      split_ifs at h with dots long
      · cases h
      · obtain ⟨placed, ends⟩ := Prod.mk.inj (Except.ok.inj h)
        obtain ⟨slashes, rfl, empty, nonempty⟩ := segments_eq_of_telling telling
        refine ⟨start, before.reverse, parent, name, slashes, begins, empty, fun unslashed => ?_,
          ⟨?_, ?_, ?_⟩, follows, directory, (Option.some.inj placed).symm⟩
        · rcases List.eq_nil_or_concat slashes with none | ⟨slashes', last, rfl⟩
          · exact none
          · have nonempty : last.isEmpty = false := by
              rw [unslashed, List.concat_eq_append, ← List.cons_append, ← List.append_assoc,
                List.getLast?_concat] at ends
              exact ends
            rw [empty last (by simp)] at nonempty
            cases nonempty
        · simpa [Path.isIdle, nonempty] using fun eq => dots (.inl eq)
        · exact fun eq => dots (.inr eq)
        · exact Nat.not_lt.1 long

theorem KeepsDirectories.target {fs' : Files} (h : KeepsDirectories fs fs')
    {place : List (List Char)} {slashed : Bool}
    (found : fs.target path = .ok (some place, slashed)) :
    fs'.target path = .ok (some place, slashed) := by
  have begins : fs'.start path = fs.start path := by rw [start, start, h.1]
  rw [Files.target, begins, bind_eq_ok_iff]
  obtain ⟨⟨start, segments⟩, begins, found⟩ := bind_eq_ok_iff.1 found
  refine ⟨_, begins, ?_⟩
  dsimp only at found ⊢
  split at found
  case h_1 => cases found
  case h_2 name before telling =>
    obtain ⟨parent, follows, found⟩ := bind_eq_ok_iff.1 found
    split at found
    case h_1 => cases found
    case h_2 => cases found
    case h_3 directory =>
      rw [bind_eq_ok_iff]
      refine ⟨parent, h.follow follows, ?_⟩
      rw [h.2 parent directory]
      exact found

theorem follow_slashes {place : List (List Char)} (directory : fs.entry? place = some .directory)
    {slashes : List (List Char)} (empty : ∀ segment ∈ slashes, segment.isEmpty = true) :
    fs.follow place slashes = .ok place := by
  induction slashes with
  | nil => rfl
  | cons segment slashes ih =>
    obtain ⟨first, rest⟩ := List.forall_mem_cons.1 empty
    rw [follow, directory]
    simpa [Path.isIdle, first] using ih rest

/-- What is put where a path leads is found on that path, a file only if no slash ends it. -/
theorem find_put {place : List (List Char)} {slashed : Bool} {entry : FileEntry}
    (h : fs.target path = .ok (some place, slashed)) (free : fs.entry? place ≠ some .directory)
    (stands : slashed = true → entry = .directory) :
    (fs.put place entry).find path = .ok (place, entry) := by
  obtain ⟨start, before, parent, name, slashes, begins, empty, unslashed, isName, follows,
    directory, rfl⟩ := target_inv h
  have keeps := keepsDirectories_put free entry
  have begins' : (fs.put (parent ++ [name]) entry).start path =
      .ok (start, before ++ name :: slashes) := begins
  have ends : (fs.put (parent ++ [name]) entry).follow (parent ++ [name]) slashes =
      .ok (parent ++ [name]) := by
    cases slashed with
    | false => rw [unslashed rfl, follow]
    | true =>
      obtain rfl := stands rfl
      exact follow_slashes (entry?_put_self free _) empty
  have follows' : (fs.put (parent ++ [name]) entry).follow start (before ++ name :: slashes) =
      .ok (parent ++ [name]) := by
    rw [follow_append, keeps.follow follows]
    refine (follow_append _ parent [name] slashes).trans ?_
    rw [follow_name isName (keeps.2 parent directory)]
    exact ends
  exact find_eq_ok_iff.2 ⟨_, _, begins', follows', entry?_put_self free entry⟩

theorem exists?_put {place : List (List Char)} {other : String}
    (free : fs.entry? place ≠ some .directory) (entry : FileEntry) (h : fs.exists? other = true) :
    (fs.put place entry).exists? other = true := by
  obtain ⟨there, entry', found⟩ := exists?_iff.1 h
  obtain ⟨start, segments, begins, follows, stands⟩ := find_eq_ok_iff.1 found
  have begins' : (fs.put place entry).start other = .ok (start, segments) := begins
  have follows' := (keepsDirectories_put free entry).follow follows
  refine exists?_iff.2 ⟨there, ?_⟩
  by_cases same : there = place
  · refine ⟨entry, find_eq_ok_iff.2 ⟨start, segments, begins', follows', ?_⟩⟩
    rw [same, entry?_put_self free]
  · refine ⟨entry', find_eq_ok_iff.2 ⟨start, segments, begins', follows', ?_⟩⟩
    rw [entry?_put_of_ne same, stands]

/-- Whether the tree takes a file at a path. -/
def Accepts (fs : Files) (path : String) : Prop :=
  ∃ place, fs.target path = .ok (some place, false) ∧ fs.entry? place ≠ some .directory

/-- **A file can be written exactly where the tree accepts one.** -/
theorem write_eq_ok_iff {content : List UInt8} {fs' : Files} :
    fs.write path content = .ok fs' ↔
      ∃ place, fs.target path = .ok (some place, false) ∧ fs.entry? place ≠ some .directory ∧
        fs' = fs.put place (.file content) := by
  rw [write, bind_eq_ok_iff]
  constructor
  · rintro ⟨⟨place, slashed⟩, target, h⟩
    cases place with
    | none => cases h
    | some place =>
      dsimp only at h
      split_ifs at h with slash
      obtain rfl : slashed = false := by simpa using slash
      split at h
      case h_1 => cases h
      case h_2 free => exact ⟨place, target, fun eq => free eq, (Except.ok.inj h).symm⟩
  · rintro ⟨place, target, free, rfl⟩
    refine ⟨_, target, ?_⟩
    dsimp only
    rw [if_neg (by decide)]
    split
    case h_1 directory => exact absurd directory free
    case h_2 => rfl

theorem exists_write (h : fs.Accepts path) (content : List UInt8) :
    ∃ fs', fs.write path content = .ok fs' := by
  obtain ⟨place, target, free⟩ := h
  exact ⟨_, write_eq_ok_iff.2 ⟨place, target, free, rfl⟩⟩

/-- **What is written at a path is found there.** -/
theorem find_write {content : List UInt8} {fs' : Files} (h : fs.write path content = .ok fs') :
    ∃ place, fs'.find path = .ok (place, .file content) := by
  obtain ⟨place, target, free, rfl⟩ := write_eq_ok_iff.1 h
  exact ⟨place, find_put target free nofun⟩

/-- **A text that is written at a path is read there.** -/
theorem readText_write {text : String} {fs' : Files}
    (h : fs.write path (Text.Utf8.bytes text) = .ok fs') :
    fs'.exists? path = true ∧ fs'.readText path = .ok text := by
  obtain ⟨place, found⟩ := find_write h
  refine ⟨exists?_iff.2 ⟨place, _, found⟩, ?_⟩
  have read := read_eq_ok_iff.2 ⟨place, found⟩
  have decoded : Text.Utf8.decode? (Text.Utf8.bytes text) = some text.toList :=
    Text.Utf8.decode?_encode _
  simp only [readText, read, bind, Except.bind, decoded, String.ofList_toList]

/-! ## Paths whose directory may be missing -/

/-- The tree with the directory of a path, which is created if it is missing. -/
def withDirectory (fs : Files) (path : String) : Except FileError Unit × Files :=
  match Path.parent? path with
  | none => (.ok (), fs)
  | some parent =>
    if !parent.isEmpty && !fs.exists? parent then fs.makeDirectories parent else (.ok (), fs)

/-- Whether a file can be written at a path once its directory was created if it was missing. -/
def Writable (fs : Files) (path : String) : Prop :=
  ∃ fs', fs.withDirectory path = (.ok (), fs') ∧ fs'.Accepts path

end Files

end TrainingPortal
