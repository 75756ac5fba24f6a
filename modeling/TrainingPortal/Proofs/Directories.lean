import TrainingPortal.Proofs.Address
import TrainingPortal.Proofs.Files

/-!
# Missing directories

A file can be written along any way on which no file stands, however many of the directories on it
are missing (`Files.writable_ofNames`): they are created one below the other, and nothing else
changes (`Files.makeDirectoriesWith_runs`).

A tree is `Clear` along names if none of the places on the way is a file, and `Open` if all of them
are directories. Along open names a path is followed to its end (`follow_of_open`); along names that
are only clear the first missing place is where it ends (`follow_of_missing`).
-/

namespace TrainingPortal

open Text

/-! ## Paths along names -/

namespace Path

/-- The path from the root along names. -/
def ofNames (names : List (List Char)) : String := String.ofList (names.flatMap ('/' :: ·))

variable {names : List (List Char)} {name : List Char}

theorem toList_ofNames_concat (names : List (List Char)) (name : List Char) :
    (ofNames (names ++ [name])).toList = (ofNames names).toList ++ '/' :: name := by
  simp [ofNames]

theorem isEmpty_ofNames (h : names ≠ []) : (ofNames names).isEmpty = false := by
  cases names with
  | nil => exact absurd rfl h
  | cons name names => simp [ofNames]

theorem length_le_length_ofNames (names : List (List Char)) :
    names.length ≤ (ofNames names).length := by
  rw [ofNames, String.length_ofList]
  induction names with
  | nil => simp
  | cons name names ih =>
    simp only [List.flatMap_cons, List.length_append, List.length_cons]
    omega

theorem segments_ofNames (h : ∀ name ∈ names, '/' ∉ name) :
    segments (ofNames names).toList = [] :: names := by
  induction names using List.reverseRecOn with
  | nil => rfl
  | append_singleton names name ih =>
    have alone : segments name = [name] := splitAt_of_not_mem (h name (by simp))
    rw [toList_ofNames_concat, segments, splitAt_append, ← segments, ← segments, alone,
      ih fun name mem => h name (List.mem_append_left _ mem), List.cons_append]

theorem ofSegments_cons (first : List Char) (names : List (List Char)) :
    ofSegments (first :: names) = String.ofList (first ++ names.flatMap ('/' :: ·)) := by
  have joined : ['/'].intercalate (first :: names) = first ++ names.flatMap ('/' :: ·) := by
    induction names generalizing first with
    | nil => simp
    | cons name names ih => rw [List.intercalate_cons_cons, ih]; simp
  rw [ofSegments, joined]

theorem trimIdle_eq_self (h : ∀ name ∈ names, isIdle name = false) :
    trimIdle names = names := by
  induction names using List.reverseRecOn with
  | nil => rfl
  | append_singleton names name => exact dropTailWhile_append_of_neg (h name (by simp)) names

theorem parent?_ofNames (slashless : ∀ name' ∈ names ++ [name], '/' ∉ name')
    (telling : ∀ name' ∈ names ++ [name], isIdle name' = false) :
    parent? (ofNames (names ++ [name])) = some (if names.isEmpty then "/" else ofNames names) := by
  have before : trimIdle names = names :=
    trimIdle_eq_self fun name mem => telling name (List.mem_append_left _ mem)
  rw [parent?, segments_ofNames slashless]
  dsimp only
  rw [trimIdle_eq_self telling, List.reverse_concat]
  dsimp only
  rw [List.reverse_reverse, before]
  cases names with
  | nil => rfl
  | cons first rest => exact congrArg some (ofSegments_cons [] (first :: rest))

end Path

namespace Files

variable {fs : Files} {names : List (List Char)} {name : List Char}

/-! ## Going down along names -/

/-- Whether the places along names are all directories. -/
def Open (fs : Files) (names : List (List Char)) : Prop :=
  ∀ place, place <+: names → fs.entry? place = some .directory

/-- Whether no file stands at any of the places along names. -/
def Clear (fs : Files) (names : List (List Char)) : Prop :=
  ∀ place, place <+: names → fs.entry? place = none ∨ fs.entry? place = some .directory

theorem entry?_root (fs : Files) : fs.entry? [] = some .directory :=
  entry?_of_above (by simp)

theorem open_nil (fs : Files) : Open fs [] := by
  intro place before
  rw [List.prefix_nil.1 before, entry?_root]

theorem follow_of_open (place : List (List Char)) (valid : ∀ name ∈ names, IsName name)
    (h : ∀ before, before <+: names → fs.entry? (place ++ before) = some .directory) :
    fs.follow place names = .ok (place ++ names) := by
  induction names generalizing place with
  | nil => simp [follow]
  | cons name names ih =>
    obtain ⟨first, valid⟩ := List.forall_mem_cons.1 valid
    have here : fs.entry? place = some .directory := by simpa using h [] (List.nil_prefix)
    have step := follow_name first here
    rw [← List.singleton_append, follow_append, step]
    refine (ih (place ++ [name]) valid fun before h' => ?_).trans (by simp)
    simpa using h (name :: before) (by simpa using h')

/-- Where one of the places along names is missing, the way ends with that. -/
theorem follow_of_missing (place : List (List Char)) (valid : ∀ name ∈ names, IsName name)
    (clear : ∀ before, before <+: names →
      fs.entry? (place ++ before) = none ∨ fs.entry? (place ++ before) = some .directory)
    (h : ¬ ∀ before, before <+: names → fs.entry? (place ++ before) = some .directory) :
    fs.follow place names = .error .notFound ∨
      fs.follow place names = .ok (place ++ names) ∧ fs.entry? (place ++ names) = none := by
  induction names generalizing place with
  | nil =>
    refine .inr ⟨by simp [follow], (clear [] List.nil_prefix).resolve_right fun eq => h ?_⟩
    rintro before before_nil
    rwa [List.prefix_nil.1 before_nil]
  | cons name names ih =>
    obtain ⟨first, valid⟩ := List.forall_mem_cons.1 valid
    rcases clear [] List.nil_prefix with missing | here
    · left
      rw [List.append_nil] at missing
      rw [follow, missing]
    · rw [List.append_nil] at here
      rw [← List.singleton_append, follow_append, follow_name first here]
      have next := ih (place ++ [name]) valid
        (fun before h' => by simpa using clear (name :: before) (by simpa using h'))
        (fun all => h fun before h' => by
          rcases List.prefix_cons_iff.1 h' with rfl | ⟨rest, rfl, tail⟩
          · simpa using here
          · simpa using all rest tail)
      simpa [Except.bind] using next

/-- Names along which a path may lead. -/
structure IsWay (names : List (List Char)) : Prop where
  areNames : ∀ name ∈ names, IsName name
  slashless : ∀ name ∈ names, '/' ∉ name
  notNul : '\x00' ∉ names.flatMap ('/' :: ·)
  notLong : Utf8.length (names.flatMap ('/' :: ·)) ≤ longestPath

instance (names : List (List Char)) : Decidable (IsWay names) :=
  decidable_of_iff ((∀ name ∈ names, IsName name) ∧ (∀ name ∈ names, '/' ∉ name) ∧
      '\x00' ∉ names.flatMap ('/' :: ·) ∧ Utf8.length (names.flatMap ('/' :: ·)) ≤ longestPath)
    ⟨fun ⟨are, slashless, nul, long⟩ => ⟨are, slashless, nul, long⟩,
      fun h => ⟨h.areNames, h.slashless, h.notNul, h.notLong⟩⟩

theorem IsWay.left {after : List (List Char)} (way : IsWay (names ++ after)) : IsWay names where
  areNames name mem := way.areNames name (List.mem_append_left _ mem)
  slashless name mem := way.slashless name (List.mem_append_left _ mem)
  notNul mem := way.notNul (by rw [List.flatMap_append]; exact List.mem_append_left _ mem)
  notLong := by
    have all := way.notLong
    rw [List.flatMap_append, Utf8.length, Utf8.encode, List.flatMap_append,
      List.length_append] at all
    exact Nat.le_of_add_right_le all

theorem IsWay.parent?_of_top (way : IsWay [name]) :
    Path.parent? (Path.ofNames [name]) = some "/" :=
  @Path.parent?_ofNames [] name way.slashless fun name mem => (way.areNames name mem).notIdle

theorem IsWay.parent?_of_ne_nil (way : IsWay (names ++ [name])) (h : names ≠ []) :
    Path.parent? (Path.ofNames (names ++ [name])) = some (Path.ofNames names) := by
  rw [Path.parent?_ofNames way.slashless fun name mem => (way.areNames name mem).notIdle,
    List.isEmpty_eq_false_iff.2 h, if_neg (by decide)]

theorem start_ofNames (way : IsWay names) (nonempty : names ≠ []) :
    fs.start (Path.ofNames names) = .ok ([], [] :: names) := by
  obtain ⟨name, rest, rfl⟩ := List.exists_cons_of_ne_nil nonempty
  have absolute : Path.isAbsolute (Path.ofNames (name :: rest)) = true := by
    simp [Path.isAbsolute, Path.ofNames]
  have text : (Path.ofNames (name :: rest)).toList = (name :: rest).flatMap ('/' :: ·) := by
    simp [Path.ofNames]
  rw [start, Path.segments_ofNames way.slashless, absolute, if_pos rfl, text, if_neg, if_neg,
    if_neg]
  · exact Nat.not_lt.2 way.notLong
  · simp
  · simpa using way.notNul

theorem follow_root (fs : Files) (names : List (List Char)) :
    fs.follow [] ([] :: names) = fs.follow [] names := by
  rw [follow, entry?_root]
  rfl

theorem find_ofNames_of_open (way : IsWay names) (nonempty : names ≠ []) (h : Open fs names) :
    fs.find (Path.ofNames names) = .ok (names, .directory) := by
  have found := follow_of_open [] way.areNames h
  have here : fs.entry? names = some .directory := h names List.prefix_rfl
  rw [List.nil_append] at found
  simp only [find, start_ofNames way nonempty, bind, Except.bind, follow_root, found, here]

theorem find_ofNames_of_missing (way : IsWay names) (nonempty : names ≠ [])
    (clear : Clear fs names) (h : ¬ Open fs names) :
    fs.find (Path.ofNames names) = .error .notFound := by
  rw [find, start_ofNames way nonempty]
  rcases follow_of_missing [] way.areNames clear h with notFound | ⟨found, empty⟩
  · simp only [bind, Except.bind, follow_root, notFound]
  · simp only [bind, Except.bind, follow_root, found, empty]

theorem isDirectory_ofNames_of_open (way : IsWay names) (nonempty : names ≠ [])
    (h : Open fs names) : fs.isDirectory (Path.ofNames names) = true := by
  rw [isDirectory, find_ofNames_of_open way nonempty h]

theorem exists?_root (fs : Files) : fs.exists? "/" = true := by
  have begins : fs.start "/" = .ok ([], [[], []]) := rfl
  have follows : fs.follow [] [[], []] = .ok [] := follow_slashes fs.entry?_root (by decide)
  exact exists?_iff.2 ⟨[], _, find_eq_ok_iff.2 ⟨_, _, begins, follows, fs.entry?_root⟩⟩

/-- The names end where the path does, with a name that is neither empty nor made of dots. -/
theorem target_ofNames (way : IsWay (names ++ [name])) :
    fs.target (Path.ofNames (names ++ [name])) = fs.follow [] names >>= fun parent =>
      match fs.entry? parent with
      | none => .error .notFound
      | some (.file _) => .error .notADirectory
      | some .directory => .ok (some (parent ++ [name]), false) := by
  have isName := way.areNames name (by simp)
  obtain ⟨nonempty, single⟩ : name.isEmpty = false ∧ (name == ['.']) = false := by
    simpa [Path.isIdle] using isName.notIdle
  have telling : ([] :: (names ++ [name])).reverse.dropWhile (·.isEmpty) =
      name :: ([] :: names).reverse := by
    simp [nonempty]
  have unslashed : ([] :: (names ++ [name])).getLast?.any (·.isEmpty) = false := by
    simpa [List.getLast?_cons] using nonempty
  rw [target, start_ofNames way (by simp)]
  simp only [bind, Except.bind, telling, unslashed, List.reverse_reverse, follow_root]
  cases fs.follow [] names with
  | error e => rfl
  | ok parent =>
    have dots : ¬ (name = ['.'] ∨ name = ['.', '.']) :=
      not_or.2 ⟨by simpa using single, isName.notUp⟩
    dsimp only
    rcases fs.entry? parent with _ | _ | _
    · rfl
    · rfl
    · exact (if_neg dots).trans (if_neg (Nat.not_lt.2 isName.notLong))

theorem target_ofNames_of_open (way : IsWay (names ++ [name])) (h : Open fs names) :
    fs.target (Path.ofNames (names ++ [name])) = .ok (some (names ++ [name]), false) := by
  have found := follow_of_open [] way.left.areNames h
  have here : fs.entry? names = some .directory := h names List.prefix_rfl
  rw [List.nil_append] at found
  simp only [target_ofNames way, bind, Except.bind, found, here]

theorem target_ofNames_of_missing (way : IsWay (names ++ [name])) (clear : Clear fs names)
    (h : ¬ Open fs names) : fs.target (Path.ofNames (names ++ [name])) = .error .notFound := by
  rw [target_ofNames way]
  rcases follow_of_missing [] way.left.areNames clear h with notFound | ⟨found, empty⟩
  · simp only [bind, Except.bind, notFound]
  · simp only [bind, Except.bind, found, empty]

/-! ## Creating directories -/

/-- A tree in which directories were created along names, and nothing else. -/
structure Opened (names : List (List Char)) (fs fs' : Files) : Prop where
  isOpen : Open fs' names
  others : ∀ place, ¬ place <+: names → fs'.entry? place = fs.entry? place

theorem Opened.refl (h : Open fs names) : Opened names fs fs := ⟨h, fun _ _ => rfl⟩

theorem Opened.trans {after : List (List Char)} {fs₁ fs' : Files} (first : Opened names fs fs₁)
    (second : Opened (names ++ after) fs₁ fs') : Opened (names ++ after) fs fs' where
  isOpen := second.isOpen
  others place apart :=
    (second.others place apart).trans
      (first.others place fun before => apart (before.trans (List.prefix_append names after)))

theorem opened_put (h : Open fs names) (missing : fs.entry? (names ++ [name]) = none) :
    Opened (names ++ [name]) fs (fs.put (names ++ [name]) .directory) where
  isOpen place before := by
    rcases List.prefix_concat_iff.1 before with rfl | before
    · exact entry?_put_self (by simp [missing]) _
    · exact (keepsDirectories_put (by simp [missing]) _).2 place (h place before)
  others place apart := by
    refine entry?_put_of_ne ?_ _
    rintro rfl
    exact apart List.prefix_rfl

theorem open_concat (h : Open fs names) (there : fs.entry? (names ++ [name]) = some .directory) :
    Open fs (names ++ [name]) := by
  intro place before
  rcases List.prefix_concat_iff.1 before with rfl | before
  · exact there
  · exact h place before

/-- Below open names a directory is created, unless it is there already. -/
theorem makeDirectory_of_open (way : IsWay (names ++ [name])) (h : Open fs names)
    (clear : Clear fs (names ++ [name])) :
    ∃ fs', Opened (names ++ [name]) fs fs' ∧
      (fs.makeDirectory (Path.ofNames (names ++ [name])) = .ok fs' ∨
        fs' = fs ∧ fs.makeDirectory (Path.ofNames (names ++ [name])) = .error .alreadyExists ∧
          fs.isDirectory (Path.ofNames (names ++ [name])) = true) := by
  have target := target_ofNames_of_open way h
  rcases clear _ List.prefix_rfl with missing | there
  · refine ⟨_, opened_put h missing, .inl ?_⟩
    simp only [makeDirectory, target, bind, Except.bind, missing]
  · have isOpen := open_concat h there
    refine ⟨fs, .refl isOpen, .inr ⟨rfl, ?_, isDirectory_ofNames_of_open way (by simp) isOpen⟩⟩
    simp only [makeDirectory, target, bind, Except.bind, there]

theorem makeDirectory_of_missing (way : IsWay (names ++ [name])) (clear : Clear fs names)
    (h : ¬ Open fs names) :
    fs.makeDirectory (Path.ofNames (names ++ [name])) = .error .notFound := by
  simp only [makeDirectory, target_ofNames_of_missing way clear h, bind, Except.bind]

theorem Clear.left {after : List (List Char)} (h : Clear fs (names ++ after)) : Clear fs names :=
  fun place before => h place (before.trans (List.prefix_append names after))

theorem Opened.clear {after : List (List Char)} {fs' : Files} (h : Opened names fs fs')
    (clear : Clear fs (names ++ after)) : Clear fs' (names ++ after) := by
  intro place before
  by_cases along : place <+: names
  · exact .inr (h.isOpen place along)
  · rw [h.others place along]
    exact clear place before

/-- **The directories along names are created where they are missing.** -/
theorem makeDirectoriesWith_runs {fuel : Nat} (way : IsWay names) (nonempty : names ≠ [])
    (clear : Clear fs names) (enough : names.length ≤ fuel) :
    ∃ fs', fs.makeDirectoriesWith fuel (Path.ofNames names) = (.ok (), fs') ∧
      Opened names fs fs' := by
  induction names using List.reverseRecOn generalizing fuel with
  | nil => exact absurd rfl nonempty
  | append_singleton names name ih =>
    obtain ⟨fuel, rfl⟩ : ∃ fuel', fuel = fuel' + 1 :=
      Nat.exists_eq_succ_of_ne_zero (by rintro rfl; simp at enough)
    rw [makeDirectoriesWith, Path.isEmpty_ofNames (by simp), if_neg (by decide)]
    by_cases h : Open fs names
    · obtain ⟨fs', opened, made | ⟨rfl, made, there⟩⟩ := makeDirectory_of_open way h clear
      · exact ⟨fs', by rw [made], opened⟩
      · exact ⟨fs', by rw [made, there]; rfl, opened⟩
    · have above : names ≠ [] := by
        rintro rfl
        exact h (open_nil fs)
      have enough' : names.length ≤ fuel := by simpa using enough
      obtain ⟨fs₁, made₁, opened₁⟩ := ih way.left above clear.left enough'
      rw [makeDirectory_of_missing way clear.left h, way.parent?_of_ne_nil above]
      dsimp only
      rw [made₁]
      dsimp only
      obtain ⟨fs', opened, made | ⟨rfl, made, there⟩⟩ :=
        makeDirectory_of_open way opened₁.isOpen (opened₁.clear clear)
      · exact ⟨fs', by rw [made], opened₁.trans opened⟩
      · exact ⟨fs', by rw [made, there]; rfl, opened₁.trans opened⟩

theorem withDirectory_of_exists {path parent : String} (h : Path.parent? path = some parent)
    (there : fs.exists? parent = true) : fs.withDirectory path = (.ok (), fs) := by
  rw [withDirectory, h]
  dsimp only
  rw [if_neg (by simp [there])]

theorem withDirectory_of_missing {path parent : String} (h : Path.parent? path = some parent)
    (named : parent.isEmpty = false) (missing : fs.exists? parent = false) :
    fs.withDirectory path = fs.makeDirectories parent := by
  rw [withDirectory, h]
  dsimp only
  rw [if_pos (by simp [named, missing])]

/-- The directory of a path is there afterwards. -/
theorem withDirectory_runs (way : IsWay (names ++ [name])) (clear : Clear fs names) :
    ∃ fs', fs.withDirectory (Path.ofNames (names ++ [name])) = (.ok (), fs') ∧
      Opened names fs fs' := by
  by_cases top : names = []
  · subst top
    exact ⟨fs, withDirectory_of_exists way.parent?_of_top (exists?_root fs), .refl (open_nil fs)⟩
  · have parent := way.parent?_of_ne_nil top
    by_cases h : Open fs names
    · have there : fs.exists? (Path.ofNames names) = true :=
        exists?_iff.2 ⟨names, _, find_ofNames_of_open way.left top h⟩
      exact ⟨fs, withDirectory_of_exists parent there, .refl h⟩
    · have missing : fs.exists? (Path.ofNames names) = false := by
        rw [exists?, find_ofNames_of_missing way.left top clear h]
        rfl
      have enough : names.length ≤ (Path.ofNames names).length + 1 :=
        Nat.le_succ_of_le (Path.length_le_length_ofNames names)
      rw [withDirectory_of_missing parent (Path.isEmpty_ofNames top) missing]
      exact makeDirectoriesWith_runs way.left top clear enough

/-- **A file can be written wherever a way leads on which no file stands.** -/
theorem writable_ofNames (way : IsWay (names ++ [name])) (clear : Clear fs names)
    (free : fs.entry? (names ++ [name]) ≠ some .directory) :
    fs.Writable (Path.ofNames (names ++ [name])) := by
  obtain ⟨fs', made, opened⟩ := withDirectory_runs way clear
  have beyond : ¬ names ++ [name] <+: names := by
    intro before
    have shorter := before.length_le
    rw [List.length_append] at shorter
    exact absurd shorter (by simp)
  refine ⟨fs', made, _, target_ofNames_of_open way opened.isOpen, ?_⟩
  rwa [opened.others _ beyond]

/-! ## Written once, written again -/

theorem exists?_of_isDirectory {path : String} (h : fs.isDirectory path = true) :
    fs.exists? path = true := by
  unfold isDirectory at h
  split at h
  case h_1 place found => exact exists?_iff.2 ⟨place, _, found⟩
  case h_2 => cases h

/-- A directory is created where its path leads, if nothing is there. -/
theorem makeDirectory_inv {path : String} {fs' : Files} (h : fs.makeDirectory path = .ok fs') :
    ∃ place slashed, fs.target path = .ok (some place, slashed) ∧ fs.entry? place = none ∧
      fs' = fs.put place .directory := by
  obtain ⟨⟨place?, slashed⟩, target, h⟩ := bind_eq_ok_iff.1 h
  cases place? with
  | none => cases h
  | some place =>
    dsimp only at h
    split at h
    case h_1 => cases h
    case h_2 missing => exact ⟨place, slashed, target, missing, (Except.ok.inj h).symm⟩

theorem find_makeDirectory {path : String} {fs' : Files} (h : fs.makeDirectory path = .ok fs') :
    ∃ place, fs.entry? place = none ∧ fs' = fs.put place .directory ∧
      fs'.find path = .ok (place, .directory) := by
  obtain ⟨place, slashed, target, missing, rfl⟩ := makeDirectory_inv h
  exact ⟨place, missing, rfl, find_put target (by simp [missing]) fun _ => rfl⟩

theorem exists?_makeDirectory {path : String} {fs' : Files} (h : fs.makeDirectory path = .ok fs') :
    fs'.exists? path = true := by
  obtain ⟨place, -, -, found⟩ := find_makeDirectory h
  exact exists?_iff.2 ⟨place, _, found⟩

theorem exists?_makeDirectoriesWith {fuel : Nat} {path : String} {fs' : Files}
    (named : path.isEmpty = false) (h : fs.makeDirectoriesWith fuel path = (.ok (), fs')) :
    fs'.exists? path = true := by
  cases fuel with
  | zero => cases h
  | succ fuel =>
    rw [makeDirectoriesWith, named, if_neg (by decide)] at h
    have last {fs : Files} {e : FileError}
        (h : (if fs.isDirectory path then (Except.ok (), fs) else (.error e, fs)) =
          (.ok (), fs')) :
        fs'.exists? path = true := by
      split_ifs at h with there
      · cases h
        exact exists?_of_isDirectory there
      · cases h
    split at h
    case h_1 made =>
      cases h
      exact exists?_makeDirectory made
    case h_2 =>
      split at h
      case h_1 => cases h
      case h_2 =>
        split at h
        case h_1 => cases h
        case h_2 =>
          split at h
          case h_1 made =>
            cases h
            exact exists?_makeDirectory made
          case h_2 => exact last h
    case h_3 => exact last h

/-- A file that was written can be written again. -/
theorem writable_write {path : String} {content : List UInt8} {fs₁ fs' : Files}
    (prepared : fs.withDirectory path = (.ok (), fs₁))
    (written : fs₁.write path content = .ok fs') :
    fs'.Writable path := by
  obtain ⟨place, target, free, rfl⟩ := write_eq_ok_iff.1 written
  refine ⟨fs₁.put place (.file content), ?_, place,
    (keepsDirectories_put free (.file content)).target target, ?_⟩
  · rw [withDirectory] at prepared ⊢
    cases above : Path.parent? path with
    | none => rfl
    | some parent =>
      rw [above] at prepared
      dsimp only at prepared ⊢
      rw [if_neg]
      cases named : parent.isEmpty with
      | true => simp
      | false =>
        have there : fs₁.exists? parent = true := by
          split_ifs at prepared with missing
          · exact exists?_makeDirectoriesWith named prepared
          · cases prepared
            simpa [named] using missing
        simp [exists?_put free _ there]
  · rw [entry?_put_self free]
    simp

end Files

end TrainingPortal
