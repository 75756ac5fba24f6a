import TrainingPortal.Proofs.Growth

/-!
# The directories above a path

Creating the directory of a path creates nothing at the path itself: a path that led nowhere still
leads nowhere (`Files.exists?_of_withDirectory`), unless it goes up from something that was missing.

The segments of a path are those of its parent and more (`Path.segments_of_parent?`). So whatever is
created for the parent lies on the way of the path (`Files.Creates.passes`), and from
there the path leads further down (`Files.Passes.further`).
-/

namespace TrainingPortal

open Text

/-! ## Parents -/

namespace Path

variable {path parent : String}

theorem segments_join {first : List Char} {names : List (List Char)}
    (slashless : ∀ name ∈ first :: names, '/' ∉ name) :
    segments (first ++ names.flatMap ('/' :: ·)) = first :: names := by
  induction names generalizing first with
  | nil => simpa [segments] using splitAt_of_not_mem (slashless first List.mem_cons_self)
  | cons name names ih =>
    obtain ⟨alone, rest⟩ := List.forall_mem_cons.1 slashless
    rw [List.flatMap_cons, List.cons_append, segments, splitAt_append, splitAt_of_not_mem alone,
      ← segments, ih rest, List.singleton_append]

theorem segments_ofSegments {first : List Char} {names : List (List Char)}
    (slashless : ∀ name ∈ first :: names, '/' ∉ name) :
    segments (ofSegments (first :: names)).toList = first :: names := by
  rw [ofSegments_cons, String.toList_ofList, segments_join slashless]

/-- The segments of a path are those of its parent and more, of which one leads somewhere. -/
theorem segments_of_parent? (h : parent? path = some parent) (named : parent.isEmpty = false) :
    parent = "/" ∨ ∃ more, segments path.toList = segments parent.toList ++ more ∧
      ∃ name ∈ more, isIdle name = false := by
  unfold parent? at h
  split at h
  case h_1 => cases h
  case h_2 first tail whole =>
    split at h
    case h_1 =>
      split_ifs at h
      cases h
      cases named
    case h_2 name before telling =>
      have cut : trimIdle tail = before.reverse ++ [name] := by
        simpa using congrArg List.reverse telling
      obtain ⟨behind, eq, -⟩ := exists_dropTailWhile_append isIdle tail
      obtain ⟨between, eq', -⟩ := exists_dropTailWhile_append isIdle before.reverse
      have parts : segments path.toList =
          (first :: trimIdle before.reverse) ++ (between ++ name :: behind) := by
        rw [whole, eq, ← trimIdle, cut]
        conv_lhs => rw [eq', ← trimIdle]
        simp
      have upTo : parent = "/" ∨ parent = ofSegments (first :: trimIdle before.reverse) := by
        split at h
        case h_1 none =>
          rw [none, ofSegments_cons]
          split_ifs at h <;> cases h
          · exact .inl rfl
          · exact .inr (by simp)
        case h_2 =>
          cases h
          exact .inr rfl
      rcases upTo with top | rfl
      · exact .inl top
      · refine .inr ⟨between ++ name :: behind, ?_, name, by simp,
          neg_of_dropTailWhile_eq_concat cut⟩
        rw [segments_ofSegments, parts]
        exact fun name mem => not_mem_of_mem_splitAt (parts ▸ List.mem_append_left _ mem)

/-- A path starts at the root exactly if its first segment is empty. -/
theorem isAbsolute_iff (h : path.isEmpty = false) :
    isAbsolute path = true ↔ (segments path.toList).head? = some [] := by
  rw [isAbsolute, segments]
  cases text : path.toList with
  | nil => simp [String.toList_eq_nil_iff.1 text] at h
  | cons c cs =>
    rw [splitAt]
    by_cases slash : c = '/'
    · simp [slash]
    · cases split : splitAt '/' cs <;> simp [slash]

theorem isAbsolute_eq_of_segments {more : List (List Char)} (h : parent? path = some parent)
    (named : parent.isEmpty = false)
    (whole : segments path.toList = segments parent.toList ++ more) :
    isAbsolute path = isAbsolute parent := by
  have nonempty : path.isEmpty = false := by
    by_contra empty
    obtain rfl : path = "" := by simpa using empty
    cases h
  have some : segments parent.toList ≠ [] := splitAt_ne_nil '/' parent.toList
  have first : (segments path.toList).head? = (segments parent.toList).head? := by
    rw [whole, List.head?_append_of_ne_nil _ some]
  rw [Bool.eq_iff_iff, isAbsolute_iff nonempty, isAbsolute_iff named, first]

end Path

namespace Files

variable {fs fs₁ fs' : Files} {path parent : String} {place : List (List Char)}

/-! ## The way of a path -/

/-- The place that a path starts from. -/
def origin (fs : Files) (path : String) : List (List Char) :=
  if Path.isAbsolute path then [] else fs.home

theorem start_inv {start : List (List Char)} {segments : List (List Char)}
    (h : fs.start path = .ok (start, segments)) :
    start = fs.origin path ∧ segments = Path.segments path.toList := by
  unfold Files.start at h
  dsimp only at h
  split at h
  · cases h
  · split at h
    · cases h
    · split at h
      · cases h
      · cases h
        exact ⟨rfl, rfl⟩

/-- A path that nowhere goes up does not go up from something that is missing. -/
theorem not_goesUpFromMissing (down : ['.', '.'] ∉ Path.segments path.toList) :
    ¬ fs.GoesUpFromMissing path := by
  rintro ⟨start, before, after, begins, -⟩
  obtain ⟨-, whole⟩ := start_inv begins
  exact down (whole ▸ List.mem_append_right before List.mem_cons_self)

/-- Whether a path leads to a place or through it. -/
def Passes (fs : Files) (path : String) (place : List (List Char)) : Prop :=
  ∃ before after, Path.segments path.toList = before ++ after ∧
    fs.follow (fs.origin path) before = .ok place

theorem passes_of_find {entry : FileEntry} (h : fs.find path = .ok (place, entry)) :
    fs.Passes path place := by
  obtain ⟨start, segments, begins, follows, -⟩ := find_eq_ok_iff.1 h
  obtain ⟨rfl, rfl⟩ := start_inv begins
  exact ⟨_, [], (List.append_nil _).symm, follows⟩

theorem Passes.mono (h : fs.Passes path place) (keeps : KeepsDirectories fs fs') :
    fs'.Passes path place := by
  obtain ⟨before, after, eq, follows⟩ := h
  refine ⟨before, after, eq, ?_⟩
  rw [origin, keeps.1]
  exact keeps.follow follows

/-- Where its parent passes, a path passes too, and leads further. -/
theorem Passes.further (h : fs.Passes parent place) (above : Path.parent? path = some parent)
    (named : parent.isEmpty = false) (below : place ≠ []) :
    ∃ before after, Path.segments path.toList = before ++ after ∧
      fs.follow (fs.origin path) before = .ok place ∧ ∃ name ∈ after, Path.isIdle name = false := by
  obtain ⟨before, after, eq, follows⟩ := h
  rcases Path.segments_of_parent? above named with rfl | ⟨more, whole, name, mem, telling⟩
  · -- the root is the only place that its path leads to
    have empty : ∀ segment ∈ before, segment.isEmpty = true := fun segment mem =>
      (by decide : ∀ segment ∈ Path.segments "/".toList, segment.isEmpty = true) segment
        (eq ▸ List.mem_append_left _ mem)
    cases (follow_slashes fs.entry?_root empty).symm.trans follows
    exact absurd rfl below
  · have whole' : Path.segments path.toList = before ++ (after ++ more) := by
      rw [whole, eq, List.append_assoc]
    refine ⟨before, after ++ more, whole', ?_, name, List.mem_append_right _ mem, telling⟩
    rwa [origin, Path.isAbsolute_eq_of_segments above named whole]

theorem passes_of_makeDirectory (h : fs.makeDirectory path = .ok fs')
    (missing : fs.entry? place = none) (made : fs'.entry? place ≠ none) :
    fs'.Passes path place := by
  obtain ⟨there, -, rfl, found⟩ := find_makeDirectory h
  have same : place = there := by
    by_contra ne
    exact made ((entry?_put_of_ne ne _).trans missing)
  rw [same]
  exact passes_of_find found

/-- Whatever is created for a path lies on its way. -/
theorem Creates.passes (h : Creates fs path fs') (missing : fs.entry? place = none)
    (made : fs'.entry? place ≠ none) : fs'.Passes path place := by
  have below : place ≠ [] := by
    rintro rfl
    simp [entry?_root] at missing
  induction h with
  | nothing => exact absurd missing made
  | above h named _ ih =>
    obtain ⟨before, after, eq, follows, -⟩ := (ih made).further h named below
    exact ⟨before, after, eq, follows⟩
  | @last fs₁ fs' path creates made' ih =>
    by_cases there : fs₁.entry? place = none
    · exact passes_of_makeDirectory made' there made
    · exact (ih there).mono (grows_makeDirectory made').keepsDirectories

/-! ## Going down -/

/-- A path that does not go up, and has a name on it, leads below where it starts. -/
theorem length_lt_of_follow {start segments : List (List Char)} (down : ['.', '.'] ∉ segments)
    (telling : ∃ name ∈ segments, Path.isIdle name = false)
    (follows : fs.follow start segments = .ok place) : start.length < place.length := by
  obtain ⟨name, mem, tells⟩ := telling
  obtain ⟨before, after, rfl⟩ := List.append_of_mem mem
  obtain ⟨downBefore, isName, downAfter⟩ : ['.', '.'] ∉ before ∧ name ≠ ['.', '.'] ∧
      ['.', '.'] ∉ after := by
    simpa [not_or, eq_comm] using down
  rw [follow_append] at follows
  obtain ⟨there, first, follows⟩ := bind_eq_ok_iff.1 follows
  have below : there ++ [name] <+: place := by
    rw [follow] at follows
    split at follows
    case h_1 => cases follows
    case h_2 => cases follows
    case h_3 =>
      rw [tells, if_neg (by decide), if_neg isName] at follows
      split_ifs at follows
      exact prefix_of_follow downAfter follows
  calc start.length
      ≤ there.length := (prefix_of_follow downBefore first).length_le
    _ < (there ++ [name]).length := by simp
    _ ≤ place.length := below.length_le

/-- What is missing stays missing further on. -/
theorem Lacks.append {start before : List (List Char)} (h : fs.Lacks start before)
    (after : List (List Char)) : fs.Lacks start (before ++ after) := by
  unfold Lacks at h
  cases first : fs.follow start before with
  | error e =>
    rw [first] at h
    rw [Lacks, follow_append, first]
    exact h
  | ok there =>
    rw [first] at h
    have rest := lacks_of_missing h after
    rw [Lacks] at rest ⊢
    rwa [follow_append, first]

/-- Segments that lead to something new in a tree that grew led nowhere. -/
theorem Grows.lacks_of_follow (h : Grows fs fs') {start segments : List (List Char)}
    (follows : fs'.follow start segments = .ok place) (missing : fs.entry? place = none) :
    fs.Lacks start segments := by
  induction segments generalizing start with
  | nil =>
    obtain rfl := Except.ok.inj follows
    exact missing
  | cons segment rest ih =>
    rcases h.entries start with same | ⟨missing', -⟩
    · have alike : fs'.follow start [segment] = fs.follow start [segment] := by
        simp only [follow, same]
      rw [← List.singleton_append, follow_append, alike] at follows
      obtain ⟨next, step, follows⟩ := bind_eq_ok_iff.1 follows
      exact (lacks_cons_iff step rest).2 (ih follows)
    · exact lacks_of_missing missing' _

/-! ## Creating the directory of a path -/

/-- Nothing new stands at the end of a path whose parents were created. -/
theorem Creates.entry?_of_find (h : Creates fs parent fs') (above : Path.parent? path = some parent)
    (named : parent.isEmpty = false) (down : ¬ fs.GoesUpFromMissing path) {entry : FileEntry}
    (found : fs'.find path = .ok (place, entry)) : fs.entry? place = some entry := by
  obtain ⟨start, segments, begins', follows, stands⟩ := find_eq_ok_iff.1 found
  obtain ⟨rfl, rfl⟩ := start_inv begins'
  rcases h.grows.entries place with same | ⟨missing, made, -⟩
  · rw [← same, stands]
  · -- the path passes the new place on its way and leads further down from there
    have below : place ≠ [] := by
      rintro rfl
      simp [entry?_root] at missing
    obtain ⟨before, after, eq, passes, telling⟩ :=
      (h.passes missing (by simp [made])).further above named below
    have noUp : ['.', '.'] ∉ after := by
      intro mem
      obtain ⟨between, rest, rfl⟩ := List.append_of_mem mem
      refine down ⟨fs'.origin path, before ++ between, rest, ?_,
        (h.grows.lacks_of_follow passes missing).append between⟩
      rw [List.append_assoc, ← eq, ← h.grows.start_eq, begins']
    rw [eq, follow_append, passes] at follows
    exact absurd (length_lt_of_follow noUp telling follows) (Nat.lt_irrefl place.length)

/-- **Creating its directory does not make a path lead anywhere**, unless it goes up from something
that was missing. -/
theorem exists?_of_withDirectory {outcome : Except FileError Unit}
    (h : fs.withDirectory path = (outcome, fs')) (sound : Sound fs)
    (down : ¬ fs.GoesUpFromMissing path) : fs'.exists? path = fs.exists? path := by
  have grows := grows_of_withDirectory h
  rw [withDirectory] at h
  split at h
  case h_1 =>
    cases h
    rfl
  case h_2 parent above =>
    split_ifs at h with missing
    · have named : parent.isEmpty = false := by
        simp only [Bool.and_eq_true, Bool.not_eq_true'] at missing
        exact missing.1
      have creates := creates_makeDirectories fs parent
      rw [h] at creates
      rw [Bool.eq_iff_iff, exists?_iff, exists?_iff]
      constructor
      · rintro ⟨place, entry, found⟩
        have stood := creates.entry?_of_find above named down found
        exact ⟨place, entry, grows.find_of_entry? sound down found stood⟩
      · rintro ⟨place, entry, found⟩
        exact ⟨place, entry, grows.find_of_find found⟩
    · cases h
      rfl

end Files

end TrainingPortal
