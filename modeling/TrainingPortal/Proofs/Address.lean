import TrainingPortal.Endpoint
import TrainingPortal.Proofs.Encoding
import TrainingPortal.Proofs.Pieces
import TrainingPortal.Url.Basic

/-!
# Addresses under a base

The addresses of a portal's services are its base with a path appended, and only the reading of such
an address says which host it leads to and along which path. This module reads them once and for
all.

* `parse_eq`: a URL is read up to its authority (`opening`) and from there on (`ofAuthority`).
* `parse_absolute`: the URL of a path under a base is that of the base closed by a slash, continued
  by the path, unless the base names no host, in which case a path would be taken for one.
* `readPath_append_slash`: the segments of a path behind a slash follow those before it.
-/

namespace TrainingPortal

open Text Encoding

namespace Url

/-! ## Reading in two steps -/

/-- The scheme of a tidy text, and what follows its colon and the slashes behind that. -/
def opening (cs : List Char) : Except Fault (Bool × List Char) :=
  match cutScheme cs with
  | none => .error .noScheme
  | some (scheme, rest) =>
    if scheme ≠ "http".toList ∧ scheme ≠ "https".toList then .error .otherScheme
    else .ok (scheme == "https".toList, rest.dropWhile isSlash)

/-- The URL with the path, query and fragment that a text gives. -/
def continued (u : Url) (rest : List Char) : Url :=
  let (beforeFragment, fragment) := cutWhere (· == '#') rest
  let (path, query) := cutWhere (· == '?') beforeFragment
  { u with
    path := readPath path
    query := if query.isEmpty then none else some (Percent.encodeWith inQuery (query.drop 1))
    fragment :=
      if fragment.isEmpty then none
      else some (Percent.encodeWith inFragment (fragment.drop 1)) }

/-- The URL of a scheme and an authority, without anything behind it. -/
def ofAuthority (secure : Bool) (authority : List Char) : Except Fault Url := do
  let ((username, password), hostPort) := readUserinfo authority
  let (host, port) := cutPort hostPort
  if host.isEmpty then .error .emptyHost
  else
    let host ← readHost host
    let port ← readPort secure port
    return {
      secure, username, password, host, port, path := [[]], query := none, fragment := none }

/-- The URL of a scheme and what follows its opening. -/
def afterOpening (secure : Bool) (after : List Char) : Except Fault Url :=
  (ofAuthority secure (cutWhere endsAuthority after).1).map
    (·.continued (cutWhere endsAuthority after).2)

/-- A URL is read up to its authority and from there on. -/
theorem parse_eq (text : String) :
    parse text = opening (tidy text.toList) >>= fun (secure, after) =>
      afterOpening secure after := by
  unfold parse opening afterOpening ofAuthority continued
  cases cutScheme (tidy text.toList) with
  | none => rfl
  | some cut =>
    obtain ⟨scheme, rest⟩ := cut
    simp only
    split
    case isTrue => rfl
    case isFalse =>
      change _ = Except.map _ (if List.isEmpty _ = true then _ else _)
      split
      case isTrue => rfl
      case isFalse =>
        cases readHost _ with
        | error e => rfl
        | ok host => cases readPort _ _ <;> rfl

/-! ## Texts behind a slash -/

/-- Whether a character stands for itself in a path, being no separator of either kind but the
slash. -/
def isPathChar (c : Char) : Bool := inPath c && c != '\\'

theorem isPathChar_slash : isPathChar '/' = true := by decide

theorem ne_of_isPathChar {c d : Char} (h : isPathChar c = true) (hd : isPathChar d = false) :
    c ≠ d := by
  rintro rfl
  exact absurd h (hd ▸ Bool.false_ne_true)

theorem inPath_of_isPathChar {c : Char} (h : isPathChar c = true) : inPath c = true :=
  (Bool.and_eq_true_iff.1 h).1

theorem visible_of_isPathChar {c : Char} (h : isPathChar c = true) :
    decide (c.toNat ≤ 0x20) = false := by
  simp only [isPathChar, inPath, inFragment, Bool.and_eq_true, decide_eq_true_eq] at h
  simpa using h.1.1.1.1

/-- What is left of the start of a text when the text is tidied. -/
def stem (cs : List Char) : List Char :=
  (cs.dropWhile (·.toNat ≤ 0x20)).filter fun c => c != '\t' && c != '\n' && c != '\r'

theorem tidy_append_slash (cs : List Char) {x : List Char} (h : ∀ c ∈ x, isPathChar c = true) :
    tidy (cs ++ '/' :: x) = stem cs ++ '/' :: x := by
  have path : ∀ c ∈ '/' :: x, isPathChar c = true := List.forall_mem_cons.2 ⟨isPathChar_slash, h⟩
  have started : (cs ++ '/' :: x).dropWhile (·.toNat ≤ 0x20) =
      cs.dropWhile (·.toNat ≤ 0x20) ++ '/' :: x := by
    rw [List.dropWhile_append]
    split
    case isTrue blank =>
      rw [List.isEmpty_iff.1 blank]
      rfl
    case isFalse => rfl
  have ended (ys : List Char) :
      dropTailWhile (·.toNat ≤ 0x20) (ys ++ '/' :: x) = ys ++ '/' :: x := by
    rw [← List.dropLast_append_getLast (List.cons_ne_nil '/' x), ← List.append_assoc]
    refine dropTailWhile_append_of_neg ?_ _
    exact visible_of_isPathChar (path _ (List.getLast_mem _))
  have kept : ('/' :: x).filter (fun c => c != '\t' && c != '\n' && c != '\r') = '/' :: x := by
    refine List.filter_eq_self.2 fun c hc => ?_
    have differs := fun d => ne_of_isPathChar (d := d) (path c hc)
    simp [differs '\t' (by decide), differs '\n' (by decide), differs '\r' (by decide)]
  rw [tidy, started, ended, List.filter_append, kept, stem]

theorem cutScheme_append_slash (cs x : List Char) :
    cutScheme (cs ++ '/' :: x) =
      (cutScheme cs).map fun (scheme, rest) => (scheme, rest ++ '/' :: x) := by
  cases cs with
  | nil => rfl
  | cons c cs =>
    simp only [cutScheme, List.cons_append]
    split
    case isFalse => rfl
    case isTrue =>
      rw [← List.cons_append]
      cases h : (c :: cs).dropWhile isSchemeChar with
      | nil => 
        rw [List.dropWhile_append, h]
        rfl
      | cons d ds =>
        have stops : (c :: cs).dropWhile isSchemeChar ≠ [] := by simp [h]
        obtain ⟨dropped, taken⟩ := dropWhile_append_of_ne_nil stops ('/' :: x)
        rw [dropped, taken, h]
        by_cases colon : d = ':'
        · subst colon
          rfl
        · simp [colon]

/-- A slash behind a text does not change how it opens, unless there is no authority. -/
theorem opening_append_slash (cs x : List Char) :
    opening (cs ++ '/' :: x) =
      match opening cs with
      | .error e => .error e
      | .ok (secure, []) => .ok (secure, x.dropWhile isSlash)
      | .ok (secure, after) => .ok (secure, after ++ '/' :: x) := by
  unfold opening
  rw [cutScheme_append_slash]
  cases cutScheme cs with
  | none => rfl
  | some cut =>
    obtain ⟨scheme, rest⟩ := cut
    simp only [Option.map_some]
    split
    case isTrue => rfl
    case isFalse =>
      cases h : rest.dropWhile isSlash with
      | nil => 
        rw [List.dropWhile_append, h]
        rfl
      | cons d ds =>
        have stops : rest.dropWhile isSlash ≠ [] := by simp [h]
        rw [(dropWhile_append_of_ne_nil stops ('/' :: x)).1, h]

theorem eq_append_of_cutScheme {cs scheme rest : List Char}
    (h : cutScheme cs = some (scheme, rest)) : ∃ before, cs = before ++ ':' :: rest := by
  cases cs with
  | nil => cases h
  | cons c cs =>
    simp only [cutScheme] at h
    split at h
    case isFalse => cases h
    case isTrue =>
      split at h
      case h_1 colon =>
        obtain ⟨-, rfl⟩ := Prod.mk.inj (Option.some.inj h)
        exact ⟨(c :: cs).takeWhile isSchemeChar, by rw [← colon, List.takeWhile_append_dropWhile]⟩
      case h_2 => cases h

/-- What follows the opening of a text, with the slashes that the opening passes over. -/
theorem eq_append_of_opening {cs after : List Char} {secure : Bool}
    (h : opening cs = .ok (secure, after)) :
    ∃ before slashes, (∀ c ∈ slashes, isSlash c = true) ∧
      cs = before ++ ':' :: (slashes ++ after) := by
  unfold opening at h
  cases cut : cutScheme cs with
  | none => simp [cut] at h
  | some found =>
    obtain ⟨scheme, rest⟩ := found
    simp only [cut] at h
    split at h
    case isTrue => cases h
    case isFalse =>
      obtain ⟨-, rfl⟩ := Prod.mk.inj (Except.ok.inj h)
      obtain ⟨before, rfl⟩ := eq_append_of_cutScheme cut
      refine ⟨before, rest.takeWhile isSlash, fun c hc => ?_, ?_⟩
      · exact List.all_eq_true.1 List.all_takeWhile c hc
      · rw [List.takeWhile_append_dropWhile]

theorem mem_of_mem_stem {cs : List Char} {c : Char} (h : c ∈ stem cs) : c ∈ cs :=
  (List.dropWhile_sublist _).subset (List.mem_of_mem_filter h)

theorem endsAuthority_slash : endsAuthority '/' = true := by decide

theorem afterOpening_append_slash (secure : Bool) (after x : List Char) :
    afterOpening secure (after ++ '/' :: x) =
      (ofAuthority secure (cutWhere endsAuthority after).1).map
        (·.continued ((cutWhere endsAuthority after).2 ++ '/' :: x)) := by
  rw [afterOpening, cutWhere_append_of_pos endsAuthority_slash]

theorem map_continued_map_continued (read : Except Fault Url) (rest rest' : List Char) :
    (read.map (·.continued rest)).map (·.continued rest') = read.map (·.continued rest') := by
  cases read <;> rfl

/-- Whether a base names something behind its scheme that a host can be read from. Otherwise what is
appended to the base is taken for the host. -/
def Hosted (base : String) : Prop := ∀ secure, opening (stem base.toList) ≠ .ok (secure, [])

theorem parse_append_slash (base path : String) {x : List Char} (hpath : path.toList = '/' :: x)
    (hx : ∀ c ∈ x, isPathChar c = true) :
    parse (Endpoint.absolute base path) =
      opening (stem base.toList ++ '/' :: x) >>= fun (secure, after) =>
        afterOpening secure after := by
  rw [parse_eq, Endpoint.absolute, String.toList_append, hpath, tidy_append_slash _ hx]

theorem hosted_of_root {base : String}
    (h : parse (Endpoint.absolute base "/") ≠ .error .emptyHost) : Hosted base := by
  intro secure opens
  refine h ?_
  rw [parse_append_slash base "/" (x := []) (by decide) (by simp), opening_append_slash, opens]
  rfl

/-- A base that is a URL names a host. -/
theorem hosted_of_parse {base : String} {u : Url} (h : parse base = .ok u) : Hosted base := by
  intro secure opens
  obtain ⟨before, slashes, slash, eq⟩ := eq_append_of_opening opens
  rw [List.append_nil] at eq
  -- the base ends with the colon or a slash, so that nothing at its end is dropped
  have ends : ∀ c ∈ (':' :: slashes), ¬ c.toNat ≤ 0x20 := by
    refine List.forall_mem_cons.2 ⟨by decide, fun c hc => ?_⟩
    have := slash c hc
    simp only [isSlash, Bool.or_eq_true, beq_iff_eq] at this
    rcases this with rfl | rfl <;> decide
  have same : tidy base.toList = stem base.toList := by
    obtain ⟨tail, split, blank⟩ := exists_dropTailWhile_append (·.toNat ≤ 0x20)
      (base.toList.dropWhile (·.toNat ≤ 0x20))
    have stems := congrArg (List.filter fun c => c != '\t' && c != '\n' && c != '\r') split
    rw [List.filter_append] at stems
    change stem base.toList = tidy base.toList ++ _ at stems
    cases kept : tail.filter fun c => c != '\t' && c != '\n' && c != '\r' with
    | nil => rw [stems, kept, List.append_nil]
    | cons d ds =>
      rw [kept, eq] at stems
      have last := congrArg List.getLast? stems
      rw [List.getLast?_append_cons, List.getLast?_append_cons,
        List.getLast?_eq_some_getLast (List.cons_ne_nil _ _),
        List.getLast?_eq_some_getLast (List.cons_ne_nil _ _), Option.some_inj] at last
      have mem : (d :: ds).getLast (List.cons_ne_nil _ _) ∈ tail := by
        refine List.mem_of_mem_filter (p := fun c => c != '\t' && c != '\n' && c != '\r') ?_
        rw [kept]
        exact List.getLast_mem _
      exact absurd (of_decide_eq_true (blank _ mem)) (last ▸ ends _ (List.getLast_mem _))
  rw [parse_eq, same, opens] at h
  cases h

/-- **Addresses under a base.** The URL of a path under a base that names a host is that of the base
closed by a slash, continued by the path. What is continued, the `rest`, is the path that the base
brings along, and it is empty or begins where the authority ends. -/
theorem parse_absolute {base : String} (hosted : Hosted base) :
    ∃ rest : List Char, (∀ c ∈ rest, c ∈ base.toList) ∧
      (∀ c ∈ rest.head?, endsAuthority c = true) ∧
      ∀ (path : String) (x : List Char), path.toList = '/' :: x →
        (∀ c ∈ x, isPathChar c = true) →
        parse (Endpoint.absolute base path) =
          (parse (Endpoint.absolute base "/")).map (·.continued (rest ++ '/' :: x)) := by
  have closed := parse_append_slash base "/" (x := []) (by decide) (by simp)
  rw [opening_append_slash] at closed
  cases opens : opening (stem base.toList) with
  | error e =>
    refine ⟨[], by simp, by simp, fun path x hpath hx => ?_⟩
    rw [parse_append_slash base path hpath hx, opening_append_slash, closed, opens]
    rfl
  | ok cut =>
    obtain ⟨secure, after⟩ := cut
    cases after with
    | nil => exact absurd opens (hosted secure)
    | cons c after =>
      refine ⟨(cutWhere endsAuthority (c :: after)).2, ?_, ?_, fun path x hpath hx => ?_⟩
      · intro d hd
        obtain ⟨before, slashes, -, eq⟩ := eq_append_of_opening opens
        have mem := (List.dropWhile_sublist fun d => !endsAuthority d).subset hd
        refine mem_of_mem_stem (eq ▸ ?_)
        simp [List.mem_cons.1 mem]
      · intro d hd
        have stops := List.head?_dropWhile_not (fun d => !endsAuthority d) (c :: after)
        rw [Option.mem_def] at hd
        change List.head? (List.dropWhile _ _) = _ at hd
        rw [hd] at stops
        simpa using stops
      · rw [parse_append_slash base path hpath hx, opening_append_slash, closed, opens]
        change afterOpening secure (c :: after ++ '/' :: x) =
          (afterOpening secure (c :: after ++ ['/'])).map _
        rw [afterOpening_append_slash, afterOpening_append_slash, map_continued_map_continued]

/-! ## Paths behind a slash -/

theorem continued_of_plain (u : Url) {rest : List Char} (h : ∀ c ∈ rest, c ≠ '?' ∧ c ≠ '#') :
    u.continued rest = { u with path := readPath rest, query := none, fragment := none } := by
  have noFragment : cutWhere (· == '#') rest = (rest, []) :=
    cutWhere_of_forall fun c hc => by simpa using (h c hc).2
  have noQuery : cutWhere (· == '?') rest = (rest, []) :=
    cutWhere_of_forall fun c hc => by simpa using (h c hc).1
  simp [continued, noFragment, noQuery]

/-- Where a segment leads that is not the last one. -/
def descend (above : List (List Char)) (segment : List Char) : List (List Char) :=
  if isDoubleDot segment then above.dropLast
  else if isDot segment then above
  else above ++ [Percent.encodeWith inPath segment]

theorem resolve_append (segments : List (List Char)) {more : List (List Char)} (h : more ≠ [])
    (above : List (List Char)) :
    resolve above (segments ++ more) = resolve (segments.foldl descend above) more := by
  induction segments generalizing above with
  | nil => rfl
  | cons segment segments ih =>
    have last : (segments ++ more).isEmpty = false := by simp [h]
    rw [List.cons_append, resolve, last, List.foldl_cons, descend]
    simp only [Bool.false_eq_true, if_false]
    split
    · exact ih _
    · split <;> exact ih _

/-- A segment that stands in a path as it is and leads down. -/
structure IsPlain (segment : List Char) : Prop where
  chars : ∀ c ∈ segment, isPathChar c = true
  slash : '/' ∉ segment
  dot : isDot segment = false
  dots : isDoubleDot segment = false

instance (segment : List Char) : Decidable (IsPlain segment) :=
  decidable_of_iff (segment.all isPathChar = true ∧ '/' ∉ segment ∧ isDot segment = false ∧
      isDoubleDot segment = false)
    ⟨fun ⟨chars, slash, dot, dots⟩ => ⟨List.all_eq_true.1 chars, slash, dot, dots⟩,
      fun ⟨chars, slash, dot, dots⟩ => ⟨List.all_eq_true.2 chars, slash, dot, dots⟩⟩

theorem isPlain_nil : IsPlain [] := by decide

/-- Plain segments follow those above them. -/
theorem resolve_of_plain {segments : List (List Char)} (above : List (List Char))
    (h : ∀ s ∈ segments, IsPlain s) : resolve above segments = above ++ segments := by
  induction segments generalizing above with
  | nil => exact (List.append_nil _).symm
  | cons segment segments ih =>
    obtain ⟨plain, others⟩ := List.forall_mem_cons.1 h
    have kept := Percent.encodeWith_of_forall fun c hc => inPath_of_isPathChar (plain.chars c hc)
    rw [resolve, plain.dots, plain.dot, kept]
    simp only [Bool.false_eq_true, if_false]
    rw [ih _ others, List.append_assoc, List.singleton_append]

/-- The segments of a path that something behind a slash follows. -/
def above : List Char → List (List Char)
  | [] => []
  | _ :: cs => (Path.segments (cs.map fun c => if c = '\\' then '/' else c)).foldl descend []

/-- The segments behind a slash follow those before it. -/
theorem readPath_append_slash {rest : List Char} (h : ∀ c ∈ rest.head?, isSlash c = true)
    {x : List Char} (hx : '\\' ∉ x) :
    readPath (rest ++ '/' :: x) = resolve (above rest) (Path.segments x) := by
  have same : x.map (fun c => if c = '\\' then '/' else c) = x := by
    refine (List.map_congr_left fun c hc => if_neg ?_).trans (List.map_id' x)
    rintro rfl
    exact hx hc
  cases rest with
  | nil => simp [readPath, above, same]
  | cons s cs =>
    have slash : (if s = '\\' then '/' else s) = '/' := by
      have := h s rfl
      simp only [isSlash, Bool.or_eq_true, beq_iff_eq] at this
      rcases this with rfl | rfl <;> rfl
    have behind : ('/' : Char) = if '/' = '\\' then '/' else '/' := rfl
    simp only [readPath, List.cons_append, List.map_cons, slash, List.map_append, same, above,
      Path.segments]
    rw [← behind, splitAt_append, resolve_append _ (splitAt_ne_nil '/' x)]

end Url

end TrainingPortal
