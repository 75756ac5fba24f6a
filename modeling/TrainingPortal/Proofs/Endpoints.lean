import Mathlib.Data.List.TakeWhile
import TrainingPortal.Portal.Broker
import TrainingPortal.Proofs.Encoding
import TrainingPortal.Proofs.Pieces
import TrainingPortal.Url.Basic

/-!
# Bases and the names behind them

* `base_settles`: a base starts with no white space and ends with no slash, so that every address of
  a service (`Service`) has exactly one slash between the base and the rest of the path. It also
  ends with no white space and is its own base, unless white space stands right before the slashes
  that are taken off the address (`BlankBeforeSlashes`). Then it is neither (`base_unsettled`).
* `addresses_tell_names`: the part of an address that stands for a name is percent-encoded
  (`Escaped`) and gives the name back. So different names have different addresses, and no address
  with a name is that of another service.
-/

namespace TrainingPortal

open Text Encoding

namespace Endpoint

/-! ## Bases -/

/-- An address of a service of a portal. -/
inductive Service (base : String) : String → Prop
  | token : Service base (token base)
  | revoke : Service base (revoke base)
  | catalog : Service base (catalog base)
  | logout : Service base (logout base)
  | request (environment : String) : Service base (request base environment)
  | terminate (session : String) : Service base (terminate base session)

/-- Whether white space stands right before the slashes at the end of an address, behind something
that is not white space. White space may follow the slashes. -/
def BlankBeforeSlashes (url : String) : Prop :=
  ∃ before blank slashes after, url.toList = before ++ blank :: (slashes ++ after) ∧
    (∃ c ∈ before, isBlank c = false) ∧ isBlank blank = true ∧ slashes ≠ [] ∧
    (∀ c ∈ slashes, c = '/') ∧ ∀ c ∈ after, isBlank c = true

/-- The path of a service starts with a single slash. -/
theorem path_of_service {base address : String} (h : Service base address) :
    ∃ c rest, c ≠ '/' ∧ address.toList = base.toList ++ '/' :: c :: rest := by
  cases h with
  | token => exact ⟨'o', "auth2/token/".toList, by decide, by simp [token, absolute]⟩
  | revoke => exact ⟨'o', "auth2/revoke-token/".toList, by decide, by simp [revoke, absolute]⟩
  | catalog =>
    exact ⟨'w', "orkshops/catalog/environments".toList, by decide, by simp [catalog, absolute]⟩
  | logout => exact ⟨'a', "ccounts/logout/".toList, by decide, by simp [logout, absolute]⟩
  | request environment =>
    exact ⟨'w', ("orkshops/environment/" ++ Percent.encodeName environment ++ "/request/").toList,
      by decide, by simp [request, absolute]⟩
  | terminate session =>
    exact ⟨'w', ("orkshops/session/" ++ Percent.encodeName session ++ "/terminate/").toList,
      by decide, by simp [terminate, absolute]⟩

variable {url : String} {c : Char} {cs : List Char}

theorem toList_base (url : String) :
    (base url).toList = dropTailWhile (· == '/') (trimEnd (trimStart url.toList)) := by
  rw [base, trim, String.toList_ofList, String.toList_ofList]

theorem not_isBlank_of_mem_head?_trimStart (h : c ∈ (trimStart cs).head?) : isBlank c = false := by
  have first := List.head?_dropWhile_not isBlank cs
  rw [trimStart, Option.mem_def] at h
  rwa [h] at first

theorem trimStart_eq_self (h : ∀ c ∈ cs.head?, isBlank c = false) : trimStart cs = cs := by
  cases cs with
  | nil => rfl
  | cons c cs => rw [trimStart, List.dropWhile_cons_of_neg (by simp [h c rfl])]

/-- A base is what an address starts with behind the white space at its start. -/
theorem base_prefix_trimStart (url : String) : (base url).toList <+: trimStart url.toList := by
  rw [toList_base]
  exact (dropTailWhile_isPrefix _ _).trans (dropTailWhile_isPrefix _ _)

theorem not_isBlank_of_mem_head?_base (h : c ∈ (base url).toList.head?) : isBlank c = false := by
  obtain ⟨tail, whole⟩ := base_prefix_trimStart url
  have first : c ∈ (trimStart url.toList).head? := by
    rw [← whole, List.head?_append, Option.mem_def.1 h]
    rfl
  exact not_isBlank_of_mem_head?_trimStart first

theorem ne_slash_of_mem_getLast?_base (h : c ∈ (base url).toList.getLast?) : c ≠ '/' := by
  obtain ⟨init, whole⟩ := List.getLast?_eq_some_iff.1 h
  rw [toList_base] at whole
  simpa using neg_of_dropTailWhile_eq_concat whole

/-- A base is its own base exactly if it ends with no white space. -/
theorem base_base_eq_iff (url : String) :
    base (base url) = base url ↔ ∀ c ∈ (base url).toList.getLast?, isBlank c = false := by
  have started : trimStart (base url).toList = (base url).toList :=
    trimStart_eq_self fun _ => not_isBlank_of_mem_head?_base
  rw [← String.toList_inj, toList_base (base url), started]
  rcases List.eq_nil_or_concat' (base url).toList with whole | ⟨init, last, whole⟩
  · rw [whole]
    exact iff_of_true rfl (by simp)
  · have slash : last ≠ '/' :=
      ne_slash_of_mem_getLast?_base (by rw [whole, List.getLast?_concat]; rfl)
    simp only [whole, List.getLast?_concat, Option.mem_def, Option.some.injEq, forall_eq']
    cases blank : isBlank last with
    | false =>
      rw [trimEnd, dropTailWhile_append_of_neg blank,
        dropTailWhile_append_of_neg (by simpa using slash)]
      exact iff_of_true rfl rfl
    | true =>
      refine iff_of_false (fun same => ?_) (by decide)
      rw [trimEnd, dropTailWhile_append_of_forall (by simpa using blank)] at same
      have shorter : init ++ [last] <+: init :=
        same ▸ (dropTailWhile_isPrefix _ _).trans (dropTailWhile_isPrefix _ _)
      exact absurd shorter.length_le (by simp)

/-- What is taken off an address: white space before the base, slashes and white space behind it. -/
theorem exists_append_base (url : String) :
    ∃ before slashes after, url.toList = before ++ ((base url).toList ++ (slashes ++ after)) ∧
      (∀ c ∈ slashes, c = '/') ∧ (∀ c ∈ after, isBlank c = true) ∧
      ∀ c ∈ ((base url).toList ++ slashes).getLast?, isBlank c = false := by
  obtain ⟨slashes, trimmed, slash⟩ :=
    exists_dropTailWhile_append (· == '/') (trimEnd (trimStart url.toList))
  obtain ⟨after, started, blank⟩ := exists_dropTailWhile_append isBlank (trimStart url.toList)
  rw [← toList_base] at trimmed
  rw [← trimEnd, trimmed, List.append_assoc] at started
  refine ⟨url.toList.takeWhile isBlank, slashes, after, ?_, fun c mem => by simpa using slash c mem,
    blank, fun c last => ?_⟩
  · rw [← started, trimStart, List.takeWhile_append_dropWhile]
  · obtain ⟨init, whole⟩ := List.getLast?_eq_some_iff.1 last
    rw [← trimmed] at whole
    exact neg_of_dropTailWhile_eq_concat whole

/-- A base that ends with white space is followed by slashes. -/
theorem blankBeforeSlashes_of_mem_getLast?_base (last : c ∈ (base url).toList.getLast?)
    (blank : isBlank c = true) : BlankBeforeSlashes url := by
  obtain ⟨init, whole⟩ := List.getLast?_eq_some_iff.1 last
  obtain ⟨before, slashes, after, split, slash, blanks, visible⟩ := exists_append_base url
  have first : ∀ d ∈ (base url).toList.head?, isBlank d = false :=
    fun _ => not_isBlank_of_mem_head?_base
  rw [whole] at split visible first
  refine ⟨before ++ init, c, slashes, after, by simpa using split, ?_, blank, ?_, slash, blanks⟩
  · cases init with
    | nil => exact absurd (blank.symm.trans (first c rfl)) (by decide)
    | cons d init => exact ⟨d, by simp, first d rfl⟩
  · rintro rfl
    exact absurd (blank.symm.trans (visible c (by simp))) (by decide)

/-- White space behind something that is not white space is kept if slashes follow it. -/
theorem base_of_blankBeforeSlashes (h : BlankBeforeSlashes url) :
    ∃ c ∈ (base url).toList.getLast?, isBlank c = true := by
  obtain ⟨before, c, slashes, after, split, ⟨d, mem, visible⟩, blank, some, slash, blanks⟩ := h
  obtain ⟨init, last, rfl⟩ := (List.eq_nil_or_concat' slashes).resolve_left some
  have stops : before.dropWhile isBlank ≠ [] := by
    rw [ne_eq, List.dropWhile_eq_nil_iff]
    exact fun all => absurd (all d mem) (by simp [visible])
  obtain rfl : last = '/' := slash last (by simp)
  have started : trimStart url.toList =
      before.dropWhile isBlank ++ [c] ++ init ++ ['/'] ++ after := by
    rw [split, trimStart, (dropWhile_append_of_ne_nil stops _).1]
    simp
  have notSlash : (c == '/') = false := by
    rw [beq_eq_false_iff_ne]
    rintro rfl
    exact absurd blank (by decide)
  refine ⟨c, ?_, blank⟩
  rw [toList_base, started, trimEnd, dropTailWhile_append_of_forall blanks,
    dropTailWhile_append_of_neg (by decide), List.append_assoc _ init,
    dropTailWhile_append_of_forall (fun e he => by simp [slash e he]),
    dropTailWhile_append_of_neg (p := (· == '/')) notSlash, List.getLast?_concat]
  rfl

/-- A base ends with no white space unless white space stands before the slashes. -/
theorem getLast?_base_iff (url : String) :
    (∀ c ∈ (base url).toList.getLast?, isBlank c = false) ↔ ¬ BlankBeforeSlashes url := by
  refine ⟨fun visible h => ?_, fun h c last => ?_⟩
  · obtain ⟨c, last, blank⟩ := base_of_blankBeforeSlashes h
    exact absurd (blank.symm.trans (visible c last)) (by decide)
  · by_contra blank
    exact h (blankBeforeSlashes_of_mem_getLast?_base last (by simpa using blank))

theorem base_of_ofCredentials {c : Credentials} {b : Broker} (h : Broker.ofCredentials c = .ok b) :
    b.base = base c.url := by
  rw [Broker.ofCredentials] at h
  cases valid : c.validate with
  | error e =>
    rw [valid] at h
    exact nomatch h
  | ok u =>
    simp only [valid, Except.map, Except.ok.injEq] at h
    rw [← h]

/-- **What a base is.** The base of an address starts with no white space and ends with no slash, so
that exactly one slash stands between it and the rest of the address of a service. It also ends with
no white space and is its own base exactly if no white space stands before the slashes at the end of
the address, and then it is the base of every broker whose credentials name it. -/
theorem base_settles (url : String) :
    (∀ c ∈ (base url).toList.head?, isBlank c = false) ∧
    (∀ c ∈ (base url).toList.getLast?, c ≠ '/') ∧
    (∀ address, Service (base url) address →
      ∃ c rest, c ≠ '/' ∧ address.toList = (base url).toList ++ '/' :: c :: rest) ∧
    ((∀ c ∈ (base url).toList.getLast?, isBlank c = false) ↔ ¬ BlankBeforeSlashes url) ∧
    (base (base url) = base url ↔ ¬ BlankBeforeSlashes url) ∧
    (¬ BlankBeforeSlashes url → ∀ c b, c.url = base url → Broker.ofCredentials c = .ok b →
      b.base = base url) := by
  have own := (base_base_eq_iff url).trans (getLast?_base_iff url)
  refine ⟨fun _ => not_isBlank_of_mem_head?_base, fun _ => ne_slash_of_mem_getLast?_base,
    fun _ => path_of_service, getLast?_base_iff url, own, fun settled c b named made => ?_⟩
  rw [base_of_ofCredentials made, named, own.2 settled]

/-- White space around an address and behind its slashes does no harm. -/
theorem base_settles_blanks :
    base "\t http://p// \n" = "http://p" ∧ ¬ BlankBeforeSlashes "\t http://p// \n" ∧
      base (base "\t http://p// \n") = base "\t http://p// \n" := by
  have is : base "\t http://p// \n" = "http://p" := by decide
  obtain ⟨-, -, -, stops, own, -⟩ := base_settles "\t http://p// \n"
  have last : (base "\t http://p// \n").toList.getLast? = some 'p' := by decide
  have settled : ¬ BlankBeforeSlashes "\t http://p// \n" := stops.1 fun c ends => by
    cases last.symm.trans ends
    decide
  exact ⟨is, settled, own.2 settled⟩

/-- White space before the slash stays at the end of the base, and is taken off as soon as the base
is read as an address again. With it, the addresses of services are no URLs. -/
theorem base_unsettled :
    base "http://p /" = "http://p " ∧ base (base "http://p /") = "http://p" ∧
      base (base "http://p /") ≠ base "http://p /" ∧ isBlank ' ' = true ∧
      (∀ u, Url.parse (token (base "http://p /")) ≠ .ok u) ∧
      ∃ u, Url.parse (token (base (base "http://p /"))) = .ok u := by
  have first : base "http://p /" = "http://p " := by decide
  have second : base "http://p " = "http://p" := by decide
  rw [first, second]
  refine ⟨rfl, rfl, by decide, by decide, fun u parsed => ?_, ?_⟩
  · have refused : (Url.parse (token "http://p ")).isOk = false := by decide +kernel
    rw [parsed] at refused
    cases refused
  · have accepted : (Url.parse (token "http://p")).isOk = true := by decide +kernel
    cases parsed : Url.parse (token "http://p") with
    | ok u => exact ⟨u, rfl⟩
    | error fault =>
      rw [parsed] at accepted
      cases accepted

/-! ## Names -/

end Endpoint

namespace Encoding.Percent

/-- Percent-encoded text: unreserved characters, and percent signs with two hexadecimal digits. -/
inductive Escaped : List Char → Prop
  | nil : Escaped []
  | kept {c : Char} {cs : List Char}
    (unreserved : isLetter c = true ∨ isDigit c = true ∨ c ∈ ['-', '_', '.', '~'])
    (rest : Escaped cs) : Escaped (c :: cs)
  | escape {high low : Char} {cs : List Char} (first : isHexDigit high = true)
    (second : isHexDigit low = true) (rest : Escaped cs) : Escaped ('%' :: high :: low :: cs)

theorem isHexDigit_upperDigit {n : Nat} (h : n < 16) : isHexDigit (upperDigit n) = true := by
  rw [isHexDigit, digitValue?_upperDigit h]
  rfl

theorem escaped_encodeChar_append (c : Char) {rest : List Char} (h : Escaped rest) :
    Escaped (encodeChar c ++ rest) := by
  unfold encodeChar
  induction Utf8.encodeChar c with
  | nil => exact h
  | cons b bs ih =>
    have small : b.toNat < 256 := b.toNat_lt
    rw [List.flatMap_cons, List.append_assoc]
    exact .escape (isHexDigit_upperDigit (by omega)) (isHexDigit_upperDigit (by omega)) ih

theorem escaped_encodeWith (cs : List Char) : Escaped (encodeWith isUnreserved cs) := by
  unfold encodeWith
  induction cs with
  | nil => exact .nil
  | cons c cs ih =>
    rw [List.flatMap_cons]
    split
    case isTrue kept =>
      refine .kept ?_ ih
      simpa [isUnreserved, isWordChar, or_assoc] using kept
    case isFalse => exact escaped_encodeChar_append c ih

/-- What stands for a name is percent-encoded. -/
theorem escaped_encodeName (s : String) : Escaped (encodeName s).toList := by
  rw [encodeName, String.toList_ofList]
  exact escaped_encodeWith _

/-- The text that percent-encoded text stands for. -/
def decodeName? (s : String) : Option String :=
  (Utf8.decode? (decode s.toList)).map String.ofList

/-- The text that an encoded name stands for is the name. -/
theorem decodeName?_encodeName (s : String) : decodeName? (encodeName s) = some s := by
  rw [decodeName?, decode_encodeName, Utf8.bytes, Utf8.decode?_encode, Option.map_some,
    String.ofList_toList]

theorem encodeName_injective {s t : String} (h : encodeName s = encodeName t) : s = t := by
  have same := congrArg decodeName? h
  rwa [decodeName?_encodeName, decodeName?_encodeName, Option.some_inj] at same

end Encoding.Percent

namespace Endpoint

variable {base name part : String}

/-- Only the encoded name stands where a name stands. -/
theorem absolute_around_eq_iff {before after : String} :
    absolute base (before ++ Percent.encodeName name ++ after) = base ++ before ++ part ++ after ↔
      part = Percent.encodeName name := by
  rw [absolute]
  simp only [String.append_assoc, String.append_right_inj, String.append_left_inj]
  exact eq_comm

theorem request_eq_iff :
    request base name = base ++ "/workshops/environment/" ++ part ++ "/request/" ↔
      part = Percent.encodeName name :=
  absolute_around_eq_iff

theorem terminate_eq_iff :
    terminate base name = base ++ "/workshops/session/" ++ part ++ "/terminate/" ↔
      part = Percent.encodeName name :=
  absolute_around_eq_iff

/-- **Addresses tell names.** What stands in an address for the name of an environment or a session
is percent-encoded and gives the name back. Hence different names have different addresses, and
under one base the address for an environment is none for a session, and neither is the address of a
service without names. -/
theorem addresses_tell_names (base : String) :
    (∀ name, ∃ part,
      (∀ p, request base name = base ++ "/workshops/environment/" ++ p ++ "/request/" ↔ p = part) ∧
      (∀ p, terminate base name = base ++ "/workshops/session/" ++ p ++ "/terminate/" ↔ p = part) ∧
      Percent.Escaped part.toList ∧ Percent.decodeName? part = some name) ∧
    (∀ name name', request base name = request base name' → name = name') ∧
    (∀ name name', terminate base name = terminate base name' → name = name') ∧
    (∀ name name', request base name ≠ terminate base name') ∧
    ∀ name, ∀ address ∈ [token base, revoke base, catalog base, logout base],
      request base name ≠ address ∧ terminate base name ≠ address := by
  refine ⟨fun name => ⟨Percent.encodeName name, fun _ => request_eq_iff, fun _ => terminate_eq_iff,
    Percent.escaped_encodeName name, Percent.decodeName?_encodeName name⟩, ?_, ?_, ?_, ?_⟩
  · intro name name' same
    exact Percent.encodeName_injective (request_eq_iff.1 (same.trans (request_eq_iff.2 rfl))).symm
  · intro name name' same
    exact Percent.encodeName_injective
      (terminate_eq_iff.1 (same.trans (terminate_eq_iff.2 rfl))).symm
  · intro name name' same
    simp [request, terminate, absolute, ← String.toList_inj] at same
  · intro name address service
    simp only [List.mem_cons, List.not_mem_nil, or_false] at service
    rcases service with rfl | rfl | rfl | rfl <;> constructor <;> intro same <;>
      simp [request, terminate, token, revoke, catalog, logout, absolute,
        ← String.toList_inj] at same

end Endpoint

end TrainingPortal
