import Mathlib.Tactic.SplitIfs
import TrainingPortal.Proofs.Json.Tokens

/-!
# Values in JSON

How a value may be written: the grammar of JSON, with blanks between any two tokens (`Spelled`,
`SpelledDocument`). The reader takes every spelling of a value for that value, however deep it is
nested (`reads`), and so every document (`parse?_of_spelled`).
-/

namespace TrainingPortal.Json

open Text

/-! ## Spellings -/

/-- Whether characters may stand between tokens. -/
def Blanks (cs : List Char) : Prop := ∀ c ∈ cs, isBlank c = true

theorem blanks_nil : Blanks [] := List.forall_mem_nil _

mutual

/-- How a value may be written. -/
inductive Spelled : Json → List Char → Prop
  | null : Spelled null "null".toList
  | true : Spelled (bool true) "true".toList
  | false : Spelled (bool false) "false".toList
  | integer (n : Int) : Spelled (integer n) (signed n)
  | real {cs : List Char} (h : SpelledReal cs) : Spelled (real (String.ofList cs)) cs
  | text {s? : Option String} {cs : List Char} (h : SpelledText s? cs) :
    Spelled ((s?.map text).getD unreadable) cs
  | nothing {blanks : List Char} (h : Blanks blanks) : Spelled (array []) ('[' :: (blanks ++ [']']))
  | array {item : Json} {items : List Json} {blanks cs more : List Char} (h : Blanks blanks)
    (first : Spelled item cs) (others : SpelledItems items more) :
    Spelled (array (item :: items)) ('[' :: (blanks ++ (cs ++ more)))
  | blank {blanks : List Char} (h : Blanks blanks) :
    Spelled (object []) ('\x7b' :: (blanks ++ ['\x7d']))
  | object {member : Option String × Json} {members : List (Option String × Json)}
    {blanks cs more : List Char} (h : Blanks blanks) (first : SpelledMember member cs)
    (others : SpelledMembers members more) :
    Spelled (ofMembers (member :: members)) ('\x7b' :: (blanks ++ (cs ++ more)))

/-- How the items after the first may be written, with what closes the array. -/
inductive SpelledItems : List Json → List Char → Prop
  | nil {blanks : List Char} (h : Blanks blanks) : SpelledItems [] (blanks ++ [']'])
  | cons {item : Json} {items : List Json} {before blanks cs more : List Char}
    (hb : Blanks before) (h : Blanks blanks) (first : Spelled item cs)
    (others : SpelledItems items more) :
    SpelledItems (item :: items) (before ++ ',' :: (blanks ++ (cs ++ more)))

/-- How a member may be written. -/
inductive SpelledMember : Option String × Json → List Char → Prop
  | intro {name? : Option String} {value : Json} {name before blanks cs : List Char}
    (named : SpelledText name? name) (hb : Blanks before) (h : Blanks blanks)
    (spelled : Spelled value cs) :
    SpelledMember (name?, value) (name ++ (before ++ ':' :: (blanks ++ cs)))

/-- How the members after the first may be written, with what closes the object. -/
inductive SpelledMembers : List (Option String × Json) → List Char → Prop
  | nil {blanks : List Char} (h : Blanks blanks) : SpelledMembers [] (blanks ++ ['\x7d'])
  | cons {member : Option String × Json} {members : List (Option String × Json)}
    {before blanks cs more : List Char} (hb : Blanks before) (h : Blanks blanks)
    (first : SpelledMember member cs) (others : SpelledMembers members more) :
    SpelledMembers (member :: members) (before ++ ',' :: (blanks ++ (cs ++ more)))

end

/-- How a document with one value may be written. -/
inductive SpelledDocument (j : Json) : String → Prop
  | intro {before cs after : List Char} (hb : Blanks before) (h : Spelled j cs)
    (ha : Blanks after) : SpelledDocument j (String.ofList (before ++ (cs ++ after)))

/-! ## Where tokens start and end -/

/-- Whether a token starts with a character that is neither a blank nor closes anything. -/
def Opens (cs : List Char) : Prop :=
  ∃ c rest, cs = c :: rest ∧ isBlank c = false ∧ c ≠ ']' ∧ c ≠ '\x7d'

theorem Opens.append {cs : List Char} (h : Opens cs) (more : List Char) : Opens (cs ++ more) := by
  obtain ⟨c, rest, rfl, solid⟩ := h
  exact ⟨c, rest ++ more, rfl, solid⟩

theorem SpelledText.opens {s? : Option String} {cs : List Char} (h : SpelledText s? cs) :
    Opens cs := by
  cases h
  exact ⟨'"', _, rfl, by decide, by decide, by decide⟩

theorem opens_of_isDigit {d : Char} (digit : isDigit d = true) (cs : List Char) :
    Opens (d :: cs) := by
  have apart {c : Char} (h : isDigit c = false) : d ≠ c := by
    rintro rfl
    exact absurd digit (h ▸ Bool.false_ne_true)
  refine ⟨d, cs, rfl, ?_, apart (by decide), apart (by decide)⟩
  have space := apart (c := ' ') (by decide)
  have tab := apart (c := '\t') (by decide)
  have line := apart (c := '\n') (by decide)
  have back := apart (c := '\r') (by decide)
  simp [isBlank, space, tab, line, back]

theorem Digits.opens {ds : List Char} (h : Digits ds) : Opens ds := by
  obtain ⟨d, ds, rfl⟩ := List.exists_cons_of_ne_nil h.1
  exact opens_of_isDigit (h.2 d List.mem_cons_self) ds

theorem digits_decimal (n : Nat) : Digits (decimal n) :=
  ⟨decimal_ne_nil n, fun _ => isDigit_of_mem_decimal⟩

theorem SpelledReal.opens {cs : List Char} (h : SpelledReal cs) : Opens cs := by
  cases h with
  | @intro negative whole fraction exponent digits =>
    cases negative with
    | true => exact ⟨'-', _, rfl, by decide, by decide, by decide⟩
    | false => exact (digits.opens.append fraction).append exponent

theorem Spelled.opens {j : Json} {cs : List Char} (h : Spelled j cs) : Opens cs := by
  cases h with
  | integer n =>
    rw [signed]
    split_ifs
    · exact ⟨'-', _, rfl, by decide, by decide, by decide⟩
    · exact (digits_decimal _).opens
  | real h => exact h.opens
  | text h => exact h.opens
  | _ => exact ⟨_, _, rfl, by decide, by decide, by decide⟩

theorem SpelledMember.opens {member : Option String × Json} {cs : List Char}
    (h : SpelledMember member cs) : Opens cs := by
  cases h with
  | intro named => exact named.opens.append _

theorem skipBlanks_cons {blanks : List Char} (h : Blanks blanks) {c : Char}
    (solid : isBlank c = false) (cs : List Char) : skipBlanks (blanks ++ c :: cs) = c :: cs := by
  rw [skipBlanks, List.dropWhile_append_of_pos h]
  exact List.dropWhile_cons_of_neg (by simp [solid])

theorem Opens.skipBlanks {blanks cs : List Char} (opens : Opens cs) (h : Blanks blanks)
    (rest : List Char) : skipBlanks (blanks ++ (cs ++ rest)) = cs ++ rest := by
  obtain ⟨c, cs, rfl, solid, -⟩ := opens
  exact skipBlanks_cons h solid _

theorem stops_cons {c : Char} (h : isDigit c = false ∧ c ≠ '.' ∧ c ≠ 'e' ∧ c ≠ 'E')
    (cs : List Char) : Stops (c :: cs) := by
  rintro d ⟨⟩
  exact h

theorem Blanks.stops {blanks cs : List Char} (h : Blanks blanks) (stops : Stops cs) :
    Stops (blanks ++ cs) := by
  cases blanks with
  | nil => exact stops
  | cons c blanks =>
    refine stops_cons ?_ _
    have blank := h c List.mem_cons_self
    simp only [isBlank, Bool.or_eq_true, beq_iff_eq] at blank
    rcases blank with ((rfl | rfl) | rfl) | rfl <;> decide

theorem SpelledItems.stops {items : List Json} {cs : List Char} (h : SpelledItems items cs)
    (rest : List Char) : Stops (cs ++ rest) := by
  cases h with
  | nil h | cons h =>
    rw [List.append_assoc]
    exact h.stops (stops_cons (by decide) _)

theorem SpelledMembers.stops {members : List (Option String × Json)} {cs : List Char}
    (h : SpelledMembers members cs) (rest : List Char) : Stops (cs ++ rest) := by
  cases h with
  | nil h | cons h =>
    rw [List.append_assoc]
    exact h.stops (stops_cons (by decide) _)

/-! ## Reading spellings -/

/-- The reader with this fuel reads every spelling that is no longer. -/
structure Reads (fuel : Nat) : Prop where
  value {j : Json} {cs : List Char} (h : Spelled j cs) (enough : cs.length ≤ fuel)
    {blanks : List Char} (before : Blanks blanks) {rest : List Char} (after : Stops rest) :
    readValue fuel (blanks ++ (cs ++ rest)) = some (j, rest)
  items {items : List Json} {cs : List Char} (h : SpelledItems items cs)
    (enough : cs.length ≤ fuel) (rest : List Char) :
    readMoreItems fuel (cs ++ rest) = some (items, rest)
  member {member : Option String × Json} {cs : List Char} (h : SpelledMember member cs)
    (enough : cs.length ≤ fuel) {blanks : List Char} (before : Blanks blanks) {rest : List Char}
    (after : Stops rest) :
    readMember fuel (blanks ++ (cs ++ rest)) = some (member, rest)
  members {members : List (Option String × Json)} {cs : List Char}
    (h : SpelledMembers members cs) (enough : cs.length ≤ fuel) (rest : List Char) :
    readMoreMembers fuel (cs ++ rest) = some (members, rest)

variable {fuel : Nat} {rest : List Char}

theorem readValue_digit {d : Char} (digit : isDigit d = true) (cs : List Char) :
    readValue (fuel + 1) (d :: cs) = readNumber false (d :: cs) := by
  have opened := (opens_of_isDigit digit []).skipBlanks blanks_nil cs
  rw [List.nil_append, List.singleton_append] at opened
  rw [readValue, opened]
  split
  case h_8 => rfl
  all_goals
    rename_i head
    rw [(List.cons.inj head).1] at digit
    exact absurd digit (by decide)

theorem readValue_digits {ds : List Char} (h : Digits ds) (rest : List Char) :
    readValue (fuel + 1) (ds ++ rest) = readNumber false (ds ++ rest) := by
  obtain ⟨d, ds, rfl⟩ := List.exists_cons_of_ne_nil h.1
  exact readValue_digit (h.2 d List.mem_cons_self) _

theorem readValue_integer (fuel : Nat) (n : Int) (after : Stops rest) :
    readValue (fuel + 1) (signed n ++ rest) = some (integer n, rest) := by
  rw [signed]
  split_ifs with negative
  · refine (readNumber_decimal after true (by omega)).trans ?_
    rw [if_pos rfl, ← Int.eq_neg_natAbs_of_nonpos (Int.le_of_lt negative)]
  · rw [readValue_digits (digits_decimal _), readNumber_decimal after false nofun,
      if_neg (by decide), Int.natAbs_of_nonneg (Int.not_lt.1 negative)]

theorem readValue_real (fuel : Nat) {cs : List Char} (h : SpelledReal cs) (after : Stops rest) :
    readValue (fuel + 1) (cs ++ rest) = some (real (String.ofList cs), rest) := by
  cases h with
  | @intro negative whole fraction exponent digits plain hf he apart =>
    have read := readNumber_real after digits plain hf he apart
    cases negative with
    | true =>
      change readNumber true (whole ++ fraction ++ exponent ++ rest) = _
      rw [List.append_assoc, List.append_assoc, read]
    | false =>
      change readValue (fuel + 1) (whole ++ fraction ++ exponent ++ rest) = _
      rw [List.append_assoc, List.append_assoc, readValue_digits digits, read]

theorem readValue_text (fuel : Nat) {s? : Option String} {cs : List Char} (h : SpelledText s? cs)
    (rest : List Char) :
    readValue (fuel + 1) (cs ++ rest) = some ((s?.map text).getD unreadable, rest) := by
  obtain ⟨tail, eq, read⟩ := h.read rest
  rw [eq]
  change (readText tail).map _ = _
  rw [read]
  rfl

theorem readValue_array {cs tail after : List Char} {c : Char} {item : Json} {items : List Json}
    (opens : skipBlanks cs = c :: tail) (apart : c ≠ ']')
    (first : readValue fuel (c :: tail) = some (item, after))
    (others : readMoreItems fuel after = some (items, rest)) :
    readValue (fuel + 1) ('[' :: cs) = some (array (item :: items), rest) := by
  have bracket : skipBlanks ('[' :: cs) = '[' :: cs := rfl
  rw [readValue, bracket]
  split
  case h_2 eq =>
    obtain ⟨-, rfl⟩ := List.cons.inj eq
    rw [opens]
    split
    case h_1 eq => exact absurd (List.cons.inj eq).1 apart
    case h_2 =>
      simp only [first, others, Option.bind_eq_bind, Option.bind_some]
      rfl
  case h_8 _ other _ _ _ _ _ => exact absurd rfl (other cs)
  all_goals
    rename_i eq
    exact absurd (List.cons.inj eq).1 (by decide)

theorem readValue_nothing {cs : List Char} (closed : skipBlanks cs = ']' :: rest) :
    readValue (fuel + 1) ('[' :: cs) = some (array [], rest) := by
  have bracket : skipBlanks ('[' :: cs) = '[' :: cs := rfl
  rw [readValue, bracket]
  split
  case h_2 eq =>
    obtain ⟨-, rfl⟩ := List.cons.inj eq
    rw [closed]
    rfl
  case h_8 _ other _ _ _ _ _ => exact absurd rfl (other cs)
  all_goals
    rename_i eq
    exact absurd (List.cons.inj eq).1 (by decide)

theorem readValue_object {cs tail after : List Char} {c : Char} {member : Option String × Json}
    {members : List (Option String × Json)} (opens : skipBlanks cs = c :: tail)
    (apart : c ≠ '\x7d') (first : readMember fuel (c :: tail) = some (member, after))
    (others : readMoreMembers fuel after = some (members, rest)) :
    readValue (fuel + 1) ('\x7b' :: cs) = some (ofMembers (member :: members), rest) := by
  have brace : skipBlanks ('\x7b' :: cs) = '\x7b' :: cs := rfl
  rw [readValue, brace]
  split
  case h_3 eq =>
    obtain ⟨-, rfl⟩ := List.cons.inj eq
    rw [opens]
    split
    case h_1 eq => exact absurd (List.cons.inj eq).1 apart
    case h_2 =>
      simp only [first, others, Option.bind_eq_bind, Option.bind_some]
      rfl
  case h_8 _ _ other _ _ _ _ => exact absurd rfl (other cs)
  all_goals
    rename_i eq
    exact absurd (List.cons.inj eq).1 (by decide)

theorem readValue_blank {cs : List Char} (closed : skipBlanks cs = '\x7d' :: rest) :
    readValue (fuel + 1) ('\x7b' :: cs) = some (object [], rest) := by
  have brace : skipBlanks ('\x7b' :: cs) = '\x7b' :: cs := rfl
  rw [readValue, brace]
  split
  case h_3 eq =>
    obtain ⟨-, rfl⟩ := List.cons.inj eq
    rw [closed]
    rfl
  case h_8 _ _ other _ _ _ _ => exact absurd rfl (other cs)
  all_goals
    rename_i eq
    exact absurd (List.cons.inj eq).1 (by decide)

theorem Reads.succ_value (reads : Reads fuel) {j : Json} {cs : List Char} (h : Spelled j cs)
    (enough : cs.length ≤ fuel + 1) (after : Stops rest) :
    readValue (fuel + 1) (cs ++ rest) = some (j, rest) := by
  cases h with
  | null | true | false => rfl
  | integer n => exact readValue_integer fuel n after
  | real h => exact readValue_real fuel h after
  | text h => exact readValue_text fuel h rest
  | nothing h =>
    rw [List.cons_append, List.append_assoc]
    exact readValue_nothing (skipBlanks_cons h (by decide) rest)
  | blank h =>
    rw [List.cons_append, List.append_assoc]
    exact readValue_blank (skipBlanks_cons h (by decide) rest)
  | @array item items blanks cs more h first others =>
    simp only [List.length_cons, List.length_append] at enough
    have item := reads.value first (by omega) blanks_nil (others.stops rest)
    have items := reads.items others (by omega) rest
    have opened := first.opens.skipBlanks h (more ++ rest)
    obtain ⟨c, cs, rfl, -, apart, -⟩ := first.opens
    rw [List.cons_append, List.append_assoc, List.append_assoc]
    exact readValue_array opened apart item items
  | @object member members blanks cs more h first others =>
    simp only [List.length_cons, List.length_append] at enough
    have read := reads.member first (by omega) blanks_nil (others.stops rest)
    have reads := reads.members others (by omega) rest
    have opened := first.opens.skipBlanks h (more ++ rest)
    obtain ⟨c, cs, rfl, -, -, apart⟩ := first.opens
    rw [List.cons_append, List.append_assoc, List.append_assoc]
    exact readValue_object opened apart read reads

theorem Reads.succ_items (reads : Reads fuel) {items : List Json} {cs : List Char}
    (h : SpelledItems items cs) (enough : cs.length ≤ fuel + 1) (rest : List Char) :
    readMoreItems (fuel + 1) (cs ++ rest) = some (items, rest) := by
  cases h with
  | nil h =>
    rw [List.append_assoc, List.singleton_append, readMoreItems, skipBlanks_cons h (by decide)]
    rfl
  | @cons item items before blanks cs more hb h first others =>
    simp only [List.length_cons, List.length_append] at enough
    have item := reads.value first (by omega) h (others.stops rest)
    have items := reads.items others (by omega) rest
    rw [List.append_assoc, List.cons_append, List.append_assoc, List.append_assoc, readMoreItems,
      skipBlanks_cons hb (by decide)]
    simp only [item, items, Option.bind_eq_bind, Option.bind_some]
    rfl

theorem Reads.succ_members (reads : Reads fuel) {members : List (Option String × Json)}
    {cs : List Char} (h : SpelledMembers members cs) (enough : cs.length ≤ fuel + 1)
    (rest : List Char) : readMoreMembers (fuel + 1) (cs ++ rest) = some (members, rest) := by
  cases h with
  | nil h =>
    rw [List.append_assoc, List.singleton_append, readMoreMembers, skipBlanks_cons h (by decide)]
    rfl
  | @cons member members before blanks cs more hb h first others =>
    simp only [List.length_cons, List.length_append] at enough
    have member := reads.member first (by omega) h (others.stops rest)
    have members := reads.members others (by omega) rest
    rw [List.append_assoc, List.cons_append, List.append_assoc, List.append_assoc,
      readMoreMembers, skipBlanks_cons hb (by decide)]
    simp only [member, members, Option.bind_eq_bind, Option.bind_some]
    rfl

theorem Reads.succ_member (reads : Reads fuel) {member : Option String × Json} {cs : List Char}
    (h : SpelledMember member cs) (enough : cs.length ≤ fuel + 1) {blanks : List Char}
    (before : Blanks blanks) (after : Stops rest) :
    readMember (fuel + 1) (blanks ++ (cs ++ rest)) = some (member, rest) := by
  cases h with
  | @intro name? value name before' blanks' cs named hb h spelled =>
    simp only [List.length_cons, List.length_append] at enough
    have value := reads.value spelled (by omega) h after
    obtain ⟨tail, quote, read⟩ := named.read (before' ++ ':' :: (blanks' ++ (cs ++ rest)))
    have text : name ++ (before' ++ ':' :: (blanks' ++ cs)) ++ rest = '"' :: tail := by
      rw [← quote]
      simp
    rw [text, readMember, skipBlanks_cons before (by decide)]
    simp only [read, Option.bind_eq_bind, Option.bind_some, skipBlanks_cons hb (c := ':') rfl,
      value]
    rfl

theorem reads (fuel : Nat) : Reads fuel := by
  induction fuel with
  | zero =>
    refine ⟨fun h enough => ?_, fun h enough => ?_, fun h enough => ?_, fun h enough => ?_⟩
    · obtain ⟨c, cs, rfl, -⟩ := h.opens
      cases enough
    · cases h <;> simp at enough
    · obtain ⟨c, cs, rfl, -⟩ := h.opens
      cases enough
    · cases h <;> simp at enough
  | succ fuel reads =>
    refine ⟨fun {j cs} h enough {blanks} before {rest} after => ?_, reads.succ_items,
      fun h enough _ before _ after => reads.succ_member h enough before after,
      reads.succ_members⟩
    have skipped := h.opens.skipBlanks before rest
    have there := h.opens.skipBlanks blanks_nil rest
    rw [readValue, skipped, ← there, List.nil_append, ← readValue]
    exact reads.succ_value h enough after

theorem stops_of_blanks {blanks : List Char} (h : Blanks blanks) : Stops blanks := by
  have ends : Stops [] := nofun
  have stops := h.stops ends
  rwa [List.append_nil] at stops

/-- **A value is read from each of its spellings**, with blanks around it. -/
theorem parse?_of_spelled {j : Json} {document : String} (h : SpelledDocument j document) :
    parse? document = some j := by
  cases h with
  | @intro before cs after hb h ha =>
    have enough : cs.length ≤ (before ++ (cs ++ after)).length + 1 := by
      simp only [List.length_append]
      omega
    have read := (reads _).value h enough hb (stops_of_blanks ha)
    have skipped : skipBlanks after = [] := List.dropWhile_eq_nil_iff.2 ha
    rw [parse?, String.toList_ofList, read]
    simp only [skipped, List.isEmpty_nil, if_true]

end TrainingPortal.Json
