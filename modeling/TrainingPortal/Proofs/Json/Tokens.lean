import Mathlib.Data.Char
import Mathlib.Data.List.TakeWhile
import TrainingPortal.Json.Reader
import TrainingPortal.Proofs.Digits

/-!
# Texts and numbers in JSON

How a text may be written (`SpelledText`) and how a number other than an integer (`SpelledReal`),
and that the reader takes each of them for what it is (`SpelledText.read`, `readNumber_real`). An
integer is written in one way only, by its digits (`readNumber_decimal`).
-/

namespace TrainingPortal.Json

open Text

/-! ## Texts -/

/-- How a code point is written in a text: as the character itself, with an escape of one letter,
or with its number. -/
inductive SpelledPoint : Nat → List Char → Prop
  | plain {c : Char} (quote : c ≠ '"') (escape : c ≠ '\\') (h : ¬ c.toNat < 0x20) :
    SpelledPoint c.toNat [c]
  | escape {c : Char} {n : Nat} (h : escape? c = some n) : SpelledPoint n ['\\', c]
  | numbered {a b c d : Char} (h : [a, b, c, d].all isHexDigit = true) :
    SpelledPoint (ofDigits 16 [a, b, c, d]) ['\\', 'u', a, b, c, d]

/-- How code points are written, with the quote that closes a text. -/
inductive SpelledPoints : List Nat → List Char → Prop
  | nil : SpelledPoints [] ['"']
  | cons {point : Nat} {points : List Nat} {cs more : List Char} (first : SpelledPoint point cs)
    (others : SpelledPoints points more) : SpelledPoints (point :: points) (cs ++ more)

/-- How a text is written; `none` stands for one that no characters make up. -/
inductive SpelledText : Option String → List Char → Prop
  | intro {points : List Nat} {cs : List Char} (h : SpelledPoints points cs) :
    SpelledText ((joinSurrogates points).map String.ofList) ('"' :: cs)

theorem readPoints_escape {c : Char} {n : Nat} (h : escape? c = some n) (rest : List Char) :
    readPoints ('\\' :: c :: rest) =
      (readPoints rest).map fun (points, after) => (n :: points, after) := by
  rw [readPoints]
  · rw [h]
  · rintro a b c d rest rfl
    cases h

theorem readPoints_plain {c : Char} (quote : c ≠ '"') (escape : c ≠ '\\') (h : ¬ c.toNat < 0x20)
    (rest : List Char) :
    readPoints (c :: rest) =
      (readPoints rest).map fun (points, after) => (c.toNat :: points, after) := by
  rw [readPoints]
  · rw [if_neg (not_or.2 ⟨h, escape⟩)]
  · exact fun eq => quote eq
  · rintro a b c' d rest rfl
    exact fun _ => escape rfl
  · exact fun _ _ eq => (escape eq).elim

theorem SpelledPoint.readPoints {point : Nat} {cs : List Char} (h : SpelledPoint point cs)
    (rest : List Char) :
    readPoints (cs ++ rest) =
      (readPoints rest).map fun (points, after) => (point :: points, after) := by
  cases h with
  | plain quote escape h => exact readPoints_plain quote escape h rest
  | escape h => exact readPoints_escape h rest
  | @numbered a b c d h =>
    change Json.readPoints ('\\' :: 'u' :: a :: b :: c :: d :: rest) = _
    rw [Json.readPoints, if_pos h]

theorem SpelledPoints.readPoints {points : List Nat} {cs : List Char} (h : SpelledPoints points cs)
    (rest : List Char) : readPoints (cs ++ rest) = some (points, rest) := by
  induction h with
  | nil => rfl
  | cons first _ ih =>
    rw [List.append_assoc, first.readPoints, ih]
    rfl

/-- **A text is read from each of its spellings.** -/
theorem SpelledText.read {s? : Option String} {cs : List Char} (h : SpelledText s? cs)
    (rest : List Char) : ∃ tail, cs ++ rest = '"' :: tail ∧ readText tail = some (s?, rest) := by
  cases h with
  | @intro points cs h =>
    refine ⟨cs ++ rest, rfl, ?_⟩
    rw [readText, h.readPoints]
    rfl

/-- No character is half of a surrogate pair. -/
theorem joinSurrogates_map_toNat (cs : List Char) :
    joinSurrogates (cs.map Char.toNat) = some cs := by
  induction cs with
  | nil => rfl
  | cons c cs ih =>
    have range : c.toNat < 0xD800 ∨ 0xDFFF < c.toNat ∧ c.toNat < 0x110000 := c.valid
    rw [List.map_cons, joinSurrogates.eq_def]
    dsimp only
    rw [if_neg (by omega), if_neg (by omega), ih, Option.map_some, Char.ofNat_toNat]

/-! ## Numbers -/

/-- Whether characters are digits, at least one. -/
def Digits (ds : List Char) : Prop := ds ≠ [] ∧ ∀ c ∈ ds, isDigit c = true

/-- How a fraction is written, if there is one. -/
inductive SpelledFraction : List Char → Prop
  | absent : SpelledFraction []
  | present {ds : List Char} (h : Digits ds) : SpelledFraction ('.' :: ds)

/-- How an exponent is written, if there is one. -/
inductive SpelledExponent : List Char → Prop
  | absent : SpelledExponent []
  | plain {e : Char} {ds : List Char} (letter : e = 'e' ∨ e = 'E') (h : Digits ds) :
    SpelledExponent (e :: ds)
  | signed {e s : Char} {ds : List Char} (letter : e = 'e' ∨ e = 'E') (sign : s = '+' ∨ s = '-')
    (h : Digits ds) : SpelledExponent (e :: s :: ds)

/-- What stands before the digits of a number. -/
def sign (negative : Bool) : List Char := if negative then ['-'] else []

/-- How a number is written that is no integer, or is `-0`. -/
inductive SpelledReal : List Char → Prop
  | intro {negative : Bool} {whole fraction exponent : List Char} (digits : Digits whole)
    (plain : isWhole whole = true) (hf : SpelledFraction fraction) (he : SpelledExponent exponent)
    (apart : fraction ≠ [] ∨ exponent ≠ [] ∨ negative = true ∧ whole = ['0']) :
    SpelledReal (sign negative ++ whole ++ fraction ++ exponent)

/-- Whether a number ends where these characters follow. -/
def Stops (rest : List Char) : Prop :=
  ∀ c ∈ rest.head?, isDigit c = false ∧ c ≠ '.' ∧ c ≠ 'e' ∧ c ≠ 'E'

/-- Whether no further digit follows. -/
def EndsDigits (rest : List Char) : Prop := ∀ c ∈ rest.head?, isDigit c = false

variable {ds rest : List Char}

theorem Stops.endsDigits (h : Stops rest) : EndsDigits rest := fun c head => (h c head).1

theorem endsDigits_cons {c : Char} (h : isDigit c = false) (cs : List Char) :
    EndsDigits (c :: cs) := by
  rintro d ⟨⟩
  exact h

theorem EndsDigits.cut (h : EndsDigits rest) (digits : ∀ c ∈ ds, isDigit c = true) :
    (ds ++ rest).takeWhile isDigit = ds ∧ (ds ++ rest).dropWhile isDigit = rest := by
  have stop : rest.takeWhile isDigit = [] ∧ rest.dropWhile isDigit = rest := by
    cases rest with
    | nil => exact ⟨rfl, rfl⟩
    | cons c rest => simp [h c rfl]
  rw [List.takeWhile_append_of_pos digits, List.dropWhile_append_of_pos digits, stop.1, stop.2,
    List.append_nil]
  exact ⟨rfl, rfl⟩

theorem Digits.isEmpty (h : Digits ds) : ds.isEmpty = false := by
  simp [h.1]

theorem SpelledExponent.endsDigits {exponent : List Char} (h : SpelledExponent exponent)
    (stops : Stops rest) : EndsDigits (exponent ++ rest) := by
  cases h with
  | absent => exact stops.endsDigits
  | plain letter | signed letter => rcases letter with rfl | rfl <;> exact endsDigits_cons rfl _

theorem SpelledFraction.endsDigits {fraction : List Char} (h : SpelledFraction fraction)
    (ends : EndsDigits rest) : EndsDigits (fraction ++ rest) := by
  cases h with
  | absent => exact ends
  | present => exact endsDigits_cons rfl _

theorem SpelledExponent.read {exponent : List Char} (h : SpelledExponent exponent)
    (stops : Stops rest) : readExponent (exponent ++ rest) = some (exponent, rest) := by
  cases h with
  | absent =>
    cases rest with
    | nil => rfl
    | cons c rest =>
      obtain ⟨-, -, lower, upper⟩ := stops c rfl
      rw [List.nil_append, readExponent.eq_def]
      exact if_neg (not_or.2 ⟨lower, upper⟩)
  | @plain e ds letter h =>
    obtain ⟨d, tail, rfl⟩ := List.exists_cons_of_ne_nil h.1
    have unsigned : ¬ (d = '+' ∨ d = '-') := by
      have digit := h.2 d List.mem_cons_self
      rintro (rfl | rfl) <;> cases digit
    obtain ⟨taken, dropped⟩ := stops.endsDigits.cut h.2
    rw [List.cons_append] at taken dropped
    rw [List.cons_append, List.cons_append, readExponent.eq_def]
    simp only [if_pos letter, if_neg unsigned, taken, dropped, h.isEmpty]
    rfl
  | @signed e s ds letter sign h =>
    obtain ⟨taken, dropped⟩ := stops.endsDigits.cut h.2
    rw [List.cons_append, List.cons_append, readExponent.eq_def]
    simp only [if_pos letter, if_pos sign, taken, dropped, h.isEmpty]
    rfl

theorem SpelledFraction.read {fraction : List Char} (h : SpelledFraction fraction)
    (ends : EndsDigits rest) (point : rest.head? ≠ some '.') :
    readFraction (fraction ++ rest) = some (fraction, rest) := by
  cases h with
  | absent =>
    rw [List.nil_append, readFraction]
    rintro tail rfl
    exact point rfl
  | @present ds h =>
    obtain ⟨taken, dropped⟩ := ends.cut h.2
    rw [List.cons_append, readFraction]
    simp only [taken, dropped, h.isEmpty]
    rfl

theorem SpelledExponent.head?_ne_point {exponent : List Char} (h : SpelledExponent exponent)
    (stops : Stops rest) : (exponent ++ rest).head? ≠ some '.' := by
  cases h with
  | absent => exact fun head => (stops _ head).2.1 rfl
  | plain letter | signed letter => rcases letter with rfl | rfl <;> exact nofun

theorem isWhole_decimal (n : Nat) : isWhole (decimal n) = true := by
  by_cases zero : n = 0
  · subst zero
    decide
  · obtain ⟨d, ds, eq, ne⟩ := decimal_eq_cons (Nat.pos_of_ne_zero zero)
    rw [eq, isWhole]
    · simpa using ne
    · rintro rfl
      exact fun _ => ne rfl

/-- **An integer is read from its digits.** -/
theorem readNumber_decimal (stops : Stops rest) (negative : Bool) {n : Nat}
    (nonzero : negative = true → n ≠ 0) :
    readNumber negative (decimal n ++ rest) =
      some (integer (if negative then -n else n), rest) := by
  obtain ⟨taken, dropped⟩ := stops.endsDigits.cut (fun c => @isDigit_of_mem_decimal n c)
  have fraction := SpelledFraction.absent.read stops.endsDigits
    (SpelledExponent.absent.head?_ne_point stops)
  have exponent := SpelledExponent.absent.read stops
  rw [List.nil_append] at fraction exponent
  simp only [readNumber, taken, dropped, isWhole_decimal, fraction, ofDigits_decimal,
    guard, if_true, Option.pure_def, Option.bind_eq_bind, Option.bind_some, exponent]
  cases negative with
  | false => rfl
  | true => simp [nonzero rfl]

/-- A number that is no integer is read as it is written. -/
theorem readNumber_real (stops : Stops rest) {negative : Bool} {whole fraction exponent : List Char}
    (digits : Digits whole) (plain : isWhole whole = true) (hf : SpelledFraction fraction)
    (he : SpelledExponent exponent)
    (apart : fraction ≠ [] ∨ exponent ≠ [] ∨ negative = true ∧ whole = ['0']) :
    readNumber negative (whole ++ (fraction ++ (exponent ++ rest))) =
      some (real (String.ofList (sign negative ++ whole ++ fraction ++ exponent)), rest) := by
  have ends := he.endsDigits stops
  obtain ⟨taken, dropped⟩ := (hf.endsDigits ends).cut digits.2
  have hf := hf.read ends (he.head?_ne_point stops)
  have he := he.read stops
  have different : (fraction.isEmpty && exponent.isEmpty &&
      !(negative && Int.ofNat (ofDigits 10 whole) == 0)) = false := by
    rcases apart with ne | ne | ⟨rfl, rfl⟩
    · simp [ne]
    · simp [ne]
    · have zero : ofDigits 10 ['0'] = 0 := by decide
      simp [zero]
  simp only [readNumber, taken, dropped, plain, hf, he, guard, if_true, Option.pure_def,
    Option.bind_eq_bind, Option.bind_some, different]
  rfl

end TrainingPortal.Json
