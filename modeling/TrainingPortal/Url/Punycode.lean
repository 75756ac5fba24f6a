import TrainingPortal.Text.Pieces

/-!
# Punycode

The ASCII form of a host label with other characters: its ASCII characters, a hyphen, and a run of
variable-length numbers that say which other characters go where. `encode` writes it and `decode?`
reads it.
-/

namespace TrainingPortal.Url.Punycode

/-- The digit of a number below 36. -/
def digit (n : Nat) : Char :=
  if n < 26 then Char.ofNat (0x61 + n) else Char.ofNat (0x30 + (n - 26))

/-- The bias after halving a difference `k` steps of 36 have been taken off. -/
def settle (delta k : Nat) : Nat :=
  if h : delta > 455 then settle (delta / 35) (k + 36) else k + 36 * delta / (delta + 38)
termination_by delta
decreasing_by omega

/-- The bias after a number has been written. -/
def adapt (delta count : Nat) (first : Bool) : Nat :=
  let delta := if first then delta / 700 else delta / 2
  settle (delta + delta / count) 0

/-- The threshold of a digit at position `k`. -/
def threshold (k bias : Nat) : Nat := min 26 (max 1 (k - bias))

theorem one_le_threshold (k bias : Nat) : 1 ≤ threshold k bias := by
  simp only [threshold]
  omega

/-! ## Writing -/

/-- The digits of a variable-length number, from position `k` on. -/
def writeNumber (bias k q : Nat) : List Char :=
  let t := threshold k bias
  if q < t then [digit q]
  else digit (t + (q - t) % (36 - t)) :: writeNumber bias (k + 36) ((q - t) / (36 - t))
termination_by q
decreasing_by
  have := one_le_threshold k bias
  have := Nat.div_le_self (q - threshold k bias) (36 - threshold k bias)
  omega

/-- The state of the encoder: what was written, the bias, the count of characters dealt with and
the distance to the next one. -/
structure State where
  written : List Char
  bias : Nat
  count : Nat
  delta : Nat

/-- Deals with one character of the label for the round of code point `n`. -/
def visit (basic n : Nat) (s : State) (c : Char) : State :=
  if c.toNat < n then { s with delta := s.delta + 1 }
  else if c.toNat = n then
    { written := s.written ++ writeNumber s.bias 36 s.delta
      bias := adapt s.delta (s.count + 1) (s.count == basic)
      count := s.count + 1
      delta := 0 }
  else s

/-- Deals with all characters of one code point. -/
def round (label : List Char) (basic : Nat) (s : State × Nat) (n : Nat) : State × Nat :=
  let (s, last) := s
  let s := { s with delta := s.delta + (n - last) * (s.count + 1) }
  let s := label.foldl (visit basic n) s
  ({ s with delta := s.delta + 1 }, n + 1)

/-- The form of a label in ASCII, without the mark in front. -/
def encode (label : List Char) : List Char :=
  let basic := label.filter (·.toNat < 0x80)
  let points := ((label.map Char.toNat).filter (0x80 ≤ ·)).mergeSort.eraseDups
  let start := if basic.isEmpty then [] else basic ++ ['-']
  let (s, _) := points.foldl (round label basic.length) (⟨start, 72, basic.length, 0⟩, 0x80)
  s.written

/-! ## Reading -/

/-- The value of a digit in lower case. -/
def digitValue? (c : Char) : Option Nat :=
  if 'a' ≤ c ∧ c ≤ 'z' then some (c.toNat - 0x61)
  else if '0' ≤ c ∧ c ≤ '9' then some (c.toNat - 0x30 + 26)
  else none

/-- A variable-length number from position `k` on, its digits counting `weight` and more, added to
`sum`, and the rest of the digits. -/
def readNumber (bias : Nat) (k weight sum : Nat) : List Char → Option (Nat × List Char)
  | [] => none
  | c :: cs =>
    match digitValue? c with
    | none => none
    | some value =>
      let t := threshold k bias
      let sum := sum + value * weight
      if value < t then some (sum, cs)
      else readNumber bias (k + 36) (weight * (36 - t)) sum cs

theorem length_lt_of_readNumber {bias k weight sum n : Nat} {cs rest : List Char}
    (h : readNumber bias k weight sum cs = some (n, rest)) : rest.length < cs.length := by
  fun_induction readNumber bias k weight sum cs with
  | case1 => simp at h
  | case2 => simp at h
  | case3 => simp_all
  | case4 _ _ _ _ _ _ _ _ _ _ ih =>
    have := ih h
    simp only [List.length_cons]
    omega

/-- Puts the characters that numbers tell of into a label, `n` being the last code point put there
and `i` the place behind it. -/
def insertAll (bias n i : Nat) (label : List Char) (digits : List Char) : Option (List Char) :=
  if digits.isEmpty then some label
  else
    match _h : readNumber bias 36 1 i digits with
    | none => none
    | some (sum, rest) =>
      let count := label.length + 1
      let (n, place) := (n + sum / count, sum % count)
      if n.isValidChar then
        insertAll (adapt (sum - i) count (i == 0)) n (place + 1)
          (label.insertIdx place (Char.ofNat n)) rest
      else none
termination_by digits.length
decreasing_by exact length_lt_of_readNumber ‹_›

/-- The label of a form in ASCII, without the mark in front. -/
def decode? (cs : List Char) : Option (List Char) :=
  match Text.cutAt '-' cs.reverse with
  | (digits, some (c :: basic)) =>
    let basic := (c :: basic).reverse
    if basic.all (·.toNat < 0x80) then insertAll 72 0x80 0 basic digits.reverse else none
  | _ => insertAll 72 0x80 0 [] cs

end TrainingPortal.Url.Punycode
