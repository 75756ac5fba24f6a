import TrainingPortal.Text.Digits
import TrainingPortal.Text.Pieces
import TrainingPortal.Toml.Basic

/-!
# Reading TOML: numbers, dates and truth values

The values that are a single word. Each function reads one from the start of the characters and
returns it with the rest.
-/

namespace TrainingPortal.Toml

open Text

/-! ## Digits -/

/-- Digits of a kind, single underscores allowed between them. -/
def readDigits (isDigit : Char → Bool) : List Char → Option (List Char × List Char)
  | [] => none
  | c :: cs =>
    if !isDigit c then none
    else match cs with
      | '_' :: rest => (readDigits isDigit rest).map fun (digits, rest) => (c :: digits, rest)
      | rest =>
        match readDigits isDigit rest with
        | some (digits, rest) => some (c :: digits, rest)
        | none => if (rest.head?).any isDigit then none else some ([c], rest)

/-- A sign, if there is one: whether it is a minus. -/
def readSign : List Char → Option Bool × List Char
  | '+' :: rest => (some false, rest)
  | '-' :: rest => (some true, rest)
  | cs => (none, cs)

/-- The digits of a decimal whole number without superfluous zeros. -/
def readWhole : List Char → Option (List Char × List Char)
  | '0' :: rest => some (['0'], rest)
  | cs => readDigits isDigit cs

/-- A whole number in one of the bases with a mark. -/
def readBased (base : Nat) (cs : List Char) : Option (Toml × List Char) := do
  let isDigitOfBase (c : Char) : Bool := (digitValue? c).any (· < base)
  let (digits, rest) ← readDigits isDigitOfBase cs
  let n := ofDigits base digits
  guard (isInt64 n)
  return (integer n, rest)

/-- A whole number of 64 bits. -/
def readInteger (cs : List Char) : Option (Toml × List Char) :=
  match cs with
  | '0' :: 'x' :: rest => readBased 16 rest
  | '0' :: 'o' :: rest => readBased 8 rest
  | '0' :: 'b' :: rest => readBased 2 rest
  | cs => do
    let (minus, cs) := readSign cs
    let (digits, rest) ← readWhole cs
    let n : Int := ofDigits 10 digits
    let n := if minus = some true then -n else n
    guard (isInt64 n)
    return (integer n, rest)

/-! ## Numbers with a point or an exponent -/

/-- The least magnitude that is beyond the range of a number of double precision. -/
def beyondDouble : Nat := Nat.pow 2 1024 - Nat.pow 2 970

/-- Whether `m` times ten to the `e` is beyond the range of double precision. -/
def isBeyond (m : Nat) (e : Int) : Bool :=
  if m = 0 then false
  else
    let size : Int := (decimal m).length + e
    if 320 < size then true
    else if size < 300 then false
    else if 0 ≤ e then beyondDouble ≤ m * Nat.pow 10 e.toNat
    else beyondDouble * Nat.pow 10 e.natAbs ≤ m

/-- The fraction of a number, if one follows. -/
def readFraction? (cs : List Char) : Option (Option (List Char) × List Char) :=
  match cs with
  | '.' :: rest => (readDigits isDigit rest).map fun (digits, rest) => (some digits, rest)
  | cs => some (none, cs)

/-- The exponent of a number, if one follows. -/
def readExponent? (cs : List Char) : Option (Option Int × List Char) :=
  match cs with
  | c :: rest =>
    if c = 'e' ∨ c = 'E' then
      let (minus, rest) := readSign rest
      (readDigits isDigit rest).map fun (digits, rest) =>
        let n : Int := ofDigits 10 digits
        (some (if minus = some true then -n else n), rest)
    else some (none, cs)
  | [] => some (none, [])

/-- A number with a fraction or an exponent, or one of the two words for what is no number. A number
too great for double precision is refused, unless it is negative. -/
def readReal (cs : List Char) : Option (Toml × List Char) := do
  let (minus, unsigned) := readSign cs
  let word? := (afterWord? "inf" unsigned).or (afterWord? "nan" unsigned)
  match word? with
  | some rest => return (real (String.ofList (cs.take (cs.length - rest.length))), rest)
  | none =>
    let (whole, rest) ← readWhole unsigned
    let (fraction, rest) ← readFraction? rest
    let (exponent, rest) ← readExponent? rest
    guard (fraction.isSome || exponent.isSome)
    let digits := whole ++ fraction.getD []
    let e := exponent.getD 0 - (fraction.getD []).length
    guard (minus = some true || !isBeyond (ofDigits 10 digits) e)
    return (real (String.ofList (cs.take (cs.length - rest.length))), rest)

/-! ## Dates and times -/

/-- A number of exactly `n` digits that is at most `most`. -/
def readFixed (n most : Nat) (cs : List Char) : Option (Nat × List Char) :=
  let digits := cs.take n
  if digits.length = n ∧ digits.all isDigit ∧ ofDigits 10 digits ≤ most then
    some (ofDigits 10 digits, cs.drop n)
  else none

/-- The days of a month. -/
def daysOf (year month : Nat) : Nat :=
  if month = 2 then
    if year % 4 = 0 ∧ (year % 100 ≠ 0 ∨ year % 400 = 0) then 29 else 28
  else if month = 4 ∨ month = 6 ∨ month = 9 ∨ month = 11 then 30
  else 31

/-- The rest after a date. -/
def afterDate? (cs : List Char) : Option (List Char) := do
  let (year, rest) ← readFixed 4 9999 cs
  let (month, rest) ← readFixed 2 12 (← afterWord? "-" rest)
  let (day, rest) ← readFixed 2 31 (← afterWord? "-" rest)
  guard (1 ≤ month ∧ 1 ≤ day ∧ day ≤ daysOf year month)
  return rest

/-- The rest after a time of the day. -/
def afterTime? (cs : List Char) : Option (List Char) := do
  let (_, rest) ← readFixed 2 23 cs
  let (_, rest) ← readFixed 2 59 (← afterWord? ":" rest)
  let (_, rest) ← readFixed 2 60 (← afterWord? ":" rest)
  match rest with
  | '.' :: fraction =>
    if (fraction.takeWhile isDigit).isEmpty then none else return fraction.dropWhile isDigit
  | rest => return rest

/-- The rest after the offset of a time, if there is one. -/
def afterOffset (cs : List Char) : List Char :=
  match cs with
  | c :: rest =>
    if c = 'Z' ∨ c = 'z' then rest
    else if c = '+' ∨ c = '-' then
      (do
        let (_, rest) ← readFixed 2 23 rest
        let (_, rest) ← readFixed 2 59 (← afterWord? ":" rest)
        return rest : Option (List Char)).getD cs
    else cs
  | [] => []

/-- A date, a time or both. -/
def readDatetime (cs : List Char) : Option (Toml × List Char) := do
  let rest ← match afterDate? cs with
    | some rest =>
      match rest with
      | c :: time =>
        if c = 'T' ∨ c = 't' ∨ c = ' ' then
          match afterTime? time with
          | some rest => some (afterOffset rest)
          | none => some (c :: time)
        else some (c :: time)
      | [] => some []
    | none => afterTime? cs
  return (datetime (String.ofList (cs.take (cs.length - rest.length))), rest)

/-- A value that starts with a sign or a digit. -/
def readNumber (cs : List Char) : Option (Toml × List Char) :=
  ((readDatetime cs).or (readReal cs)).or (readInteger cs)

end TrainingPortal.Toml
