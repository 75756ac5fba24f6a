import TrainingPortal.Json.Basic
import TrainingPortal.Text.Digits
import TrainingPortal.Text.Pieces

/-!
# Reading JSON

`parse?` reads a whole document and accepts exactly the JSON grammar: blanks are the space, the tab
and the two line breaks; numbers have no leading zeros; texts hold no control character below the
space. Values may be nested to any depth and numbers may be of any size. The functions that read a
part return what they read and the characters after it.
-/

namespace TrainingPortal.Json

open Text

/-- Whether a character may stand between tokens. -/
def isBlank (c : Char) : Bool := c == ' ' || c == '\t' || c == '\n' || c == '\r'

/-- The characters after leading blanks. -/
def skipBlanks (cs : List Char) : List Char := cs.dropWhile isBlank

/-! ## Texts -/

/-- The code point of an escape of one letter. -/
def escape? : Char → Option Nat
  | '"' => some 0x22
  | '\\' => some 0x5C
  | '/' => some 0x2F
  | 'b' => some 0x8
  | 'f' => some 0xC
  | 'n' => some 0xA
  | 'r' => some 0xD
  | 't' => some 0x9
  | _ => none

/-- The code points up to the closing quote, halves of surrogate pairs apart. -/
def readPoints : List Char → Option (List Nat × List Char)
  | [] => none
  | '"' :: rest => some ([], rest)
  | '\\' :: 'u' :: a :: b :: c :: d :: rest =>
    if [a, b, c, d].all isHexDigit then
      (readPoints rest).map fun (points, after) => (ofDigits 16 [a, b, c, d] :: points, after)
    else none
  | '\\' :: c :: rest =>
    match escape? c with
    | some n => (readPoints rest).map fun (points, after) => (n :: points, after)
    | none => none
  | c :: rest =>
    if c.toNat < 0x20 ∨ c = '\\' then none
    else (readPoints rest).map fun (points, after) => (c.toNat :: points, after)

/-- The characters of code points, each high surrogate joined with the low one after it. -/
def joinSurrogates : List Nat → Option (List Char)
  | [] => some []
  | n :: ns =>
    if 0xD800 ≤ n ∧ n < 0xDC00 then
      match ns with
      | m :: rest =>
        if 0xDC00 ≤ m ∧ m < 0xE000 then
          (joinSurrogates rest).map
            (Char.ofNat (0x10000 + (n - 0xD800) * 0x400 + (m - 0xDC00)) :: ·)
        else none
      | [] => none
    else if 0xDC00 ≤ n ∧ n < 0xE000 then none
    else (joinSurrogates ns).map (Char.ofNat n :: ·)

/-- A text after its opening quote: `none` inside for one that no characters make up. -/
def readText (cs : List Char) : Option (Option String × List Char) :=
  (readPoints cs).map fun (points, rest) => ((joinSurrogates points).map String.ofList, rest)

/-! ## Numbers -/

/-- The fraction of a number, if one follows. -/
def readFraction : List Char → Option (List Char × List Char)
  | '.' :: rest =>
    if (rest.takeWhile isDigit).isEmpty then none
    else some ('.' :: rest.takeWhile isDigit, rest.dropWhile isDigit)
  | cs => some ([], cs)

/-- The exponent of a number, if one follows. -/
def readExponent : List Char → Option (List Char × List Char)
  | e :: rest =>
    if e = 'e' ∨ e = 'E' then
      let (sign, digits) := match rest with
        | s :: r => if s = '+' ∨ s = '-' then ([s], r) else ([], rest)
        | [] => ([], [])
      if (digits.takeWhile isDigit).isEmpty then none
      else some (e :: sign ++ digits.takeWhile isDigit, digits.dropWhile isDigit)
    else some ([], e :: rest)
  | [] => some ([], [])

/-- Whether digits are a whole number without superfluous zeros. -/
def isWhole : List Char → Bool
  | [] => false
  | ['0'] => true
  | c :: _ => c != '0'

/-- A number, whose sign has been read. -/
def readNumber (negative : Bool) (cs : List Char) : Option (Json × List Char) := do
  let whole := cs.takeWhile isDigit
  guard (isWhole whole)
  let (fraction, rest) ← readFraction (cs.dropWhile isDigit)
  let (exponent, rest) ← readExponent rest
  let value := Int.ofNat (ofDigits 10 whole)
  let sign := if negative then ['-'] else []
  if fraction.isEmpty && exponent.isEmpty && !(negative && value == 0) then
    return (integer (if negative then -value else value), rest)
  else
    return (real (String.ofList (sign ++ whole ++ fraction ++ exponent)), rest)

/-! ## Values -/

/-- An object with these members, `unreadable` if one has no name. -/
def ofMembers (members : List (Option String × Json)) : Json :=
  match members.mapM fun (name, value) => name.map (·, value) with
  | some members => object members
  | none => unreadable

mutual

/-- A value, after any blanks. -/
def readValue : Nat → List Char → Option (Json × List Char)
  | 0, _ => none
  | fuel + 1, cs =>
    match skipBlanks cs with
    | '"' :: rest =>
      (readText rest).map fun (s, after) => ((s.map text).getD unreadable, after)
    | '[' :: rest =>
      match skipBlanks rest with
      | ']' :: after => some (array [], after)
      | rest => do
        let (item, rest) ← readValue fuel rest
        let (items, after) ← readMoreItems fuel rest
        return (array (item :: items), after)
    | '\x7b' :: rest =>
      match skipBlanks rest with
      | '\x7d' :: after => some (object [], after)
      | rest => do
        let (member, rest) ← readMember fuel rest
        let (members, after) ← readMoreMembers fuel rest
        return (ofMembers (member :: members), after)
    | 'n' :: rest => (afterWord? "ull" rest).map (null, ·)
    | 't' :: rest => (afterWord? "rue" rest).map (bool true, ·)
    | 'f' :: rest => (afterWord? "alse" rest).map (bool false, ·)
    | '-' :: rest => readNumber true rest
    | cs => readNumber false cs

/-- The items after the first, up to the closing bracket. -/
def readMoreItems : Nat → List Char → Option (List Json × List Char)
  | 0, _ => none
  | fuel + 1, cs =>
    match skipBlanks cs with
    | ']' :: after => some ([], after)
    | ',' :: rest => do
      let (item, rest) ← readValue fuel rest
      let (items, after) ← readMoreItems fuel rest
      return (item :: items, after)
    | _ => none

/-- The members after the first, up to the closing brace. -/
def readMoreMembers : Nat → List Char → Option (List (Option String × Json) × List Char)
  | 0, _ => none
  | fuel + 1, cs =>
    match skipBlanks cs with
    | '\x7d' :: after => some ([], after)
    | ',' :: rest => do
      let (member, rest) ← readMember fuel rest
      let (members, after) ← readMoreMembers fuel rest
      return (member :: members, after)
    | _ => none

/-- One member, after any blanks. -/
def readMember : Nat → List Char → Option ((Option String × Json) × List Char)
  | 0, _ => none
  | fuel + 1, cs =>
    match skipBlanks cs with
    | '"' :: rest => do
      let (name, rest) ← readText rest
      match skipBlanks rest with
      | ':' :: rest => do
        let (value, after) ← readValue fuel rest
        return ((name, value), after)
      | _ => none
    | _ => none

end

/-- The value of a document. -/
def parse? (s : String) : Option Json :=
  match readValue (s.toList.length + 1) s.toList with
  | some (value, rest) => if (skipBlanks rest).isEmpty then some value else none
  | none => none

end TrainingPortal.Json
