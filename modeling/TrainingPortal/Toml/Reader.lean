import TrainingPortal.Toml.Scalar

/-!
# Reading TOML

`parse?` reads a whole document line by line: blank lines, comments, headings of sections and
bindings of values to names. Arrays may run over several lines, tables in braces may not, and they
may be nested to a depth of `deepest`, which is also the greatest number of names in a dotted name.
The functions that read a part return what they read and the characters after it.
-/

namespace TrainingPortal.Toml

open Text

/-- The greatest depth of values and length of dotted names. -/
def deepest : Nat := 79

/-! ## Blanks and comments -/

/-- The characters after blanks within a line. -/
def skipBlanks (cs : List Char) : List Char := cs.dropWhile fun c => c == ' ' || c == '\t'

/-- Whether a character may stand in a comment or between single quotes. -/
def isVisible (c : Char) : Bool := c == '\t' || (0x20 ≤ c.toNat && c.toNat != 0x7F)

/-- The rest after a line break. -/
def afterBreak? : List Char → Option (List Char)
  | '\n' :: rest => some rest
  | '\r' :: '\n' :: rest => some rest
  | _ => none

/-- The characters after a comment, if one follows. -/
def skipComment : List Char → List Char
  | '#' :: rest => rest.dropWhile isVisible
  | cs => cs

/-- The rest after the end of a line or at the end of the document. -/
def afterLine? (cs : List Char) : Option (List Char) :=
  match skipComment (skipBlanks cs) with
  | [] => some []
  | rest => afterBreak? rest

/-- The characters after blanks, line breaks and comments. -/
def skipLines : Nat → List Char → List Char
  | 0, cs => cs
  | fuel + 1, cs =>
    match skipBlanks cs with
    | '#' :: rest =>
      match afterBreak? (rest.dropWhile isVisible) with
      | some rest => skipLines fuel rest
      | none => '#' :: rest
    | cs =>
      match afterBreak? cs with
      | some rest => skipLines fuel rest
      | none => cs

/-! ## Texts -/

/-- The character of an escape of one letter. -/
def escape? : Char → Option Char
  | 'b' => some '\x08'
  | 't' => some '\t'
  | 'n' => some '\n'
  | 'f' => some '\x0c'
  | 'r' => some '\r'
  | '"' => some '"'
  | '\\' => some '\\'
  | _ => none

/-- The character with the code point that hexadecimal digits give. -/
def charOfHex? (digits : List Char) : Option Char :=
  let n := ofDigits 16 digits
  if digits.all isHexDigit ∧ (n < 0xD800 ∨ (0xDFFF < n ∧ n < 0x110000)) then some (Char.ofNat n)
  else none

/-- The character of an escape, after its backslash. -/
def readEscape : List Char → Option (Char × List Char)
  | 'u' :: a :: b :: c :: d :: rest => (charOfHex? [a, b, c, d]).map (·, rest)
  | 'U' :: a :: b :: c :: d :: e :: f :: g :: h :: rest =>
    (charOfHex? [a, b, c, d, e, f, g, h]).map (·, rest)
  | c :: rest => (escape? c).map (·, rest)
  | [] => none

/-- A text between double quotes, after the first. -/
def readBasic : Nat → List Char → Option (List Char × List Char)
  | 0, _ => none
  | fuel + 1, cs =>
    match cs with
    | [] => none
    | '"' :: rest => some ([], rest)
    | '\\' :: rest => do
      let (c, rest) ← readEscape rest
      let (more, rest) ← readBasic fuel rest
      return (c :: more, rest)
    | c :: rest =>
      if isVisible c then (readBasic fuel rest).map fun (more, rest) => (c :: more, rest) else none

/-- A text between single quotes, after the first. -/
def readLiteral : List Char → Option (List Char × List Char)
  | [] => none
  | '\'' :: rest => some ([], rest)
  | c :: rest =>
    if isVisible c then (readLiteral rest).map fun (more, rest) => (c :: more, rest) else none

/-- The quotes that belong to a text before the three that close it, and the rest; none if fewer
than three follow. -/
def readClosing (quote : Char) (cs : List Char) : Option (List Char × List Char) :=
  let run := min 5 (cs.takeWhile (· == quote)).length
  if run < 3 then none else some (List.replicate (run - 3) quote, cs.drop run)

/-- The rest after a line break if there is one, else the characters. -/
def skipBreak (cs : List Char) : List Char := (afterBreak? cs).getD cs

/-- Whether characters after a backslash are blanks up to the end of the line. -/
def isFolded (cs : List Char) : Bool := (afterBreak? (skipBlanks cs)).isSome

/-- The characters after blanks and line breaks. -/
def skipFold : Nat → List Char → List Char
  | 0, cs => cs
  | fuel + 1, cs =>
    match afterBreak? (skipBlanks cs) with
    | some rest => skipFold fuel rest
    | none => skipBlanks cs

/-- A text between three double quotes, after the first three. -/
def readLongBasic : Nat → List Char → Option (List Char × List Char)
  | 0, _ => none
  | fuel + 1, cs =>
    match readClosing '"' cs with
    | some ending => some ending
    | none =>
      match cs with
      | [] => none
      | '\\' :: rest =>
        if isFolded rest then readLongBasic fuel (skipFold rest.length rest)
        else do
          let (c, rest) ← readEscape rest
          let (more, rest) ← readLongBasic fuel rest
          return (c :: more, rest)
      | c :: rest =>
        match afterBreak? cs with
        | some rest => (readLongBasic fuel rest).map fun (more, rest) => ('\n' :: more, rest)
        | none =>
          if isVisible c then
            (readLongBasic fuel rest).map fun (more, rest) => (c :: more, rest)
          else none

/-- A text between three single quotes, after the first three. -/
def readLongLiteral : Nat → List Char → Option (List Char × List Char)
  | 0, _ => none
  | fuel + 1, cs =>
    match readClosing '\'' cs with
    | some ending => some ending
    | none =>
      match cs with
      | [] => none
      | c :: rest =>
        match afterBreak? cs with
        | some rest => (readLongLiteral fuel rest).map fun (more, rest) => ('\n' :: more, rest)
        | none =>
          if isVisible c then
            (readLongLiteral fuel rest).map fun (more, rest) => (c :: more, rest)
          else none

/-- A text in any of the four kinds of quotes. -/
def readText (cs : List Char) : Option (List Char × List Char) :=
  match cs with
  | '"' :: '"' :: '"' :: rest => readLongBasic (rest.length + 1) (skipBreak rest)
  | '\'' :: '\'' :: '\'' :: rest => readLongLiteral (rest.length + 1) (skipBreak rest)
  | '"' :: rest => readBasic (rest.length + 1) rest
  | '\'' :: rest => readLiteral rest
  | _ => none

/-! ## Names -/

/-- A name. -/
def readName (cs : List Char) : Option (String × List Char) :=
  match cs with
  | '"' :: rest => (readBasic (rest.length + 1) rest).map fun (s, rest) => (String.ofList s, rest)
  | '\'' :: rest => (readLiteral rest).map fun (s, rest) => (String.ofList s, rest)
  | cs =>
    if (cs.takeWhile isBare).isEmpty then none
    else some (String.ofList (cs.takeWhile isBare), cs.dropWhile isBare)

/-- A dotted name, blanks around it and its dots passed over. -/
def readPath : Nat → List Char → Option (List String × List Char)
  | 0, _ => none
  | fuel + 1, cs => do
    let (name, rest) ← readName (skipBlanks cs)
    match skipBlanks rest with
    | '.' :: rest => (readPath fuel rest).map fun (names, rest) => (name :: names, rest)
    | rest => return ([name], rest)

/-! ## Values -/

mutual

/-- A value within `depth` others. -/
def readValue : Nat → Nat → List Char → Option (Toml × List Char)
  | 0, _, _ => none
  | fuel + 1, depth, cs =>
    match cs with
    | [] => none
    | '[' :: rest =>
      if depth = deepest then none
      else (readItems fuel (depth + 1) (skipLines rest.length rest)).map fun (items, rest) =>
        (array items, rest)
    | '\x7b' :: rest =>
      if depth = deepest then none
      else match skipBlanks rest with
        | '\x7d' :: rest => some (closed [], rest)
        | rest => do
          let (bindings, rest) ← readBindings fuel (depth + 1) rest
          let members ← bindAll [] bindings
          return (closed members, rest)
    | c :: rest =>
      if c = '"' ∨ c = '\'' then
        (readText cs).map fun (s, rest) => (text (String.ofList s), rest)
      else if c = 't' then (afterWord? "rue" rest).map (boolean true, ·)
      else if c = 'f' then (afterWord? "alse" rest).map (boolean false, ·)
      else if c = 'i' ∨ c = 'n' then readReal cs
      else readNumber cs

/-- The items of an array up to its closing bracket. -/
def readItems : Nat → Nat → List Char → Option (List Toml × List Char)
  | 0, _, _ => none
  | fuel + 1, depth, cs =>
    match cs with
    | ']' :: rest => some ([], rest)
    | cs => do
      let (item, rest) ← readValue fuel depth cs
      match skipLines rest.length rest with
      | ',' :: rest => do
        let (items, rest) ← readItems fuel depth (skipLines rest.length rest)
        return (item :: items, rest)
      | ']' :: rest => return ([item], rest)
      | _ => none

/-- The bindings of a table in braces up to its closing brace. -/
def readBindings : Nat → Nat → List Char → Option (List (List String × Toml) × List Char)
  | 0, _, _ => none
  | fuel + 1, depth, cs => do
    let (path, rest) ← readPath deepest cs
    match rest with
    | '=' :: rest => do
      let (value, rest) ← readValue fuel depth (skipBlanks rest)
      match skipBlanks rest with
      | ',' :: rest => do
        let (bindings, rest) ← readBindings fuel depth rest
        return ((path, value) :: bindings, rest)
      | '\x7d' :: rest => return ([(path, value)], rest)
      | _ => none
    | _ => none

end

/-! ## Lines -/

/-- A line that says something. -/
inductive Line
  | binding (path : List String) (value : Toml)
  /-- The heading of a section, in a series or not. -/
  | heading (path : List String) (inSeries : Bool)

/-- A heading or a binding up to the end of its line. -/
def readLine (cs : List Char) : Option (Line × List Char) :=
  match cs with
  | '[' :: '[' :: rest => do
    let (path, rest) ← readPath deepest rest
    let rest ← afterLine? (← afterWord? "]]" rest)
    return (.heading path true, rest)
  | '[' :: rest => do
    let (path, rest) ← readPath deepest rest
    let rest ← afterLine? (← afterWord? "]" rest)
    return (.heading path false, rest)
  | cs => do
    let (path, rest) ← readPath deepest cs
    let rest ← afterWord? "=" rest
    let (value, rest) ← readValue (rest.length + 1) 0 (skipBlanks rest)
    let rest ← afterLine? rest
    return (.binding path value, rest)

/-- The lines of a document. -/
def readLines : Nat → List Char → Option (List Line)
  | 0, _ => none
  | fuel + 1, cs =>
    match skipLines cs.length cs with
    | [] => some []
    | '#' :: rest => if (rest.dropWhile isVisible).isEmpty then some [] else none
    | cs => do
      let (line, rest) ← readLine cs
      let lines ← readLines fuel rest
      return line :: lines

/-- The bindings before the first heading, and the sections. -/
def sections : List Line → List (List String × Toml) × List Section
  | [] => ([], [])
  | .binding path value :: lines =>
    let (bindings, rest) := sections lines
    ((path, value) :: bindings, rest)
  | .heading path inSeries :: lines =>
    let (bindings, rest) := sections lines
    ([], ⟨path, inSeries, bindings⟩ :: rest)

/-- The members of a document. A mark of the byte order in front is passed over. -/
def parse? (document : String) : Option Members := do
  let cs := match document.toList with
    | '\uFEFF' :: cs => cs
    | cs => cs
  let lines ← readLines (cs.length + 1) cs
  let (bindings, rest) := sections lines
  assemble bindings rest

end TrainingPortal.Toml
