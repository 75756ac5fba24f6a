import TrainingPortal.Text.Digits
import TrainingPortal.Toml.Basic

/-!
# Writing TOML

Names, texts and lists as a document shows them. A name goes without quotes if it can. A text is put
between double quotes if it needs no escapes there, else between single quotes, else between three
double or single quotes, and only if none of these can hold it as it is, it is escaped. `TextTraits`
gathers what decides that.
-/

namespace TrainingPortal.Toml

open Text

/-! ## The choice of quotes -/

/-- Whether a character is a control character that no quotes can hold as it is. -/
def isControl (c : Char) : Bool := (c.toNat < 0x20 && c != '\t') || c.toNat == 0x7F

/-- The length of the longest run of a character. -/
def longestRun (c : Char) (cs : List Char) : Nat :=
  (cs.foldl (fun (run, best) d =>
    let run := if d = c then run + 1 else 0
    (run, max best run)) (0, 0)).2

/-- What decides between which quotes a text is put. -/
structure TextTraits where
  hasBackslash : Bool
  hasBreak : Bool
  /-- A control character other than the tab and the line break. -/
  hasControl : Bool
  /-- The longest run of double quotes. -/
  doubleRun : Nat
  /-- The longest run of single quotes. -/
  singleRun : Nat

/-- The traits of a text. -/
def TextTraits.of (cs : List Char) : TextTraits where
  hasBackslash := cs.contains '\\'
  hasBreak := cs.contains '\n'
  hasControl := cs.any fun c => isControl c && c != '\n'
  doubleRun := longestRun '"' cs
  singleRun := longestRun '\'' cs

/-- The kinds of quotes. -/
inductive Quotes
  /-- One double quote on either side. -/
  | basic
  /-- One single quote on either side. -/
  | literal
  /-- Three double quotes on either side. -/
  | longBasic
  /-- Three single quotes on either side. -/
  | longLiteral
  deriving DecidableEq

/-- The quotes that can hold a text as it is. -/
def Quotes.plain? (t : TextTraits) : Option Quotes :=
  if !t.hasBackslash && !t.hasBreak && !t.hasControl && t.doubleRun == 0 then some basic
  else if !t.hasBreak && !t.hasControl && t.singleRun == 0 then some literal
  else if !t.hasBackslash && !t.hasControl && t.doubleRun ≤ 2 then some longBasic
  else if !t.hasControl && t.singleRun ≤ 2 then some longLiteral
  else none

/-- The quotes that a text is put between. -/
def Quotes.ofTraits (t : TextTraits) : Quotes :=
  (plain? t).getD (if t.hasBreak then longBasic else basic)

/-! ## Escapes -/

/-- Four upper-case hexadecimal digits of a number below 256. -/
def hexOfByte (n : Nat) : List Char := ['0', '0', upperDigit (n / 16), upperDigit (n % 16)]

/-- A character between double quotes, other than a double quote. -/
def escaped (long : Bool) (c : Char) : List Char :=
  match c with
  | '\x08' => ['\\', 'b']
  | '\t' => ['\\', 't']
  | '\n' => if long then ['\n'] else ['\\', 'n']
  | '\x0c' => ['\\', 'f']
  | '\r' => ['\\', 'r']
  | '\\' => ['\\', '\\']
  | c => if isControl c then '\\' :: 'u' :: hexOfByte c.toNat else [c]

/-- Characters between double quotes after `run` double quotes in a row. Between three of them only
every third is escaped, so that no three stand in a row. -/
def escapeAll (long : Bool) : Nat → List Char → List Char
  | _, [] => []
  | run, c :: cs =>
    if c = '"' then
      if long ∧ run < 2 then '"' :: escapeAll long (run + 1) cs
      else '\\' :: '"' :: escapeAll long 0 cs
    else escaped long c ++ escapeAll long 0 cs

/-! ## Texts and names -/

/-- A text between quotes of a kind. Between three quotes a text with line breaks starts on a line
of its own. -/
def writeBetween (quotes : Quotes) (hasBreak : Bool) (cs : List Char) : List Char :=
  let newLine := if hasBreak then ['\n'] else []
  match quotes with
  | .basic => '"' :: escapeAll false 0 cs ++ ['"']
  | .literal => '\'' :: cs ++ ['\'']
  | .longBasic => "\"\"\"".toList ++ newLine ++ escapeAll true 0 cs ++ "\"\"\"".toList
  | .longLiteral => "'''".toList ++ newLine ++ cs ++ "'''".toList

/-- A text. -/
def writeText (s : String) : List Char :=
  let traits := TextTraits.of s.toList
  writeBetween (Quotes.ofTraits traits) traits.hasBreak s.toList

/-- A name: without quotes, or in the first single quotes that can hold it as it is, or escaped. -/
def writeName (s : String) : List Char :=
  let cs := s.toList
  if !cs.isEmpty && cs.all isBare then cs
  else
    let hasControl := cs.any isControl
    if cs.contains '\\' || cs.contains '"' || hasControl then
      if cs.contains '\'' || hasControl then writeBetween .basic false cs
      else writeBetween .literal false cs
    else writeBetween .basic false cs

/-- A list of texts: on one line up to one text, else with a line for each. -/
def writeTexts : List String → List Char
  | [] => ['[', ']']
  | [s] => '[' :: writeText s ++ [']']
  | texts =>
    "[\n".toList ++ texts.flatMap (fun s => "    ".toList ++ writeText s ++ ",\n".toList) ++ [']']

/-- A binding on a line of its own. -/
def writeBinding (name : String) (value : List Char) : List Char :=
  writeName name ++ " = ".toList ++ value ++ ['\n']

end TrainingPortal.Toml
