import TrainingPortal.Json.Basic
import TrainingPortal.Text.Digits

/-!
# Writing JSON

Two layouts of the same value: `compact` has no blanks at all, `pretty` puts every item and member
on a line of its own, two blanks deeper than what holds it. Texts escape quotes, backslashes and
the control characters below the space, nothing else.
-/

namespace TrainingPortal.Json

open Text

/-- One character of a text. -/
def writeChar (c : Char) : List Char :=
  match c with
  | '"' => ['\\', '"']
  | '\\' => ['\\', '\\']
  | '\x08' => ['\\', 'b']
  | '\x0c' => ['\\', 'f']
  | '\n' => ['\\', 'n']
  | '\r' => ['\\', 'r']
  | '\t' => ['\\', 't']
  | c =>
    if c.toNat < 0x20 then
      ['\\', 'u', '0', '0', Nat.digitChar (c.toNat / 16), Nat.digitChar (c.toNat % 16)]
    else [c]

/-- A text in quotes. -/
def writeText (s : String) : List Char := '"' :: s.toList.flatMap writeChar ++ ['"']

/-- A value that holds no other: a literal, a number, a text, or brackets with nothing in them. -/
def writeLeaf : Json → List Char
  | null => "null".toList
  | bool true => "true".toList
  | bool false => "false".toList
  | integer n => signed n
  | real digits => digits.toList
  | text s => writeText s
  | array _ => ['[', ']']
  | object _ => ['\x7b', '\x7d']
  | unreadable => "\"\\ud800\"".toList

mutual

/-- A value in a single line without blanks. -/
def writeCompact : Json → List Char
  | array (item :: items) =>
    '[' :: writeCompact item ++ writeMoreItems items ++ [']']
  | object ((name, value) :: members) =>
    '\x7b' :: writeText name ++ ':' :: writeCompact value ++ writeMoreMembers members ++ ['\x7d']
  | leaf => writeLeaf leaf

/-- The items after the first. -/
def writeMoreItems : List Json → List Char
  | [] => []
  | item :: items => ',' :: writeCompact item ++ writeMoreItems items

/-- The members after the first. -/
def writeMoreMembers : List (String × Json) → List Char
  | [] => []
  | (name, value) :: members =>
    ',' :: writeText name ++ ':' :: writeCompact value ++ writeMoreMembers members

end

/-- A line break followed by the indentation of a depth. -/
def newLine (depth : Nat) : List Char := '\n' :: List.replicate (2 * depth) ' '

mutual

/-- A value that starts at a depth, with a line for every item and member. -/
def writePretty (depth : Nat) : Json → List Char
  | array (item :: items) =>
    '[' :: newLine (depth + 1) ++ writePretty (depth + 1) item ++
      writeMoreItemLines depth items ++ newLine depth ++ [']']
  | object ((name, value) :: members) =>
    '\x7b' :: newLine (depth + 1) ++ writeText name ++ ':' :: ' ' ::
      writePretty (depth + 1) value ++ writeMoreMemberLines depth members ++
      newLine depth ++ ['\x7d']
  | leaf => writeLeaf leaf

/-- The lines of the items after the first. -/
def writeMoreItemLines (depth : Nat) : List Json → List Char
  | [] => []
  | item :: items =>
    ',' :: newLine (depth + 1) ++ writePretty (depth + 1) item ++ writeMoreItemLines depth items

/-- The lines of the members after the first. -/
def writeMoreMemberLines (depth : Nat) : List (String × Json) → List Char
  | [] => []
  | (name, value) :: members =>
    ',' :: newLine (depth + 1) ++ writeText name ++ ':' :: ' ' ::
      writePretty (depth + 1) value ++ writeMoreMemberLines depth members

end

/-- The text of a value, without blanks. -/
def compact (j : Json) : String := String.ofList j.writeCompact

/-- The text of a value, over several lines. -/
def pretty (j : Json) : String := String.ofList (j.writePretty 0)

end TrainingPortal.Json
