import TrainingPortal.Text.Blank
import TrainingPortal.Text.Utf8

/-!
# Logical lines of a dotenv file

A logical line is one or more physical lines: it goes on as long as a quote is open or a backslash
stands at the end. A `#` after a single blank outside quotes starts a comment, which is cut off, and
a line that starts with `#` counts as empty. Blanks are told by looking at one character at a time,
so that of two blanks in a row the second is taken for an ordinary character; a file whose last line
ends with an odd run of blanks and no line break is therefore unfinished.
-/

namespace TrainingPortal.Dotenv

open Text

/-- Where the scan of a logical line stands. -/
inductive Scan
  /-- Outside quotes; the line may end here. -/
  | complete
  /-- After a blank outside quotes. -/
  | blank
  /-- After a backslash outside quotes. -/
  | escape
  /-- Between single quotes. -/
  | strong
  /-- After a backslash between single quotes. -/
  | strongEscape
  /-- Between double quotes. -/
  | weak
  /-- After a backslash between double quotes. -/
  | weakEscape
  /-- In a comment. -/
  | comment
  deriving DecidableEq

/-- What a character outside quotes leads to, other than a blank. -/
def Scan.outside (c : Char) : Scan :=
  if c = '\\' then .escape
  else if c = '"' then .weak
  else if c = '\'' then .strong
  else .complete

/-- The scan after one more character. -/
def Scan.next : Scan → Char → Scan
  | .complete, c => if isBlank c ∧ c ≠ '\n' ∧ c ≠ '\r' then .blank else Scan.outside c
  | .blank, c => if c = '#' then .comment else Scan.outside c
  | .escape, _ => .complete
  | .strong, c => if c = '\\' then .strongEscape else if c = '\'' then .complete else .strong
  | .strongEscape, _ => .strong
  | .weak, c => if c = '\\' then .weakEscape else if c = '"' then .complete else .weak
  | .weakEscape, _ => .weak
  | .comment, _ => .comment

/-- The scan after a physical line, and the part of the line before a comment. -/
def Scan.run : Scan → List Char → Scan × List Char
  | scan, [] => (scan, [])
  | scan, c :: cs =>
    match scan.next c with
    | .comment => (.comment, [])
    | scan =>
      let (last, kept) := Scan.run scan cs
      (last, c :: kept)

/-- The characters without a line break at the end. -/
def chomp (cs : List Char) : List Char :=
  match cs.reverse with
  | '\n' :: '\r' :: before => before.reverse
  | '\n' :: before => before.reverse
  | _ => cs

/-- The physical lines of a file, each with its line break. -/
def physicalLines : List UInt8 → List (List UInt8)
  | [] => []
  | b :: bs =>
    if b = 0x0A then [b] :: physicalLines bs
    else match physicalLines bs with
      | [] => [[b]]
      | l :: ls => (b :: l) :: ls

/-- How the logical lines of a file end. -/
inductive Ending
  /-- With the file. -/
  | complete
  /-- Within a line that the file does not finish. -/
  | unfinished (line : List Char)
  /-- At a physical line that is not UTF-8. -/
  | notUtf8
  deriving DecidableEq

/-- The logical lines that physical lines make up, `pending` having been read of the first one. -/
def joinLines (scan : Scan) (pending : List Char) :
    List (List UInt8) → List (List Char) × Ending
  | [] => ([], if scan = .complete then .complete else .unfinished pending)
  | bytes :: rest =>
    match Utf8.decode? bytes with
    | none => ([], .notUtf8)
    | some line =>
      let whole := pending ++ line
      if (trimStart whole).head? = some '#' then
        let (lines, ending) := joinLines .complete [] rest
        ([] :: lines, ending)
      else
        match scan.run line with
        | (.complete, _) =>
          let (lines, ending) := joinLines .complete [] rest
          (chomp whole :: lines, ending)
        | (.comment, kept) =>
          let (lines, ending) := joinLines .complete [] rest
          ((pending ++ kept) :: lines, ending)
        | (scan, _) => joinLines scan whole rest

/-- The logical lines of a file. -/
def logicalLines (content : List UInt8) : List (List Char) × Ending :=
  joinLines .complete [] (physicalLines content)

end TrainingPortal.Dotenv
