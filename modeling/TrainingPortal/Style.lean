/-!
# Styled text

Text in colours for terminals: codes before the text and a reset after it. Where a text inside
resets, the style around it starts again.
-/

namespace TrainingPortal

/-- A colour of the text. -/
inductive Colour
  | red
  | yellow
  | cyan
  | white
  | brightGreen
  | brightYellow
  | brightBlue
  | brightWhite
  deriving DecidableEq

/-- The code of a colour. -/
def Colour.code : Colour → String
  | red => "31"
  | yellow => "33"
  | cyan => "36"
  | white => "37"
  | brightGreen => "92"
  | brightYellow => "93"
  | brightBlue => "94"
  | brightWhite => "97"

/-- How a text looks. -/
structure Style where
  bold : Bool := false
  dimmed : Bool := false
  colour : Option Colour := none
  deriving DecidableEq

namespace Style

/-- The codes of a style, in order. -/
def codes (s : Style) : List String :=
  (if s.bold then ["1"] else []) ++ (if s.dimmed then ["2"] else []) ++
    (s.colour.map Colour.code).toList

/-- What starts a style. -/
def start (s : Style) : String := "\x1b[" ++ ";".intercalate s.codes ++ "m"

/-- What ends every style. -/
def reset : String := "\x1b[0m"

/-- The characters with something put after every reset. -/
def afterResets (again : List Char) : List Char → List Char
  | '\x1b' :: '[' :: '0' :: 'm' :: rest => reset.toList ++ again ++ afterResets again rest
  | c :: rest => c :: afterResets again rest
  | [] => []

/-- A text in a style, if colours are on. -/
def apply (s : Style) (colours : Bool) (text : String) : String :=
  if !colours || s.codes.isEmpty then text
  else s.start ++ String.ofList (afterResets s.start.toList text.toList) ++ reset

end Style

end TrainingPortal
