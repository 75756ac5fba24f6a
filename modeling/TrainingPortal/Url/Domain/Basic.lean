import TrainingPortal.Url.Domain.Composition
import TrainingPortal.Url.Domain.Direction
import TrainingPortal.Url.Domain.Joiner
import TrainingPortal.Url.Punycode

/-!
# Domains

The names of hosts. A domain may be given with characters of any script; its normal form is in lower
case, and every label that is not in ASCII stands there in Punycode behind the mark `xn--`.
-/

namespace TrainingPortal.Url.Domain

open Text

/-- The labels between the full stops of a domain. -/
def labels (domain : List Char) : List (List Char) := splitAt '.' domain

/-- Labels with full stops between them. -/
def ofLabels (labels : List (List Char)) : List Char := ['.'].intercalate labels

/-- Whether a label is in ASCII and stands for no other. -/
def isPlain (label : List Char) : Bool :=
  label.all (·.toNat < 0x80) && (afterWord? "xn--" (label.map lower)).isNone

/-- The label that a label stands for: what is in Punycode behind its mark, if that is not in ASCII
and already in the form that a domain gives it. -/
def openLabel (label : List Char) : Option (List Char) :=
  match afterWord? "xn--" label with
  | none => some label
  | some cs =>
    (Punycode.decode? cs).filter fun label =>
      !label.all (·.toNat < 0x80) && label.all (fun c => prepare c == some [c]) &&
        compose label == label

/-- Whether a label may stand in a domain: it starts with no mark and its joiners fit. -/
def isLabel (label : List Char) : Bool := !label.head?.any isMark && joinersFit [] label

/-- A label in ASCII. -/
def asciiLabel (label : List Char) : List Char :=
  if label.all (·.toNat < 0x80) then label else "xn--".toList ++ Punycode.encode label

/-- Whether a character may not stand in a domain. -/
def isForbidden (c : Char) : Bool :=
  c.toNat ≤ 0x20 || c.toNat == 0x7F || "#/:<>?@[\\]^|%".toList.contains c

/-- The normal form of a domain, also of one with labels that are not plain. -/
def readInternational? (domain : List Char) : Option (List Char) := do
  let prepared ← domain.mapM prepare
  let opened ← (labels (compose prepared.flatten)).mapM openLabel
  guard (opened.all isLabel && labelsAgree opened)
  return ofLabels (opened.map asciiLabel)

/-- The normal form of a domain; of plain labels it is the lower case. -/
def read? (domain : List Char) : Option (List Char) :=
  let normal :=
    if (labels domain).all isPlain then some (domain.map lower) else readInternational? domain
  normal.filter (!·.any isForbidden)

end TrainingPortal.Url.Domain
