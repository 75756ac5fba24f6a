import TrainingPortal.Encoding.Percent
import TrainingPortal.Path
import TrainingPortal.Url.Domain.Basic

/-!
# Hosts

The host of a URL in its normal form: a domain in lower case with every label in ASCII, an IPv4
address as four decimal numbers, or an IPv6 address in brackets with the longest run of zeros
left out.
-/

namespace TrainingPortal.Url

open Text

/-- Why a text is no usable URL. -/
inductive Fault
  | noScheme
  | emptyHost
  | invalidPort
  | invalidDomain
  | invalidIpv4
  | invalidIpv6
  /-- The URL is well formed so far and has another scheme. -/
  | otherScheme
  deriving DecidableEq

/-- The text of a fault. -/
def Fault.message : Fault → String
  | noScheme => "relative URL without a base"
  | emptyHost => "empty host"
  | invalidPort => "invalid port number"
  | invalidDomain => "invalid international domain name"
  | invalidIpv4 => "invalid IPv4 address"
  | invalidIpv6 => "invalid IPv6 address"
  | otherScheme => "URL scheme is not allowed"

/-! ## IPv4 -/

/-- A number of an IPv4 address: decimal, octal after `0`, hexadecimal after `0x`. -/
def ipv4Number? (cs : List Char) : Option Nat :=
  let read (base : Nat) (digits : List Char) : Option Nat :=
    if digits.all fun c => (digitValue? c).any (· < base) then some (ofDigits base digits) else none
  match cs with
  | [] => none
  | '0' :: x :: rest => if x = 'x' ∨ x = 'X' then read 16 rest else read 8 (x :: rest)
  | cs => read 10 cs

/-- The labels of a domain without an empty one at the end. -/
def properLabels (domain : List Char) : List (List Char) :=
  let labels := Domain.labels domain
  if labels.getLast? = some [] then labels.dropLast else labels

/-- Whether the last label of a domain is a number, so that the domain must be an address. -/
def endsInNumber (domain : List Char) : Bool :=
  match (properLabels domain).getLast? with
  | none => false
  | some last =>
    (!last.isEmpty && last.all isDigit) ||
      (("0x".toList.isPrefixOf last || "0X".toList.isPrefixOf last) && (ipv4Number? last).isSome)

/-- The four decimal numbers of an address. -/
def writeIpv4 (n : Nat) : List Char :=
  decimal (n / 0x1000000) ++ '.' :: decimal (n / 0x10000 % 0x100) ++
    '.' :: decimal (n / 0x100 % 0x100) ++ '.' :: decimal (n % 0x100)

/-- The address that up to four numbers denote, the last one filling what the others leave. -/
def ipv4? (domain : List Char) : Option Nat := do
  let numbers ← (properLabels domain).mapM ipv4Number?
  guard (numbers.length ≤ 4)
  let last ← numbers.getLast?
  let before := numbers.dropLast
  guard (last < Nat.pow 256 (4 - before.length))
  guard (before.all (· < 256))
  return (before.zipIdx.foldl (fun n (x, i) => n + x * Nat.pow 256 (3 - i)) 0) + last

/-! ## IPv6 -/

/-- A part of an IPv4 address within an IPv6 address. -/
def octet? (cs : List Char) : Option Nat :=
  if cs.isEmpty || !cs.all isDigit || (cs.length > 1 && cs.head? == some '0') then none
  else if ofDigits 10 cs < 256 then some (ofDigits 10 cs) else none

/-- The groups of 16 bits between colons; the last group may be an IPv4 address. -/
def groups? : List (List Char) → Option (List Nat)
  | [] => some []
  | [piece] =>
    match (splitAt '.' piece).mapM octet? with
    | some [a, b, c, d] => some [a * 256 + b, c * 256 + d]
    | _ =>
      if piece.isEmpty || piece.length > 4 || !piece.all isHexDigit then none
      else some [ofDigits 16 piece]
  | piece :: rest => do
    guard (!piece.isEmpty && piece.length ≤ 4 && piece.all isHexDigit)
    return ofDigits 16 piece :: (← groups? rest)

/-- The groups that a text between colons holds; none for no text. -/
def side? (cs : List Char) : Option (List Nat) :=
  if cs.isEmpty then some [] else groups? (splitAt ':' cs)

/-- The parts before and after the first pair of colons. -/
def cutDouble : List Char → Option (List Char × List Char)
  | ':' :: ':' :: rest => some ([], rest)
  | c :: rest => (cutDouble rest).map fun (before, after) => (c :: before, after)
  | [] => none

/-- The eight groups of an address. -/
def ipv6? (cs : List Char) : Option (List Nat) := do
  match cutDouble cs with
  | none =>
    let groups ← groups? (splitAt ':' cs)
    guard (groups.length = 8)
    return groups
  | some (before, after) =>
    guard (!before.contains '.')
    let (left, right) := (← side? before, ← side? after)
    guard (left.length + right.length ≤ 7)
    return left ++ List.replicate (8 - left.length - right.length) 0 ++ right

/-- The length of the run of zeros at the start. -/
def zeroRun (groups : List Nat) : Nat := (groups.takeWhile (· == 0)).length

/-- The groups as hexadecimal numbers joined by colons. -/
def writeGroups (groups : List Nat) : List Char := [':'].intercalate (groups.map hexadecimal)

/-- An address with its first longest run of two or more zeros left out. -/
def writeIpv6 (groups : List Nat) : List Char :=
  let runs := (List.range groups.length).map fun i => (i, zeroRun (groups.drop i))
  let best := runs.foldl (fun best run => if run.2 > best.2 then run else best) (0, 1)
  if best.2 < 2 then writeGroups groups
  else
    writeGroups (groups.take best.1) ++ "::".toList ++ writeGroups (groups.drop (best.1 + best.2))

/-! ## Hosts -/

/-- The normal form of a host. -/
def readHost (cs : List Char) : Except Fault (List Char) :=
  match cs with
  | '[' :: rest =>
    if rest.getLast? = some ']' then
      match ipv6? rest.dropLast with
      | some groups => .ok ('[' :: writeIpv6 groups ++ [']'])
      | none => .error .invalidIpv6
    else .error .invalidIpv6
  | cs =>
    match (Utf8.decode? (Encoding.Percent.decode cs)).bind Domain.read? with
    | none => .error .invalidDomain
    | some domain =>
      if domain.isEmpty then .error .emptyHost
      else if endsInNumber domain then
        match ipv4? domain with
        | some n => .ok (writeIpv4 n)
        | none => .error .invalidIpv4
      else .ok domain

end TrainingPortal.Url
