/-!
# UTF-8

The bytes of characters, and reading them back. `chunks` cuts any byte string into characters and
broken pieces, a piece being the longest start of a character that its next byte cuts short, or a
single byte that starts none. Strict decoding refuses broken pieces (`decode?`), lenient decoding
puts U+FFFD in their place (`decodeLossy`).
-/

namespace TrainingPortal.Text.Utf8

/-- The bytes of one character. -/
def encodeChar (c : Char) : List UInt8 :=
  let n := c.toNat
  if n < 0x80 then [UInt8.ofNat n]
  else if n < 0x800 then [UInt8.ofNat (0xC0 + n / 64), UInt8.ofNat (0x80 + n % 64)]
  else if n < 0x10000 then
    [UInt8.ofNat (0xE0 + n / 4096), UInt8.ofNat (0x80 + n / 64 % 64), UInt8.ofNat (0x80 + n % 64)]
  else
    [UInt8.ofNat (0xF0 + n / 262144), UInt8.ofNat (0x80 + n / 4096 % 64),
      UInt8.ofNat (0x80 + n / 64 % 64), UInt8.ofNat (0x80 + n % 64)]

/-- The bytes of a list of characters. -/
def encode (cs : List Char) : List UInt8 := cs.flatMap encodeChar

/-- The bytes of a text. -/
def bytes (s : String) : List UInt8 := encode s.toList

/-- Whether a byte may follow the first byte of a character. -/
def isTail (b : UInt8) : Bool := 0x80 ≤ b.toNat && b.toNat < 0xC0

/-- Whether a byte may be the second of a character of three bytes that starts with `n`. -/
def isSecondOfThree (n : Nat) (b : UInt8) : Bool :=
  (if n = 0xE0 then 0xA0 else 0x80) ≤ b.toNat && b.toNat < (if n = 0xED then 0xA0 else 0xC0)

/-- Whether a byte may be the second of a character of four bytes that starts with `n`. -/
def isSecondOfFour (n : Nat) (b : UInt8) : Bool :=
  (if n = 0xF0 then 0x90 else 0x80) ≤ b.toNat && b.toNat < (if n = 0xF4 then 0x90 else 0xC0)

/-- The character that starts with byte `b`, or `none` for a broken piece, and how many of the
bytes after `b` belong to it. -/
def head (b : UInt8) (rest : List UInt8) : Option Char × Nat :=
  let n := b.toNat
  if n < 0x80 then (some (Char.ofNat n), 0)
  else if 0xC2 ≤ n ∧ n < 0xE0 then
    match rest with
    | b₁ :: _ =>
      if isTail b₁ then (some (Char.ofNat ((n - 0xC0) * 64 + (b₁.toNat - 0x80))), 1) else (none, 0)
    | [] => (none, 0)
  else if 0xE0 ≤ n ∧ n < 0xF0 then
    match rest with
    | b₁ :: r₁ =>
      if isSecondOfThree n b₁ then
        match r₁ with
        | b₂ :: _ =>
          if isTail b₂ then
            (some (Char.ofNat
              ((n - 0xE0) * 4096 + (b₁.toNat - 0x80) * 64 + (b₂.toNat - 0x80))), 2)
          else (none, 1)
        | [] => (none, 1)
      else (none, 0)
    | [] => (none, 0)
  else if 0xF0 ≤ n ∧ n < 0xF5 then
    match rest with
    | b₁ :: r₁ =>
      if isSecondOfFour n b₁ then
        match r₁ with
        | b₂ :: r₂ =>
          if isTail b₂ then
            match r₂ with
            | b₃ :: _ =>
              if isTail b₃ then
                (some (Char.ofNat ((n - 0xF0) * 262144 + (b₁.toNat - 0x80) * 4096 +
                  (b₂.toNat - 0x80) * 64 + (b₃.toNat - 0x80))), 3)
              else (none, 2)
            | [] => (none, 2)
          else (none, 1)
        | [] => (none, 1)
      else (none, 0)
    | [] => (none, 0)
  else (none, 0)

/-- The characters and broken pieces of a byte string, after leaving out `skip` bytes. -/
def chunksFrom : Nat → List UInt8 → List (Option Char)
  | _, [] => []
  | skip + 1, _ :: rest => chunksFrom skip rest
  | 0, b :: rest =>
    let (c, taken) := head b rest
    c :: chunksFrom taken rest

/-- The characters and broken pieces (`none`) of a byte string. -/
def chunks (bs : List UInt8) : List (Option Char) := chunksFrom 0 bs

/-- The characters of a byte string, if it is well formed. -/
def decode? (bs : List UInt8) : Option (List Char) := (chunks bs).mapM id

/-- The characters of a byte string, with U+FFFD for every broken piece. -/
def decodeLossy (bs : List UInt8) : List Char := (chunks bs).map (·.getD '\uFFFD')

/-- The number of bytes of a list of characters. -/
def length (cs : List Char) : Nat := (encode cs).length

end TrainingPortal.Text.Utf8
