/-!
# UTF-8

`Utf8.step` reads the first character of a byte sequence or the longest invalid sequence at its
start. `Utf8.decodeLossy` puts one U+FFFD in the place of each invalid sequence, `Utf8.decode?`
refuses input that has one. `Utf8.encode` is the way back.
-/

namespace Taskweave.Utf8

/-- The character put in the place of an invalid sequence. -/
def replacement : Char := '\ufffd'

/-- Whether a byte continues a character. -/
def isTail (b : UInt8) : Bool := 0x80 ≤ b && b ≤ 0xBF

/-- The bytes that may come second after a first byte of a character of three or four bytes. -/
def isSecond (first b : UInt8) : Bool :=
  if first = 0xE0 then 0xA0 ≤ b && b ≤ 0xBF
  else if first = 0xED then 0x80 ≤ b && b ≤ 0x9F
  else if first = 0xF0 then 0x90 ≤ b && b ≤ 0xBF
  else if first = 0xF4 then 0x80 ≤ b && b ≤ 0x8F
  else isTail b

/-- The low bits of a byte that continues a character. -/
def low (b : UInt8) : Nat := b.toNat % 64

/-- The first character, or `none` for an invalid sequence, and how many bytes after the first
belong to it. -/
def step (a : UInt8) (rest : List UInt8) : Option Char × Nat :=
  if a < 0x80 then (some (Char.ofNat a.toNat), 0)
  else if 0xC2 ≤ a ∧ a ≤ 0xDF then
    match rest with
    | b :: _ => if isTail b then (some (Char.ofNat (a.toNat % 32 * 64 + low b)), 1) else (none, 0)
    | [] => (none, 0)
  else if 0xE0 ≤ a ∧ a ≤ 0xEF then
    match rest with
    | b :: rest =>
      if isSecond a b then
        match rest with
        | c :: _ =>
          if isTail c then
            (some (Char.ofNat ((a.toNat % 16 * 64 + low b) * 64 + low c)), 2)
          else (none, 1)
        | [] => (none, 1)
      else (none, 0)
    | [] => (none, 0)
  else if 0xF0 ≤ a ∧ a ≤ 0xF4 then
    match rest with
    | b :: rest =>
      if isSecond a b then
        match rest with
        | c :: rest =>
          if isTail c then
            match rest with
            | d :: _ =>
              if isTail d then
                (some (Char.ofNat (((a.toNat % 8 * 64 + low b) * 64 + low c) * 64 + low d)), 3)
              else (none, 2)
            | [] => (none, 2)
          else (none, 1)
        | [] => (none, 1)
      else (none, 0)
    | [] => (none, 0)
  else (none, 0)

/-- The characters of a byte sequence after those in `read`, in reverse, `none` standing for an
invalid sequence; the first `skip` bytes belong to the character before. -/
def scan (read : List (Option Char)) : (skip : Nat) → List UInt8 → List (Option Char)
  | _, [] => read.reverse
  | skip + 1, _ :: rest => scan read skip rest
  | 0, a :: rest =>
    let (c, more) := step a rest
    scan (c :: read) more rest

/-- Decodes bytes, with one replacement character for each invalid sequence. -/
def decodeLossy (bytes : List UInt8) : String :=
  String.ofList ((scan [] 0 bytes).map fun c => c.getD replacement)

/-- Decodes bytes that are valid throughout. -/
def decode? (bytes : List UInt8) : Option String :=
  let cs := scan [] 0 bytes
  if cs.all Option.isSome then some (String.ofList (cs.filterMap id)) else none

/-- The bytes of a character. -/
def encodeChar (c : Char) : List UInt8 :=
  let n := c.toNat
  let tail (k : Nat) : UInt8 := UInt8.ofNat (0x80 + n / Nat.pow 64 k % 64)
  if n < 0x80 then [UInt8.ofNat n]
  else if n < 0x800 then [UInt8.ofNat (0xC0 + n / 64), tail 0]
  else if n < 0x10000 then [UInt8.ofNat (0xE0 + n / 4096), tail 1, tail 0]
  else [UInt8.ofNat (0xF0 + n / 262144), tail 2, tail 1, tail 0]

/-- The bytes of a text. -/
def encode (s : String) : List UInt8 := s.toList.flatMap encodeChar

end Taskweave.Utf8
