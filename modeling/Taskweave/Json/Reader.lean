import Taskweave.Json.Numeral

/-!
# Reading JSON

`Json.read?` reads one value that fills its input, blanks around it aside. Blanks are space, tab,
line feed and carriage return. Strings hold no raw control characters, and an escaped surrogate
counts only as half of a pair. Containers nest `Json.maxDepth` levels at most. Of two fields with
one name the later stays, and fields come out in ascending order.

The reader works on characters. Its loops carry what they have read so far in reverse; the mutual
recursion for nested values takes a bound on its steps, which `read?` sets above the input's length.
-/

namespace Taskweave.Json

/-- Levels of arrays and objects that can be read. -/
def maxDepth : Nat := 127

/-- Blank characters between tokens. -/
def isBlank (c : Char) : Bool := c == ' ' || c == '\t' || c == '\n' || c == '\r'

/-- The input without its leading blanks. -/
def skipBlanks (cs : List Char) : List Char := cs.dropWhile isBlank

/-- The value of a hexadecimal digit. -/
def hexDigit? (c : Char) : Option Nat :=
  if '0' ≤ c ∧ c ≤ '9' then some (c.toNat - '0'.toNat)
  else if 'a' ≤ c ∧ c ≤ 'f' then some (c.toNat - 'a'.toNat + 10)
  else if 'A' ≤ c ∧ c ≤ 'F' then some (c.toNat - 'A'.toNat + 10)
  else none

/-- The UTF-16 unit written by four hexadecimal digits. -/
def unit? (a b c d : Char) : Option Nat := do
  let a ← hexDigit? a
  let b ← hexDigit? b
  let c ← hexDigit? c
  let d ← hexDigit? d
  some (((a * 16 + b) * 16 + c) * 16 + d)

/-- The character that a one-letter escape stands for. -/
def unescape? : Char → Option Char
  | '"' => some '"'
  | '\\' => some '\\'
  | '/' => some '/'
  | 'b' => some '\x08'
  | 'f' => some '\x0c'
  | 'n' => some '\n'
  | 'r' => some '\r'
  | 't' => some '\t'
  | _ => none

/-- Whether a UTF-16 unit is the first half of a pair. -/
def isHighUnit (u : Nat) : Bool := 0xD800 ≤ u && u < 0xDC00

/-- Whether a UTF-16 unit is the second half of a pair. -/
def isLowUnit (u : Nat) : Bool := 0xDC00 ≤ u && u < 0xE000

/-- The character of a pair of UTF-16 units. -/
def ofPair (high low : Nat) : Char :=
  Char.ofNat (0x10000 + (high - 0xD800) * 0x400 + (low - 0xDC00))

/-- The rest of a string after its opening quote, `read` holding its characters so far in
reverse. -/
def stringTail? (read : List Char) : List Char → Option (String × List Char)
  | [] => none
  | '"' :: rest => some (String.ofList read.reverse, rest)
  | '\\' :: 'u' :: a :: b :: c :: d :: rest =>
    match unit? a b c d with
    | none => none
    | some u =>
      if isHighUnit u then
        match rest with
        | '\\' :: 'u' :: a' :: b' :: c' :: d' :: rest' =>
          match unit? a' b' c' d' with
          | none => none
          | some v => if isLowUnit v then stringTail? (ofPair u v :: read) rest' else none
        | _ => none
      else if isLowUnit u then none
      else stringTail? (Char.ofNat u :: read) rest
  | '\\' :: c :: rest =>
    match unescape? c with
    | none => none
    | some c => stringTail? (c :: read) rest
  | c :: rest => if c.toNat < 0x20 then none else stringTail? (c :: read) rest

/-- A leading run of decimal digits, as values, and what follows it. -/
def digits (cs : List Char) : List Nat × List Char :=
  ((cs.takeWhile Char.isDigit).map fun c => c.toNat - '0'.toNat, cs.dropWhile Char.isDigit)

/-- The fraction of a number, if it has one; a point without digits is refused. -/
def fraction? : List Char → Option (Option (List Nat) × List Char)
  | '.' :: rest =>
    match digits rest with
    | ([], _) => none
    | (ds, rest) => some (some ds, rest)
  | cs => some (none, cs)

/-- The sign of an exponent; none is a plus. -/
def exponentSign : List Char → Bool × List Char
  | '+' :: rest => (true, rest)
  | '-' :: rest => (false, rest)
  | cs => (true, cs)

/-- The exponent of a number, if it has one; an `e` without digits is refused. -/
def exponent? : List Char → Option (Option (Bool × List Nat) × List Char)
  | c :: rest =>
    if c = 'e' ∨ c = 'E' then
      let (plus, rest) := exponentSign rest
      match digits rest with
      | ([], _) => none
      | (ds, rest) => some (some (plus, ds), rest)
    else some (none, c :: rest)
  | [] => some (none, [])

/-- The sign of a number. -/
def sign : List Char → Bool × List Char
  | '-' :: rest => (true, rest)
  | cs => (false, cs)

/-- A number; a zero before further integer digits is refused. -/
def numeral? (cs : List Char) : Option (Numeral × List Char) :=
  let (negative, cs) := sign cs
  match digits cs with
  | ([], _) => none
  | (0 :: _ :: _, _) => none
  | (whole, cs) => do
    let (frac, cs) ← fraction? cs
    let (exp, cs) ← exponent? cs
    some (⟨negative, whole, frac, exp⟩, cs)

mutual
/-- A value with at most `depth` levels of containers, in at most `fuel` steps. -/
def value? : (fuel depth : Nat) → List Char → Option (Json × List Char)
  | 0, _, _ => none
  | fuel + 1, depth, cs =>
    match skipBlanks cs with
    | 'n' :: 'u' :: 'l' :: 'l' :: rest => some (.null, rest)
    | 't' :: 'r' :: 'u' :: 'e' :: rest => some (.bool true, rest)
    | 'f' :: 'a' :: 'l' :: 's' :: 'e' :: rest => some (.bool false, rest)
    | '"' :: rest => (stringTail? [] rest).map fun (s, rest) => (.str s, rest)
    | '[' :: rest =>
      match depth with
      | 0 => none
      | depth + 1 =>
        match skipBlanks rest with
        | ']' :: rest => some (.arr [], rest)
        | rest => items? fuel depth [] rest
    | '\x7b' :: rest =>
      match depth with
      | 0 => none
      | depth + 1 =>
        match skipBlanks rest with
        | '\x7d' :: rest => some (.obj [], rest)
        | rest => fields? fuel depth [] rest
    | cs =>
      match numeral? cs with
      | none => none
      | some (n, rest) => n.value?.map fun x => (.num x, rest)

/-- The items of an array from one of them on, after those in `read`, which are in reverse. -/
def items? : (fuel depth : Nat) → List Json → List Char → Option (Json × List Char)
  | 0, _, _, _ => none
  | fuel + 1, depth, read, cs =>
    match value? fuel depth cs with
    | none => none
    | some (v, rest) =>
      match skipBlanks rest with
      | ',' :: rest => items? fuel depth (v :: read) rest
      | ']' :: rest => some (.arr (v :: read).reverse, rest)
      | _ => none

/-- The fields of an object from one of them on, after those in `read`. -/
def fields? : (fuel depth : Nat) → Dict Json → List Char → Option (Json × List Char)
  | 0, _, _, _ => none
  | fuel + 1, depth, read, cs =>
    match skipBlanks cs with
    | '"' :: rest =>
      match stringTail? [] rest with
      | none => none
      | some (k, rest) =>
        match skipBlanks rest with
        | ':' :: rest =>
          match value? fuel depth rest with
          | none => none
          | some (v, rest) =>
            match skipBlanks rest with
            | ',' :: rest => fields? fuel depth (Dict.insert read k v) rest
            | '\x7d' :: rest => some (.obj (Dict.insert read k v), rest)
            | _ => none
        | _ => none
    | _ => none
end

/-- Reads a value that fills the characters. -/
def readChars? (cs : List Char) : Option Json :=
  match value? (2 * cs.length + 2) maxDepth cs with
  | some (v, rest) => if skipBlanks rest = [] then some v else none
  | none => none

/-- Reads a value that fills the text. -/
def read? (text : String) : Option Json := readChars? text.toList

end Taskweave.Json
