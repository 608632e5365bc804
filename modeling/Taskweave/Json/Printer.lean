import Taskweave.Json.Basic
import Taskweave.Number.Shortest

/-!
# Printing JSON

`Json.compact` writes a value without blanks; `Json.pretty` puts each item and field on a line of
its own, indented by two spaces a level, and writes empty containers closed up. Both escape the
quote, the backslash and the control characters below U+0020, and nothing else.
-/

namespace Taskweave.Json

/-- A hexadecimal digit in lower case. -/
def hexChar (n : Nat) : Char := Nat.digitChar n

/-- The written form of one character of a string. -/
def escape (c : Char) : List Char :=
  match c with
  | '"' => ['\\', '"']
  | '\\' => ['\\', '\\']
  | '\n' => ['\\', 'n']
  | '\r' => ['\\', 'r']
  | '\t' => ['\\', 't']
  | '\x08' => ['\\', 'b']
  | '\x0c' => ['\\', 'f']
  | c =>
    if c.toNat < 0x20 then
      ['\\', 'u', '0', '0', hexChar (c.toNat / 16), hexChar (c.toNat % 16)]
    else [c]

/-- A string with its quotes. -/
def quoted (s : String) : List Char := '"' :: s.toList.flatMap escape ++ ['"']

/-- A number: an integer in decimal, a double by its shortest digits. -/
def numberChars : Number → List Char
  | .int n => if n < 0 then '-' :: Nat.toDigits 10 n.natAbs else Nat.toDigits 10 n.natAbs
  | .float x => x.text

mutual
/-- A value without blanks. -/
def compactChars : Json → List Char
  | .null => ['n', 'u', 'l', 'l']
  | .bool true => ['t', 'r', 'u', 'e']
  | .bool false => ['f', 'a', 'l', 's', 'e']
  | .num n => numberChars n
  | .str s => quoted s
  | .arr items => '[' :: compactItems items ++ [']']
  | .obj fields => '\x7b' :: compactFields fields ++ ['\x7d']

/-- Items separated by commas. -/
def compactItems : List Json → List Char
  | [] => []
  | [x] => compactChars x
  | x :: y :: rest => compactChars x ++ ',' :: compactItems (y :: rest)

/-- Fields separated by commas. -/
def compactFields : List (String × Json) → List Char
  | [] => []
  | [(k, x)] => quoted k ++ ':' :: compactChars x
  | (k, x) :: f :: rest => quoted k ++ ':' :: compactChars x ++ ',' :: compactFields (f :: rest)
end

/-- A line break and the indentation of a level. -/
def lineBreak (level : Nat) : List Char := '\n' :: List.replicate (2 * level) ' '

mutual
/-- A value over several lines, its closing bracket at `level`. -/
def prettyChars (level : Nat) : Json → List Char
  | .arr [] => ['[', ']']
  | .arr items => '[' :: prettyItems (level + 1) items ++ lineBreak level ++ [']']
  | .obj [] => ['\x7b', '\x7d']
  | .obj fields => '\x7b' :: prettyFields (level + 1) fields ++ lineBreak level ++ ['\x7d']
  | .null => ['n', 'u', 'l', 'l']
  | .bool true => ['t', 'r', 'u', 'e']
  | .bool false => ['f', 'a', 'l', 's', 'e']
  | .num n => numberChars n
  | .str s => quoted s

/-- Items on lines of their own. -/
def prettyItems (level : Nat) : List Json → List Char
  | [] => []
  | [x] => lineBreak level ++ prettyChars level x
  | x :: y :: rest => lineBreak level ++ prettyChars level x ++ ',' :: prettyItems level (y :: rest)

/-- Fields on lines of their own, a blank after each colon. -/
def prettyFields (level : Nat) : List (String × Json) → List Char
  | [] => []
  | [(k, x)] => lineBreak level ++ quoted k ++ ':' :: ' ' :: prettyChars level x
  | (k, x) :: f :: rest =>
    lineBreak level ++ quoted k ++ ':' :: ' ' :: prettyChars level x ++
      ',' :: prettyFields level (f :: rest)
end

/-- The value on one line, without blanks. -/
def compact (v : Json) : String := String.ofList (compactChars v)

/-- The value over several lines. -/
def pretty (v : Json) : String := String.ofList (prettyChars 0 v)

end Taskweave.Json
