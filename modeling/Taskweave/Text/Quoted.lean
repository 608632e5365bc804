import Taskweave.Unicode.Property

/-!
# Quoted text

`Text.quoted` writes a text between double quotes so that every character of it can be told on a
screen: quotes, backslashes and the common controls have short escapes, and characters without a
visible form of their own are written by their number.
-/

namespace Taskweave.Text

/-- A character by its number, as `\u` and the number in braces. -/
def numbered (c : Char) : List Char :=
  '\\' :: 'u' :: '\x7b' :: Nat.toDigits 16 c.toNat ++ ['\x7d']

/-- The quoted form of one character. -/
def quotedChar (c : Char) : List Char :=
  match c with
  | '"' => ['\\', '"']
  | '\\' => ['\\', '\\']
  | '\n' => ['\\', 'n']
  | '\r' => ['\\', 'r']
  | '\t' => ['\\', 't']
  | '\x00' => ['\\', '0']
  | c =>
    if 0x20 ≤ c.toNat ∧ c.toNat < 0x7F then [c]
    else if Unicode.graphemeExtend.contains c.toNat || Unicode.invisible.contains c.toNat then
      numbered c
    else [c]

/-- A text between double quotes. -/
def quoted (s : String) : String :=
  String.ofList ('"' :: s.toList.flatMap quotedChar ++ ['"'])

end Taskweave.Text
