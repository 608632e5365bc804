/-!
# Blanks and lines

A character is blank when Unicode gives it the property White_Space (`Text.isBlank`). `Text.trim`
removes the blanks at both ends of a text, `Text.lines` cuts a text at its line feeds, `Text.pieces`
at characters of any kind.
-/

namespace Taskweave.Text

/-- Whether a character has the property White_Space. -/
def isBlank (c : Char) : Bool :=
  let n := c.toNat
  (9 ≤ n && n ≤ 13) || n == 0x20 || n == 0x85 || n == 0xA0 || n == 0x1680 ||
    (0x2000 ≤ n && n ≤ 0x200A) || n == 0x2028 || n == 0x2029 || n == 0x202F || n == 0x205F ||
    n == 0x3000

/-- The characters without the blanks at either end. -/
def trimChars (cs : List Char) : List Char :=
  ((cs.dropWhile isBlank).reverse.dropWhile isBlank).reverse

/-- The text without the blanks at either end. -/
def trim (s : String) : String := String.ofList (trimChars s.toList)

/-- Whether a text has no character but blanks. -/
def isBlankText (s : String) : Bool := s.toList.all isBlank

/-- A finished line, given in reverse, without the carriage return before its line feed. -/
def finishLine : List Char → String
  | '\r' :: rest => String.ofList rest.reverse
  | cs => String.ofList cs.reverse

/-- The lines of a text whose current line starts with the characters of `line`, in reverse;
`read` holds the earlier lines, in reverse. -/
def linesFrom (read : List String) (line : List Char) : List Char → List String
  | [] => (if line.isEmpty then read else String.ofList line.reverse :: read).reverse
  | '\n' :: rest => linesFrom (finishLine line :: read) [] rest
  | c :: rest => linesFrom read (c :: line) rest

/-- The lines of a text. A line ends with a line feed, or a carriage return and a line feed, which
are not part of it; the last one may go without. -/
def lines (s : String) : List String := linesFrom [] [] s.toList

/-- The pieces of a text whose current piece starts with the characters of `piece`, in reverse;
`read` holds the earlier pieces, in reverse. -/
def piecesFrom (isCut : Char → Bool) (read : List String) (piece : List Char) :
    List Char → List String
  | [] => (String.ofList piece.reverse :: read).reverse
  | c :: rest =>
    if isCut c then piecesFrom isCut (String.ofList piece.reverse :: read) [] rest
    else piecesFrom isCut read (c :: piece) rest

/-- The pieces between the characters at which a text is cut, one more than there are of these. -/
def pieces (isCut : Char → Bool) (s : String) : List String := piecesFrom isCut [] [] s.toList

end Taskweave.Text
