import Taskweave.Json.Reader

/-!
# TOML strings

The four kinds of quoted text: between quotation marks with escapes or between apostrophes without,
each on one line or, with three marks, on several. A reader is given what follows the opening marks
and answers the text with what follows the closing ones. Line ends inside a text are kept as they
are, except for one right after the opening marks and for those after a backslash, which go away with
all blanks and line ends that follow. Control characters other than tab do not stand in a text.
-/

namespace Taskweave.Toml

/-- Whether a character is a blank within a line. -/
def isBlank (c : Char) : Bool := c == ' ' || c == '\t'

/-- Whether a character may stand in a string or a comment. -/
def isPlain (c : Char) : Bool := c == '\t' || (0x20 ≤ c.toNat && c.toNat != 0x7F)

/-- What follows a line end. -/
def newline? : List Char → Option (List Char)
  | '\n' :: rest => some rest
  | '\r' :: '\n' :: rest => some rest
  | _ => none

/-- The character whose number is written by the first `width` characters, in hexadecimal. -/
def numbered? (width : Nat) (cs : List Char) : Option Char := do
  let digits ← (cs.take width).mapM Json.hexDigit?
  let n := digits.foldl (fun n d => n * 16 + d) 0
  if digits.length = width ∧ n.isValidChar then some (Char.ofNat n) else none

/-- The character of an escape, from after its backslash on, and how many characters it takes. -/
def escape? : List Char → Option (Char × Nat)
  | 'b' :: _ => some ('\x08', 1)
  | 't' :: _ => some ('\t', 1)
  | 'n' :: _ => some ('\n', 1)
  | 'f' :: _ => some ('\x0c', 1)
  | 'r' :: _ => some ('\r', 1)
  | 'e' :: _ => some ('\x1b', 1)
  | '"' :: _ => some ('"', 1)
  | '\\' :: _ => some ('\\', 1)
  | 'x' :: rest => (numbered? 2 rest).map fun c => (c, 3)
  | 'u' :: rest => (numbered? 4 rest).map fun c => (c, 5)
  | 'U' :: rest => (numbered? 8 rest).map fun c => (c, 9)
  | _ => none

/-- A text with escapes on one line; `read` holds its characters so far, in reverse, and the first
`skip` characters belong to an escape before them. -/
def escapedLine? (read : List Char) : (skip : Nat) → List Char → Option (List Char × List Char)
  | _, [] => none
  | skip + 1, _ :: rest => escapedLine? read skip rest
  | 0, '"' :: rest => some (read.reverse, rest)
  | 0, '\\' :: rest =>
    match escape? rest with
    | some (c, more) => escapedLine? (c :: read) more rest
    | none => none
  | 0, c :: rest => if isPlain c then escapedLine? (c :: read) 0 rest else none

/-- A text without escapes on one line. -/
def literalLine? (read : List Char) : List Char → Option (List Char × List Char)
  | [] => none
  | '\'' :: rest => some (read.reverse, rest)
  | c :: rest => if isPlain c then literalLine? (c :: read) rest else none

/-- How many of the characters before the next line end are blanks, where only blanks are. -/
def blanksToNewline? (cs : List Char) : Option Nat :=
  (newline? (cs.dropWhile isBlank)).map fun _ => (cs.takeWhile isBlank).length

/-- A text with escapes on several lines. While `joining`, blanks and line ends are passed over. -/
def escapedBlock? (read : List Char) (joining : Bool) :
    (skip : Nat) → List Char → Option (List Char × List Char)
  | _, [] => none
  | skip + 1, _ :: rest => escapedBlock? read joining skip rest
  | 0, '"' :: '"' :: '"' :: '"' :: '"' :: rest => some (read.reverse ++ ['"', '"'], rest)
  | 0, '"' :: '"' :: '"' :: '"' :: rest => some (read.reverse ++ ['"'], rest)
  | 0, '"' :: '"' :: '"' :: rest => some (read.reverse, rest)
  | 0, '\\' :: rest =>
    match blanksToNewline? rest with
    | some blanks => escapedBlock? read true blanks rest
    | none =>
      match escape? rest with
      | some (c, more) => escapedBlock? (c :: read) false more rest
      | none => none
  | 0, '\n' :: rest => escapedBlock? (if joining then read else '\n' :: read) joining 0 rest
  | 0, '\r' :: '\n' :: rest =>
    escapedBlock? (if joining then read else '\n' :: '\r' :: read) joining 0 rest
  | 0, c :: rest =>
    if joining && isBlank c then escapedBlock? read true 0 rest
    else if isPlain c then escapedBlock? (c :: read) false 0 rest
    else none

/-- A text without escapes on several lines. -/
def literalBlock? (read : List Char) : List Char → Option (List Char × List Char)
  | [] => none
  | '\'' :: '\'' :: '\'' :: '\'' :: '\'' :: rest => some (read.reverse ++ ['\'', '\''], rest)
  | '\'' :: '\'' :: '\'' :: '\'' :: rest => some (read.reverse ++ ['\''], rest)
  | '\'' :: '\'' :: '\'' :: rest => some (read.reverse, rest)
  | '\n' :: rest => literalBlock? ('\n' :: read) rest
  | '\r' :: '\n' :: rest => literalBlock? ('\n' :: '\r' :: read) rest
  | c :: rest => if isPlain c then literalBlock? (c :: read) rest else none

/-- The characters without a line end at their start. -/
def dropNewline (cs : List Char) : List Char := (newline? cs).getD cs

/-- A quoted text on one line, with its opening mark. -/
def line? : List Char → Option (List Char × List Char)
  | '"' :: rest => escapedLine? [] 0 rest
  | '\'' :: rest => literalLine? [] rest
  | _ => none

/-- A quoted text of any kind, with its opening marks. -/
def text? : List Char → Option (List Char × List Char)
  | '"' :: '"' :: '"' :: rest => escapedBlock? [] false 0 (dropNewline rest)
  | '\'' :: '\'' :: '\'' :: rest => literalBlock? [] (dropNewline rest)
  | cs => line? cs

end Taskweave.Toml
