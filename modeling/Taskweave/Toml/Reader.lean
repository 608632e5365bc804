import Taskweave.Toml.Scalar
import Taskweave.Toml.Text
import Taskweave.Toml.Tree

/-!
# Reading TOML

`Toml.read?` reads a document of version 1.1 as a table. Reading goes line by line: a header opens a
table (`Node.openTable?`) or one more table of an array (`Node.openItem?`), and every other line
binds a key in the table that was opened last (`Node.assign?`). Arrays and tables in a value may go
over several lines, with comments, and end in a comma; they nest `Toml.maxDepth` levels at most.
-/

namespace Taskweave.Toml

/-- Levels of arrays and tables within one value. -/
def maxDepth : Nat := 80

/-- The input without leading blanks. -/
def skipBlanks (cs : List Char) : List Char := cs.dropWhile isBlank

/-- The input from the end of a comment on; the comment may be missing. -/
def skipComment? : List Char → Option (List Char)
  | '#' :: rest =>
    match rest.dropWhile isPlain with
    | [] => some []
    | cs => (newline? cs).map fun _ => cs
  | cs => some cs

/-- The input without leading blanks, comments and line ends, in at most `fuel` lines. -/
def skipLines? : (fuel : Nat) → List Char → Option (List Char)
  | 0, _ => none
  | fuel + 1, cs =>
    match skipComment? (skipBlanks cs) with
    | none => none
    | some cs =>
      match newline? cs with
      | some rest => skipLines? fuel rest
      | none => some cs

/-- The input without leading blanks, comments and line ends. -/
def skip? (cs : List Char) : Option (List Char) := skipLines? (cs.length + 1) cs

/-- Whether a character may stand in a key without quotes. -/
def isKeyChar (c : Char) : Bool := c.isAlphanum || c == '_' || c == '-'

/-- One part of a key. -/
def keyPart? (cs : List Char) : Option (String × List Char) :=
  match cs.takeWhile isKeyChar with
  | [] => (line? cs).map fun (part, rest) => (String.ofList part, rest)
  | part => some (String.ofList part, cs.dropWhile isKeyChar)

/-- The parts of a key and what follows it; `path` holds earlier parts, in reverse. The last part
comes apart from those before it. -/
def keyFrom? : (fuel : Nat) → (path : List String) → List Char →
    Option (List String × String × List Char)
  | 0, _, _ => none
  | fuel + 1, path, cs =>
    match keyPart? (skipBlanks cs) with
    | none => none
    | some (part, rest) =>
      match skipBlanks rest with
      | '.' :: rest => keyFrom? fuel (part :: path) rest
      | rest => some (path.reverse, part, rest)

/-- A key with its parts. -/
def key? (cs : List Char) : Option (List String × String × List Char) :=
  keyFrom? (cs.length + 1) [] cs

/-- Whether a character may stand in an unquoted value. -/
def isWordChar (c : Char) : Bool :=
  !isBlank c && c != '\n' && c != '\r' && c != ',' && c != ']' && c != '\x7d' && c != '#'

/-- An unquoted word. A date takes the time after a single blank with it. -/
def word (cs : List Char) : List Char × List Char :=
  let first := cs.takeWhile isWordChar
  match cs.dropWhile isWordChar with
  | ' ' :: c :: rest =>
    if c.isDigit && Moment.isDate first then
      (first ++ ' ' :: (c :: rest).takeWhile isWordChar, (c :: rest).dropWhile isWordChar)
    else (first, ' ' :: c :: rest)
  | rest => (first, rest)

mutual
/-- A value with at most `depth` levels of arrays and tables, in at most `fuel` steps. -/
def value? : (fuel depth : Nat) → List Char → Option (Toml × List Char)
  | 0, _, _ => none
  | fuel + 1, depth, cs =>
    match cs with
    | '"' :: _ | '\'' :: _ =>
      (text? cs).map fun (s, rest) => (.string (String.ofList s), rest)
    | '[' :: rest =>
      match depth with
      | 0 => none
      | depth + 1 => items? fuel depth [] rest
    | '\x7b' :: rest =>
      match depth with
      | 0 => none
      | depth + 1 => fields? fuel depth [] rest
    | cs =>
      let (word, rest) := word cs
      (scalar? word).map fun v => (v, rest)

/-- The rest of an array before an item or its end, after the items in `read`, in reverse. -/
def items? : (fuel depth : Nat) → (read : List Toml) → List Char → Option (Toml × List Char)
  | 0, _, _, _ => none
  | fuel + 1, depth, read, cs =>
    match skip? cs with
    | none => none
    | some (']' :: rest) => some (.array read.reverse, rest)
    | some cs =>
      match value? fuel depth cs with
      | none => none
      | some (v, rest) =>
        match skip? rest with
        | some (',' :: rest) => items? fuel depth (v :: read) rest
        | some (']' :: rest) => some (.array (v :: read).reverse, rest)
        | _ => none

/-- The rest of a table in a value before an entry or its end, after the entries in `read`. -/
def fields? : (fuel depth : Nat) → (read : Entries) → List Char → Option (Toml × List Char)
  | 0, _, _, _ => none
  | fuel + 1, depth, read, cs =>
    match skip? cs with
    | none => none
    | some ('\x7d' :: rest) => some (.table (Node.freezeEntries read), rest)
    | some cs =>
      match key? cs with
      | some (path, k, '=' :: rest) =>
        match value? fuel depth (skipBlanks rest) with
        | none => none
        | some (v, rest) =>
          match Node.assign? [] path k v read with
          | none => none
          | some read =>
            match skip? rest with
            | some (',' :: rest) => fields? fuel depth read rest
            | some ('\x7d' :: rest) => some (.table (Node.freezeEntries read), rest)
            | _ => none
      | _ => none
end

/-- What one line of a document says. -/
inductive Statement where
  | table (path : List String) (k : String)
  | item (path : List String) (k : String)
  | assign (path : List String) (k : String) (v : Toml)

/-- A statement, without the rest of its line. -/
def statement? (fuel : Nat) : List Char → Option (Statement × List Char)
  | '[' :: '[' :: rest =>
    match key? rest with
    | some (path, k, ']' :: ']' :: rest) => some (.item path k, rest)
    | _ => none
  | '[' :: rest =>
    match key? rest with
    | some (path, k, ']' :: rest) => some (.table path k, rest)
    | _ => none
  | cs =>
    match key? cs with
    | some (path, k, '=' :: rest) =>
      (value? fuel maxDepth (skipBlanks rest)).map fun (v, rest) => (.assign path k v, rest)
    | _ => none

/-- A document under construction. -/
structure Document where
  /-- The parts of the last header. -/
  within : List String
  top : Entries

namespace Document

/-- A document of which nothing has been read. -/
def empty : Document := ⟨[], []⟩

/-- Adds what one line says. -/
def add? (d : Document) : Statement → Option Document
  | .table path k => (Node.openTable? path k d.top).map fun top => ⟨path ++ [k], top⟩
  | .item path k => (Node.openItem? path k d.top).map fun top => ⟨path ++ [k], top⟩
  | .assign path k v => (Node.assign? d.within path k v d.top).map fun top => ⟨d.within, top⟩

/-- The value of a document. -/
def value (d : Document) : Toml := .table (Node.freezeEntries d.top)

end Document

/-- The end of a line after a statement: blanks and a comment. -/
def lineEnd? (cs : List Char) : Option (List Char) :=
  match skipComment? (skipBlanks cs) with
  | some [] => some []
  | some cs => newline? cs
  | none => none

/-- Reads the lines of a document onto those read before, in at most `lines` statements. -/
def document? (fuel : Nat) : (lines : Nat) → Document → List Char → Option Document
  | 0, _, _ => none
  | lines + 1, d, cs =>
    match skip? cs with
    | none => none
    | some [] => some d
    | some cs => do
      let (s, rest) ← statement? fuel cs
      let rest ← lineEnd? rest
      let d ← d.add? s
      document? fuel lines d rest

/-- The mark that may stand at the start of a document. -/
def mark : Char := '\ufeff'

/-- Reads a document. -/
def read? (text : String) : Option Toml :=
  let cs := match text.toList with
    | c :: rest => if c = mark then rest else c :: rest
    | [] => []
  (document? (2 * cs.length + 2) (cs.length + 1) .empty cs).map Document.value

end Taskweave.Toml
