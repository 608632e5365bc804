import Taskweave.Text.Blank
import Taskweave.Text.Quoted

/-!
# Paths

A path is a text of names with slashes between them. Names that are empty or a single point stay
where they are; two points go up. `Path.join` and `Path.parent` work on the text and do not look at
any disk.
-/

namespace Taskweave.Path

/-- The names of a path, the empty ones and the points among them. -/
def names (path : String) : List String := Text.pieces (· == '/') path

/-- Whether a name stays where it is. -/
def isVoid (name : String) : Bool := name.isEmpty || name == "."

/-- A path beneath another one. -/
def join (base path : String) : String :=
  if base.isEmpty || base.toList.getLast? == some '/' then base ++ path else base ++ "/" ++ path

/-- The names without the void ones at the end, in reverse. -/
def trimmed (names : List String) : List String := names.reverse.dropWhile isVoid

/-- Whether a path starts at the top. -/
def isAbsolute (path : String) : Bool := path.toList.head? == some '/'

/-- The path without its last name that is not void. A point at the start stays. -/
def parent (path : String) : String :=
  let given := trimmed (names path)
  let rest := trimmed given.tail.reverse
  if !rest.isEmpty then "/".intercalate rest.reverse
  else if isAbsolute path then "/"
  else if given.tail.getLast? == some "." then "."
  else ""

/-- A path between double quotes, apostrophes escaped too. -/
def quoted (path : String) : String :=
  let char (c : Char) : List Char := if c = '\'' then ['\\', '\''] else Text.quotedChar c
  String.ofList ('"' :: path.toList.flatMap char ++ ['"'])

end Taskweave.Path
