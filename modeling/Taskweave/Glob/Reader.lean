import Taskweave.Glob.Basic

/-!
# Reading globs

In a written glob `?` stands for any byte and `*` for any run of them, `[` and `]` hold a class,
braces hold globs between commas, and a backslash takes the meaning off the next character. `Glob.read`
goes over the characters once: `Glob.Reader.step` is what one of them does.
-/

namespace Taskweave

/-- Why a text is no glob. -/
inductive GlobFault where
  | unclosedClass
  | invalidRange (low high : Char)
  | unopenedGroup
  | unclosedGroup
  | danglingEscape
deriving DecidableEq, Repr

/-- The explanation of a fault. -/
def GlobFault.message : GlobFault → String
  | .unclosedClass => "unclosed character class; missing ']'"
  | .invalidRange low high =>
    "invalid range; '" ++ low.toString ++ "' > '" ++ high.toString ++ "'"
  | .unopenedGroup =>
    "unopened alternate group; missing '\x7b' (maybe escape '\x7d' with '[\x7d]'?)"
  | .unclosedGroup =>
    "unclosed alternate group; missing '\x7d' (maybe escape '\x7b' with '[\x7b]'?)"
  | .danglingEscape => "dangling '\\'"

namespace Glob

/-- A class of which the beginning has been read. -/
structure OpenClass where
  negated : Bool
  /-- Whether a character of the class has been read. -/
  started : Bool
  /-- Whether a dash was read last that may stand in a range. -/
  dash : Bool
  /-- The ranges, the last one first. -/
  ranges : List (Char × Char)

/-- What the next character belongs to. -/
inductive Mode where
  | plain
  | escaped
  /-- A class of which only the bracket has been read. -/
  | classOpened
  | inClass (c : OpenClass)

/-- A group of which the beginning has been read. -/
structure OpenGroup where
  /-- The tokens before the group, the last one first. -/
  before : List Token
  /-- The branches that have been read, the last one first. -/
  branches : List (List Token)

/-- A glob of which the beginning has been read. -/
structure Reader where
  mode : Mode
  /-- The tokens of the branch that is being read, the last one first. -/
  branch : List Token
  /-- The groups that are open, the innermost one first. -/
  groups : List OpenGroup

namespace Reader

/-- Nothing has been read. -/
def start : Reader := ⟨.plain, [], []⟩

/-- Adds a token. -/
def add (r : Reader) (t : Token) : Reader := { r with mode := .plain, branch := t :: r.branch }

/-- Ends the innermost group. Its empty branches count for nothing. -/
def closeGroup (r : Reader) : Except GlobFault Reader :=
  match r.groups with
  | [] => .error .unopenedGroup
  | g :: groups =>
    let branches := (r.branch.reverse :: g.branches).reverse.filter fun b => !b.isEmpty
    let branch := if branches.isEmpty then g.before else .oneOf branches :: g.before
    .ok { r with branch, groups }

/-- Ends a branch of the innermost group; outside of groups a comma stands for itself. -/
def comma (r : Reader) : Reader :=
  match r.groups with
  | [] => r.add (.literal ',')
  | g :: groups =>
    { r with branch := [], groups := { g with branches := r.branch.reverse :: g.branches } :: groups }

/-- Takes a character outside of classes. -/
def plainStep (r : Reader) (c : Char) : Except GlobFault Reader :=
  match c with
  | '?' => .ok (r.add .any)
  | '*' => .ok (r.add .many)
  | '[' => .ok { r with mode := .classOpened }
  | '\x7b' => .ok { r with branch := [], groups := ⟨r.branch, []⟩ :: r.groups }
  | '\x7d' => r.closeGroup
  | ',' => .ok r.comma
  | '\\' => .ok { r with mode := .escaped }
  | c => .ok (r.add (.literal c))

/-- Makes a character the end of the last range. -/
def endRange (k : OpenClass) (c : Char) : Except GlobFault OpenClass :=
  match k.ranges with
  | [] => .ok k
  | (low, _) :: ranges =>
    if c < low then .error (.invalidRange low c)
    else .ok { k with started := true, dash := false, ranges := (low, c) :: ranges }

/-- Takes a character of a class. -/
def classStep (r : Reader) (k : OpenClass) (c : Char) : Except GlobFault Reader :=
  if c = ']' ∧ k.started then
    let ranges := if k.dash then ('-', '-') :: k.ranges else k.ranges
    .ok (r.add (.byteClass k.negated ranges.reverse))
  else if c = '-' ∧ k.started ∧ !k.dash then
    .ok { r with mode := .inClass { k with dash := true } }
  else if k.dash then do
    return { r with mode := .inClass (← endRange k c) }
  else
    .ok { r with mode := .inClass { k with started := true, ranges := (c, c) :: k.ranges } }

/-- Takes a character. -/
def step (r : Reader) (c : Char) : Except GlobFault Reader :=
  match r.mode with
  | .plain => r.plainStep c
  | .escaped => .ok (r.add (.literal c))
  | .classOpened =>
    if c = '!' ∨ c = '^' then .ok { r with mode := .inClass ⟨true, false, false, []⟩ }
    else r.classStep ⟨false, false, false, []⟩ c
  | .inClass k => r.classStep k c

/-- The glob that has been read, once nothing is left open. -/
def finish (r : Reader) : Except GlobFault Glob :=
  match r.mode with
  | .plain => if r.groups.isEmpty then .ok r.branch.reverse else .error .unclosedGroup
  | .escaped => .error .danglingEscape
  | _ => .error .unclosedClass

end Reader

/-- Reads a glob. -/
def read (text : String) : Except GlobFault Glob := do
  (← text.toList.foldlM Reader.step Reader.start).finish

end Glob

end Taskweave
