import Taskweave.Pattern.Basic
import Taskweave.Text.Blank

/-!
# Reading patterns

`Pattern.read?` reads the usual notation: classes in brackets with ranges, nesting and set
operations, named and Perl classes, groups, assertions, repetitions and inline modes. There is no
look-around, no reference back to a group and no octal escape. `none` is the answer to anything
else, and to patterns that nest deeper than `Pattern.maxNesting` levels.

With the mode `unicode` off only ASCII sets can be written, since any other set of bytes would match
parts of characters.
-/

namespace Taskweave.Pattern

open Unicode (Ranges)

/-- Levels of nesting of groups, classes, repetitions, sequences and choices. -/
def maxNesting : Nat := 250

/-- The modes in force at a place of a pattern. -/
structure Mode where
  ignoreCase : Bool
  multiLine : Bool
  dotAll : Bool
  crlf : Bool
  unicode : Bool
  /-- Blanks and comments between tokens do not count. -/
  spaced : Bool
deriving DecidableEq, Repr

/-- The modes at the start of a pattern. -/
def Mode.initial : Mode := ⟨false, false, false, false, true, false⟩

/-- Drops a comment up to its line feed. -/
def skipComment : List Char → List Char
  | [] => []
  | '\n' :: rest => rest
  | _ :: rest => skipComment rest

/-- Drops blanks and comments, in at most `fuel` rounds. -/
def skipSpaces : Nat → List Char → List Char
  | 0, cs => cs
  | fuel + 1, cs =>
    match cs.dropWhile Text.isBlank with
    | '#' :: rest => skipSpaces fuel (skipComment rest)
    | cs => cs

/-- Drops blanks and comments where the mode says so. -/
def skip (m : Mode) (cs : List Char) : List Char :=
  if m.spaced then skipSpaces (cs.length + 1) cs else cs

/-- Drops blanks and comments where the mode says so; refuses the end of the pattern. -/
def skipTo? (m : Mode) (cs : List Char) : Option (List Char) :=
  match skip m cs with
  | [] => none
  | cs => some cs

/-! ## Escapes -/

/-- What stands at one place of a pattern or class. -/
inductive Item where
  /-- A character; `byte` if it was written as a byte by two hexadecimal digits. -/
  | char (c : Char) (byte : Bool)
  | set (ranges : Ranges)
  | look (l : Look)
  | dot

/-- The value of a hexadecimal digit. -/
def hexDigit? (c : Char) : Option Nat :=
  if '0' ≤ c ∧ c ≤ '9' then some (c.toNat - '0'.toNat)
  else if 'a' ≤ c ∧ c ≤ 'f' then some (c.toNat - 'a'.toNat + 10)
  else if 'A' ≤ c ∧ c ≤ 'F' then some (c.toNat - 'A'.toNat + 10)
  else none

/-- The character with a number, if there is one. -/
def charOf? (n : Nat) : Option Char :=
  if n < 0xD800 ∨ (0xE000 ≤ n ∧ n < 0x110000) then some (Char.ofNat n) else none

/-- Exactly `n` hexadecimal digits after those of `value`. -/
def hexFixed? (m : Mode) : (n : Nat) → (value : Nat) → List Char → Option (Nat × List Char)
  | 0, value, cs => some (value, cs)
  | n + 1, value, c :: rest =>
    match hexDigit? c with
    | none => none
    | some d => if n = 0 then some (value * 16 + d, rest)
      else (skipTo? m rest).bind fun rest => hexFixed? m n (value * 16 + d) rest
  | _ + 1, _, [] => none

/-- Hexadecimal digits up to the closing brace, after `count` digits of `value`. The value stops
growing once it is no character any more. -/
def hexBraced? (m : Mode) :
    (fuel count value : Nat) → List Char → Option (Nat × List Char)
  | 0, _, _, _ => none
  | fuel + 1, count, value, cs =>
    match skip m cs with
    | [] => none
    | '\x7d' :: rest => if count = 0 then none else some (value, rest)
    | c :: rest =>
      match hexDigit? c with
      | none => none
      | some d => hexBraced? m fuel (count + 1) (min (value * 16 + d) 0x110000) rest

/-- The rest of a character written by its number; `width` is the number of digits where no braces
are used. -/
def hex? (m : Mode) (width : Nat) (cs : List Char) : Option (Item × List Char) := do
  let cs ← skipTo? m cs
  match cs with
  | '\x7b' :: rest =>
    let (n, rest) ← hexBraced? m (rest.length + 1) 0 0 rest
    let c ← charOf? n
    some (.char c false, skip m rest)
  | cs =>
    let (n, rest) ← hexFixed? m width 0 cs
    let c ← charOf? n
    some (.char c (width == 2), skip m rest)

/-- The set a class stands for: its complement where it is negated. -/
def signedSet (negated : Bool) (r : Ranges) : Ranges :=
  if negated then Unicode.Ranges.complement r else r

/-- A set under the case mode. -/
def foldedSet (m : Mode) (r : Ranges) : Ranges :=
  if !m.ignoreCase then r
  else if m.unicode then Unicode.closeUnderCase r
  else
    Unicode.Ranges.normalize
      (r ++ (Unicode.Ranges.inter r [(0x41, 0x5A)]).map (fun (lo, hi) => (lo + 32, hi + 32)) ++
        (Unicode.Ranges.inter r [(0x61, 0x7A)]).map (fun (lo, hi) => (lo - 32, hi - 32)))

/-- A set that may be written in the mode: outside Unicode only ASCII. -/
def allowed? (m : Mode) (r : Ranges) : Option Ranges :=
  if m.unicode || r.all (fun (_, hi) => hi ≤ 0x7F) then some r else none

/-- The characters of a named class up to its closing brace. -/
def braced? (m : Mode) : (fuel : Nat) → List Char → List Char → Option (List Char × List Char)
  | 0, _, _ => none
  | fuel + 1, read, cs =>
    match skip m cs with
    | [] => none
    | '\x7d' :: rest => some (read.reverse, rest)
    | c :: rest => braced? m fuel (c :: read) rest

/-- The rest of a class named by category, property or script. -/
def namedClass? (m : Mode) (negated : Bool) (cs : List Char) : Option (Item × List Char) := do
  let cs ← skipTo? m cs
  let (found, rest) ← match cs with
    | '\x7b' :: rest => do
      let (name, rest) ← braced? m (rest.length + 1) [] rest
      let r ← named? name
      some (r, rest)
    | c :: rest => do
      if c = '\\' then none else
      let r ← named? [c]
      some (r, skip m rest)
    | [] => none
  if !m.unicode then none
  else some (.set (signedSet (negated != found.2) (foldedSet m found.1)), rest)

/-- A Perl class. -/
def perlClass? (m : Mode) (c : Char) : Option Item := do
  let base ← match c with
    | 'd' | 'D' => some (if m.unicode then digits else asciiDigits)
    | 's' | 'S' => some (if m.unicode then blanks else asciiBlanks)
    | 'w' | 'W' => some (if m.unicode then wordCharacters else asciiWordCharacters)
    | _ => none
  let r ← allowed? m (signedSet c.isUpper base)
  some (.set r)

/-- Letters and hyphens up to a closing brace. -/
def boundaryName? (m : Mode) :
    (fuel : Nat) → List Char → List Char → Option (String × List Char)
  | 0, _, _ => none
  | fuel + 1, read, cs =>
    match skip m cs with
    | '\x7d' :: rest => some (String.ofList read.reverse, rest)
    | c :: rest => if c.isAlpha || c == '-' then boundaryName? m fuel (c :: read) rest else none
    | [] => none

/-- What follows the letter of a word boundary: the name of a special one in braces, or nothing.
Braces around anything but a name belong to a repetition. -/
def boundary? (m : Mode) (cs : List Char) : Option (Look × List Char) :=
  match cs with
  | '\x7b' :: rest =>
    match skip m rest with
    | [] => none
    | c :: _ =>
      if c.isAlpha || c == '-' then do
        let (name, rest) ← boundaryName? m (rest.length + 1) [] rest
        match name with
        | "start" => some (.wordStart m.unicode, rest)
        | "end" => some (.wordEnd m.unicode, rest)
        | "start-half" => some (.wordStartHalf m.unicode, rest)
        | "end-half" => some (.wordEndHalf m.unicode, rest)
        | _ => none
      else some (.wordBoundary m.unicode, cs)
  | _ => some (.wordBoundary m.unicode, cs)

/-- Whether a backslash before a character leaves it as it is: all of ASCII but letters, digits and
the angle brackets. -/
def isEscapable (c : Char) : Bool :=
  c.toNat < 0x80 && !c.isAlphanum && c != '<' && c != '>'

/-- The rest of an escape after its backslash. -/
def escape? (m : Mode) (cs : List Char) : Option (Item × List Char) :=
  match cs with
  | [] => none
  | c :: rest =>
    match c with
    | 'x' => hex? m 2 rest
    | 'u' => hex? m 4 rest
    | 'U' => hex? m 8 rest
    | 'p' => namedClass? m false rest
    | 'P' => namedClass? m true rest
    | 'a' => some (.char '\x07' false, rest)
    | 'f' => some (.char '\x0c' false, rest)
    | 't' => some (.char '\t' false, rest)
    | 'n' => some (.char '\n' false, rest)
    | 'r' => some (.char '\r' false, rest)
    | 'v' => some (.char '\x0b' false, rest)
    | 'A' => some (.look .textStart, rest)
    | 'z' => some (.look .textEnd, rest)
    | 'b' => (boundary? m rest).map fun (l, rest) => (.look l, rest)
    | 'B' => some (.look (.notWordBoundary m.unicode), rest)
    | '<' => some (.look (.wordStart m.unicode), rest)
    | '>' => some (.look (.wordEnd m.unicode), rest)
    | c =>
      match perlClass? m c with
      | some item => some (item, rest)
      | none => if isEscapable c then some (.char c false, rest) else none

/-! ## Classes in brackets -/

/-- A set operation. -/
inductive SetOp where
  | inter
  | diff
  | symmDiff

/-- Applies a set operation under the case mode. -/
def SetOp.apply (m : Mode) : SetOp → Ranges → Ranges → Ranges
  | .inter, a, b => Unicode.Ranges.inter (foldedSet m a) (foldedSet m b)
  | .diff, a, b => Unicode.Ranges.diff (foldedSet m a) (foldedSet m b)
  | .symmDiff, a, b => Unicode.Ranges.symmDiff (foldedSet m a) (foldedSet m b)

/-- What a class holds so far: the operands that are done, with the operation that waits, and the
items of the current operand. -/
structure ClassState where
  /-- The value and the nesting of the left operand, and the operation. -/
  pending : Option (Ranges × Nat × SetOp)
  items : Ranges
  count : Nat
  depth : Nat

/-- A class without items. -/
def ClassState.start : ClassState := ⟨none, [], 0, 0⟩

/-- Adds an item. -/
def ClassState.add (s : ClassState) (r : Ranges) (depth : Nat) : ClassState :=
  { s with items := Unicode.Ranges.union s.items r, count := s.count + 1, depth := max s.depth depth }

/-- The nesting of the current operand. -/
def ClassState.operandDepth (s : ClassState) : Nat := if s.count ≤ 1 then s.depth else s.depth + 1

/-- The value and the nesting with the waiting operation applied. -/
def ClassState.value (s : ClassState) (m : Mode) : Ranges × Nat :=
  match s.pending with
  | none => (s.items, s.operandDepth)
  | some (left, depth, op) => (op.apply m left s.items, 1 + max depth s.operandDepth)

/-- Makes what is read so far the left operand of an operation. -/
def ClassState.operate (s : ClassState) (m : Mode) (op : SetOp) : ClassState :=
  let (r, d) := s.value m
  { ClassState.start with pending := some (r, d, op) }

/-- Leading hyphens of a class, which stand for themselves. -/
def leadingHyphens? (m : Mode) :
    (fuel : Nat) → ClassState → List Char → Option (ClassState × List Char)
  | 0, _, _ => none
  | fuel + 1, s, cs =>
    match cs with
    | '-' :: rest =>
      (skipTo? m rest).bind fun rest => leadingHyphens? m fuel (s.add [(0x2D, 0x2D)] 0) rest
    | cs => some (s, cs)

/-- The start of a class after its bracket: whether it is negated, and the characters that stand for
themselves only there. -/
def openClass? (m : Mode) (cs : List Char) : Option (Bool × ClassState × List Char) := do
  let cs ← skipTo? m cs
  let (negated, cs) ← match cs with
    | '^' :: rest => (skipTo? m rest).map fun rest => (true, rest)
    | cs => some (false, cs)
  let (s, cs) ← leadingHyphens? m (cs.length + 1) .start cs
  match cs with
  | ']' :: rest =>
    if s.count = 0 then do
      let rest ← skipTo? m rest
      some (negated, s.add [(0x5D, 0x5D)] 0, rest)
    else some (negated, s, cs)
  | cs => some (negated, s, cs)

/-- An ASCII class between colons, after its bracket; `none` if it is none, which is no error. -/
def colonClass? (m : Mode) (cs : List Char) : Option (Ranges × List Char) :=
  match cs with
  | ':' :: rest =>
    let (negated, rest) := match rest with
      | '^' :: rest => (true, rest)
      | rest => (false, rest)
    match (rest.dropWhile (· != ':')) with
    | ':' :: ']' :: after =>
      (asciiClass? (String.ofList (rest.takeWhile (· != ':')))).map fun r =>
        (signedSet negated (foldedSet m r), after)
    | _ => none
  | _ => none

/-- The number of a character as an item of a class. -/
def classNumber? (m : Mode) : Item → Option Nat
  | .char c _ => if m.unicode || c.toNat ≤ 0x7F then some c.toNat else none
  | _ => none

/-- The set of an item of a class. -/
def itemSet? (m : Mode) : Item → Option Ranges
  | .set r => some r
  | item => (classNumber? m item).map fun n => [(n, n)]

/-- One item of a class: a character or an escape. -/
def classItem? (m : Mode) : List Char → Option (Item × List Char)
  | [] => none
  | '\\' :: rest => escape? m rest
  | c :: rest => some (.char c false, rest)

/-- An item of a class, or a range of characters. -/
def classRange? (m : Mode) (cs : List Char) : Option (Ranges × List Char) := do
  let (first, rest) ← classItem? m cs
  let rest ← skipTo? m rest
  let single : Option (Ranges × List Char) := (itemSet? m first).map fun r => (r, rest)
  match rest with
  | '-' :: after =>
    match skip m after with
    | ']' :: _ => single
    | '-' :: _ => single
    | [] => none
    | after => do
      let (last, rest) ← classItem? m after
      let lo ← classNumber? m first
      let hi ← classNumber? m last
      if lo ≤ hi then some ([(lo, hi)], rest) else none
  | _ => single

/-- The rest of a class after its opening: its set, how deep it nests and what follows it. -/
def classBody? (m : Mode) :
    (fuel : Nat) → (negated : Bool) → ClassState → List Char → Option (Ranges × Nat × List Char)
  | 0, _, _, _ => none
  | fuel + 1, negated, s, cs =>
    match skip m cs with
    | [] => none
    | '[' :: rest =>
      match colonClass? m rest with
      | some (r, rest) => (allowed? m r).bind fun r => classBody? m fuel negated (s.add r 0) rest
      | none => do
        let (inner, start, rest) ← openClass? m rest
        let (r, depth, rest) ← classBody? m fuel inner start rest
        classBody? m fuel negated (s.add r depth) rest
    | ']' :: rest => do
      let (r, depth) := s.value m
      let r ← allowed? m (signedSet negated (foldedSet m r))
      some (r, depth + 1, rest)
    | '&' :: '&' :: rest => classBody? m fuel negated (s.operate m .inter) rest
    | '-' :: '-' :: rest => classBody? m fuel negated (s.operate m .diff) rest
    | '~' :: '~' :: rest => classBody? m fuel negated (s.operate m .symmDiff) rest
    | cs => do
      let (r, rest) ← classRange? m cs
      classBody? m fuel negated (s.add r 0) rest

/-! ## Groups and repetitions -/

/-- Changes one mode by its letter. -/
def Mode.set? (m : Mode) (c : Char) (on : Bool) : Option Mode :=
  match c with
  | 'i' => some { m with ignoreCase := on }
  | 'm' => some { m with multiLine := on }
  | 's' => some { m with dotAll := on }
  | 'R' => some { m with crlf := on }
  | 'u' => some { m with unicode := on }
  | 'x' => some { m with spaced := on }
  | 'U' => some m
  | _ => none

/-- The letters of a change of modes, up to a colon or a closing bracket: the modes, the letters
seen, and whether the last one was a minus. -/
def modeLetters? (m : Mode) (on : Bool) (seen : List Char) :
    List Char → Option (Mode × List Char × List Char)
  | [] => none
  | c :: rest =>
    if c = ':' ∨ c = ')' then
      if seen.head? = some '-' then none else some (m, seen, c :: rest)
    else if seen.contains c then none
    else if c = '-' then modeLetters? m false (c :: seen) rest
    else
      match m.set? c on with
      | none => none
      | some m => modeLetters? m on (c :: seen) rest

/-- Whether a character may stand in the name of a group. -/
def isNameChar (first : Bool) (c : Char) : Bool :=
  let letter := Unicode.alphabetic.contains c.toNat
  let number := (Unicode.category ["Nd", "Nl", "No"]).contains c.toNat
  if first then c == '_' || letter
  else c == '_' || c == '.' || c == '[' || c == ']' || letter || number

/-- The name of a group up to its closing angle bracket. -/
def groupName? (cs : List Char) : Option (String × List Char) :=
  let name := cs.takeWhile (· != '>')
  match cs.dropWhile (· != '>'), name with
  | _ :: rest, c :: more =>
    if isNameChar true c && more.all (isNameChar false) then some (String.ofList name, rest)
    else none
  | _, _ => none

/-- The head of a group after its bracket. -/
inductive GroupHead where
  /-- A change of modes up to the end of the enclosing group. -/
  | modes (m : Mode) (rest : List Char)
  /-- A group with modes and names of its own. -/
  | group (m : Mode) (names : List String) (rest : List Char)

/-- Reads the head of a group; `names` holds the names that are taken. -/
def groupHead? (m : Mode) (names : List String) (cs : List Char) : Option GroupHead :=
  let named (rest : List Char) : Option GroupHead := do
    let (name, rest) ← groupName? rest
    if names.contains name then none else some (.group m (name :: names) rest)
  match skip m cs with
  | '?' :: 'P' :: '<' :: rest => named rest
  | '?' :: '<' :: '=' :: _ => none
  | '?' :: '<' :: '!' :: _ => none
  | '?' :: '<' :: rest => named rest
  | '?' :: rest => do
    let (m', seen, rest) ← modeLetters? m true [] rest
    match rest with
    | ')' :: rest => if seen.isEmpty then none else some (.modes m' rest)
    | ':' :: rest => some (.group m' names rest)
    | _ => none
  | rest => some (.group m names rest)

/-- Digits of a count with blanks between them where the mode allows them. -/
def countDigits (m : Mode) : (fuel : Nat) → List Char → List Char → List Char × List Char
  | 0, read, cs => (read.reverse, cs)
  | fuel + 1, read, cs =>
    match cs with
    | c :: rest =>
      if c.isDigit then countDigits m fuel (c :: read) (skip m rest) else (read.reverse, cs)
    | [] => (read.reverse, [])

/-- A count of repetitions, which fits 32 bits; the first part is `none` if there are no digits. -/
def count? (m : Mode) (cs : List Char) : Option (Option Nat × List Char) :=
  let (digits, rest) := countDigits m (cs.length + 1) [] (cs.dropWhile Text.isBlank)
  let rest := rest.dropWhile Text.isBlank
  if digits.isEmpty then some (none, rest)
  else
    let n := digits.foldl (fun n c => min (n * 10 + (c.toNat - '0'.toNat)) (Nat.pow 2 32)) 0
    if n < Nat.pow 2 32 then some (some n, rest) else none

/-- The rest of a counted repetition after its brace: least and greatest count. -/
def counted? (m : Mode) (cs : List Char) : Option (Nat × Option Nat × List Char) := do
  let cs ← skipTo? m cs
  let (least, cs) ← count? m cs
  let least ← least
  match cs with
  | '\x7d' :: rest => some (least, some least, rest)
  | ',' :: rest => do
    let rest ← skipTo? m rest
    match rest with
    | '\x7d' :: rest => some (least, none, rest)
    | rest => do
      let (most, rest) ← count? m rest
      let most ← most
      match rest with
      | '\x7d' :: rest => if least ≤ most then some (least, some most, rest) else none
      | _ => none
  | _ => none

/-- Drops the mark of a reluctant repetition. -/
def dropReluctant : List Char → List Char
  | '?' :: rest => rest
  | cs => cs

/-- A character of the pattern under the modes. -/
def literal? (m : Mode) (c : Char) (byte : Bool) : Option Pattern :=
  let r : Ranges := [(c.toNat, c.toNat)]
  if m.unicode then some (.set (foldedSet m r))
  else if byte && 0x7F < c.toNat then none
  else if c.toNat ≤ 0x7F then some (.set (foldedSet m r))
  else some (.set r)

/-- The set of the dot. -/
def dotSet (m : Mode) : Ranges :=
  if m.dotAll then [(0, Unicode.lastCodePoint)]
  else if m.crlf then Unicode.Ranges.complement [(0x0A, 0x0A), (0x0D, 0x0D)]
  else Unicode.Ranges.complement [(0x0A, 0x0A)]

/-- The pattern of an item outside classes. -/
def itemPattern? (m : Mode) : Item → Option Pattern
  | .char c byte => literal? m c byte
  | .set r => some (.set r)
  | .look l => some (.look l)
  | .dot => if m.unicode then some (.set (dotSet m)) else none

/-- The assertion of a caret. -/
def caret (m : Mode) : Look :=
  if !m.multiLine then .textStart else if m.crlf then .crlfLineStart else .lineStart

/-- The assertion of a dollar sign. -/
def dollar (m : Mode) : Look :=
  if !m.multiLine then .textEnd else if m.crlf then .crlfLineEnd else .lineEnd

/-- A part of a sequence: a pattern with its nesting, or a change of modes. -/
abbrev Part := Option (Pattern × Nat)

/-- The sequence of parts, given in reverse. -/
def closeSequence (parts : List Part) : Pattern × Nat :=
  let ps := parts.reverse.filterMap id
  let depth := (ps.map (·.2)).foldl max 0
  (sequence (ps.map (·.1)), if parts.length ≤ 1 then depth else depth + 1)

/-- The choice between branches, given in reverse. -/
def closeChoice (branches : List (Pattern × Nat)) : Pattern × Nat :=
  let bs := branches.reverse
  let depth := (bs.map (·.2)).foldl max 0
  (choice (bs.map (·.1)), if branches.length ≤ 1 then depth else depth + 1)

/-- What stands at one place of a body, apart from what the place is followed by. -/
structure BodyState where
  mode : Mode
  /-- Names of groups that are taken. -/
  names : List String
  /-- Finished branches, in reverse. -/
  branches : List (Pattern × Nat)
  /-- Parts of the current branch, in reverse. -/
  parts : List Part

/-- Adds a part. -/
def BodyState.add (s : BodyState) (part : Part) : BodyState := { s with parts := part :: s.parts }

/-- The last part under a repetition; there is none to repeat after nothing or a change of modes. -/
def BodyState.repeat? (s : BodyState) (least : Nat) (most : Option Nat) : Option BodyState :=
  match s.parts with
  | some (p, depth) :: rest =>
    some { s with parts := some (.repeated p least most, depth + 1) :: rest }
  | _ => none

/-- The whole body. -/
def BodyState.close (s : BodyState) : Pattern × Nat :=
  closeChoice (closeSequence s.parts :: s.branches)

/-- The rest of a body up to its end: the end of the pattern, or a closing bracket where `inner`
holds. Answers the pattern, its nesting, the names that are taken and what follows. -/
def body? :
    (fuel : Nat) → (inner : Bool) → BodyState → List Char →
      Option ((Pattern × Nat) × List String × List Char)
  | 0, _, _, _ => none
  | fuel + 1, inner, s, cs =>
    let m := s.mode
    match skip m cs with
    | [] => if inner then none else some (s.close, s.names, [])
    | ')' :: rest => if inner then some (s.close, s.names, rest) else none
    | '(' :: rest => do
      match ← groupHead? m s.names rest with
      | .modes m' rest => body? fuel inner { s with mode := m', parts := none :: s.parts } rest
      | .group m' names rest =>
        let ((p, depth), names, rest) ← body? fuel true ⟨m', names, [], []⟩ rest
        body? fuel inner ({ s with names }.add (some (p, depth + 1))) rest
    | '|' :: rest =>
      body? fuel inner { s with branches := closeSequence s.parts :: s.branches, parts := [] } rest
    | '[' :: rest => do
      let (negated, start, rest) ← openClass? m rest
      let (r, depth, rest) ← classBody? m (rest.length + 1) negated start rest
      body? fuel inner (s.add (some (.set r, depth))) rest
    | '?' :: rest => do
      let s ← s.repeat? 0 (some 1)
      body? fuel inner s (dropReluctant rest)
    | '*' :: rest => do
      let s ← s.repeat? 0 none
      body? fuel inner s (dropReluctant rest)
    | '+' :: rest => do
      let s ← s.repeat? 1 none
      body? fuel inner s (dropReluctant rest)
    | '\x7b' :: rest => do
      let (least, most, rest) ← counted? m rest
      let s ← s.repeat? least most
      body? fuel inner s (dropReluctant (skip m rest))
    | '\\' :: rest => do
      let (item, rest) ← escape? m rest
      let p ← itemPattern? m item
      body? fuel inner (s.add (some (p, 0))) rest
    | '.' :: rest => do
      let p ← itemPattern? m .dot
      body? fuel inner (s.add (some (p, 0))) rest
    | '^' :: rest => body? fuel inner (s.add (some (.look (caret m), 0))) rest
    | '$' :: rest => body? fuel inner (s.add (some (.look (dollar m), 0))) rest
    | c :: rest => do
      let p ← literal? m c false
      body? fuel inner (s.add (some (p, 0))) rest

/-- Reads a pattern. -/
def read? (text : String) : Option Pattern :=
  let cs := text.toList
  match body? (cs.length + 1) false ⟨.initial, [], [], []⟩ cs with
  | some ((p, depth), _, _) => if depth ≤ maxNesting then some p else none
  | none => none

end Taskweave.Pattern
