import Taskweave.Pattern.Size

/-!
# Matching

A `Matcher` is a pattern as a list of instructions. It is run over a text character by character,
holding the set of instructions that some attempt has reached, so the time is bounded by the
product of both lengths. `Matcher.isMatch` asks whether any part of a text matches.
-/

namespace Taskweave

open Unicode (Ranges)

/-- One instruction, with the places of those that follow it. -/
inductive Instruction where
  /-- Takes one character of the set. -/
  | take (ranges : Array (Nat × Nat)) (next : Nat)
  /-- Goes on where the assertion holds. -/
  | look (l : Look) (next : Nat)
  /-- Goes on at both places. -/
  | branch (left right : Nat)
  /-- Nowhere to go on. -/
  | stuck
  | accept
deriving Inhabited

/-- The instructions of a pattern and the place of the first. -/
structure Matcher where
  program : Array Instruction
  start : Nat
deriving Inhabited

namespace Matcher

/-- Appends an instruction and answers its place. -/
def emit (program : Array Instruction) (i : Instruction) : Nat × Array Instruction :=
  (program.size, program.push i)

/-- `n` times what `copy` appends, each going on at the one appended before. -/
def copies (copy : Nat → Array Instruction → Nat × Array Instruction) :
    (n : Nat) → (next : Nat) → Array Instruction → Nat × Array Instruction
  | 0, next, program => (next, program)
  | n + 1, next, program =>
    let (start, program) := copy next program
    copies copy n start program

/-- `n` times what `copy` appends, each of which may be left out with all that follow it. -/
def optionalCopies (copy : Nat → Array Instruction → Nat × Array Instruction) (stop : Nat) :
    (n : Nat) → (next : Nat) → Array Instruction → Nat × Array Instruction
  | 0, next, program => (next, program)
  | n + 1, next, program =>
    let (body, program) := copy next program
    let (start, program) := emit program (.branch body stop)
    optionalCopies copy stop n start program

/-- Appends the instructions of a pattern that go on at `next`, and answers where they start. -/
def compile : Pattern → (next : Nat) → Array Instruction → Nat × Array Instruction
  | .empty, next, program => (next, program)
  | .set r, next, program => emit program (.take r.toArray next)
  | .look l, next, program => emit program (.look l next)
  | .seq a b, next, program =>
    let (next, program) := compile b next program
    compile a next program
  | .alt a b, next, program =>
    let (left, program) := compile a next program
    let (right, program) := compile b next program
    emit program (.branch left right)
  | .repeat body least most, next, program =>
    let (rest, program) := match most with
      | some most => optionalCopies (compile body) next (most - least) next program
      | none =>
        let (loop, program) := emit program .stuck
        let (start, program) := compile body loop program
        (loop, program.setIfInBounds loop (.branch start next))
    copies (compile body) least rest program

/-- The matcher of a pattern. -/
def ofPattern (p : Pattern) : Matcher :=
  let (accept, program) := emit #[] .accept
  let (start, program) := compile p accept program
  ⟨program, start⟩

/-! ## Running -/

/-- Whether `c` lies in one of ascending ranges from place `lo` up to place `hi`. -/
def search (ranges : Array (Nat × Nat)) (c : Nat) : (fuel lo hi : Nat) → Bool
  | 0, _, _ => false
  | fuel + 1, lo, hi =>
    if hi ≤ lo then false
    else
      let mid := (lo + hi) / 2
      match ranges[mid]? with
      | none => false
      | some (first, last) =>
        if c < first then search ranges c fuel lo mid
        else if last < c then search ranges c fuel (mid + 1) hi
        else true

/-- Whether `c` lies in one of ascending ranges. -/
def within (ranges : Array (Nat × Nat)) (c : Char) : Bool :=
  search ranges c.toNat (ranges.size + 1) 0 ranges.size

/-- Whether a character belongs to a word; none does not. -/
def isWord (unicode : Bool) : Option Char → Bool
  | none => false
  | some c =>
    (if unicode then Pattern.wordCharacters else Pattern.asciiWordCharacters).contains c.toNat

/-- Whether an assertion holds between two characters, `none` being an end of the text. -/
def holds (before after : Option Char) : Look → Bool
  | .textStart => before.isNone
  | .textEnd => after.isNone
  | .lineStart => before.isNone || before == some '\n'
  | .lineEnd => after.isNone || after == some '\n'
  | .crlfLineStart =>
    before.isNone || before == some '\n' || (before == some '\r' && after != some '\n')
  | .crlfLineEnd =>
    after.isNone || after == some '\r' || (after == some '\n' && before != some '\r')
  | .wordBoundary u => isWord u before != isWord u after
  | .notWordBoundary u => isWord u before == isWord u after
  | .wordStart u => !isWord u before && isWord u after
  | .wordEnd u => isWord u before && !isWord u after
  | .wordStartHalf u => !isWord u before
  | .wordEndHalf u => !isWord u after

/-- What can be reached without taking a character: whether a match ends here, and the instructions
that take one. -/
structure Reached where
  accepted : Bool
  takers : List Nat

/-- Follows instructions that take no character from the places on the stack. Every place is
followed once, so `fuel` need not exceed three times the number of instructions. -/
def follow (program : Array Instruction) (before after : Option Char) :
    (fuel : Nat) → List Nat → Array Bool → Reached → Reached
  | 0, _, _, r => r
  | _ + 1, [], _, r => r
  | fuel + 1, i :: stack, seen, r =>
    if seen.getD i true then follow program before after fuel stack seen r
    else
      let seen := seen.setIfInBounds i true
      match program[i]? with
      | some (.take _ _) => follow program before after fuel stack seen { r with takers := i :: r.takers }
      | some (.look l next) =>
        follow program before after fuel (if holds before after l then next :: stack else stack) seen r
      | some (.branch a b) => follow program before after fuel (a :: b :: stack) seen r
      | some .accept => { r with accepted := true }
      | some .stuck | none => follow program before after fuel stack seen r

/-- Where an instruction goes on when it takes a character. -/
def advance (program : Array Instruction) (c : Char) (i : Nat) : Option Nat :=
  match program[i]? with
  | some (.take ranges next) => if within ranges c then some next else none
  | _ => none

/-- Runs over the characters after `before` from the places in `current`; a match may start
anywhere. -/
def run (m : Matcher) (before : Option Char) (current : List Nat) : List Char → Bool
  | [] => (reach none).accepted
  | c :: rest =>
    let r := reach (some c)
    if r.accepted then true
    else
      run m (some c) (r.takers.filterMap (advance m.program c)) rest
where
  /-- What can be reached before the next character. -/
  reach (after : Option Char) : Reached :=
    follow m.program before after (3 * m.program.size + current.length + 1) (m.start :: current)
      (Array.replicate m.program.size false) ⟨false, []⟩

/-- Whether some part of the text matches. -/
def isMatch (m : Matcher) (text : String) : Bool := run m none [] text.toList

end Matcher

/-- The matcher of a written pattern, `none` if it cannot be read or is too large. -/
def Matcher.read? (text : String) : Option Matcher :=
  match Pattern.read? text with
  | none => none
  | some p => if p.size ≤ Pattern.sizeLimit then some (.ofPattern p) else none

end Taskweave
