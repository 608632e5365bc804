import Taskweave.Pattern.Reader
import Taskweave.Text.Utf8

/-!
# The size of a pattern

Patterns are run by automata over the bytes of UTF-8, whose size is bounded: a pattern whose
automaton would take more than `Pattern.sizeLimit` bytes is refused. Repetitions are unrolled, so a
short pattern can be a large automaton. `Pattern.size` adds up what the states take: `stateSize` for
each, and a little more for a state with several successors.
-/

namespace Taskweave.Pattern

open Unicode (Ranges)

/-- The greatest size of an automaton, in bytes. -/
def sizeLimit : Nat := 10 * Nat.pow 2 20

/-- The size of a state. -/
def stateSize : Nat := 32

/-- The size of a transition of a state on bytes. -/
def transitionSize : Nat := 8

/-- The size of a successor of a state that only branches. -/
def branchSize : Nat := 4

/-- The first and the last code point of the encodings with a number of bytes. -/
def encodingSpans : List (Nat × Nat × Nat) :=
  [(1, 0, 0x7F), (2, 0x80, 0x7FF), (3, 0x800, 0xD7FF), (3, 0xE000, 0xFFFF),
    (4, 0x10000, Unicode.lastCodePoint)]

/-- Cuts a range of code points with one encoded length where the last `k` bytes stop being free, for
each `k` up to `depth`. -/
def alignedRanges : (depth : Nat) → Nat × Nat → List (Nat × Nat)
  | 0, r => [r]
  | depth + 1, (lo, hi) =>
    let unit := Nat.pow 64 (depth + 1)
    let cut :=
      if lo / unit = hi / unit then [(lo, hi)]
      else
        let first := if lo % unit = 0 then [] else [(lo, lo / unit * unit + (unit - 1))]
        let last := if hi % unit = unit - 1 then [] else [(hi / unit * unit, hi)]
        let start := if lo % unit = 0 then lo else (lo / unit + 1) * unit
        let stop := if hi % unit = unit - 1 then hi + 1 else hi / unit * unit
        first ++ (if start < stop then [(start, stop - 1)] else []) ++ last
    cut.flatMap (alignedRanges depth)

/-- The ranges of bytes, one after the other, that encode a range of code points. -/
def byteSequences (r : Nat × Nat) : List (List (UInt8 × UInt8)) :=
  encodingSpans.flatMap fun (width, first, last) =>
    let lo := max r.1 first
    let hi := min r.2 last
    if hi < lo then []
    else
      (alignedRanges (width - 1) (lo, hi)).map fun (a, b) =>
        (Utf8.encodeChar (Char.ofNat a)).zip (Utf8.encodeChar (Char.ofNat b))

/-- Number of states for sequences in ascending order, which share what they begin with. -/
def sharedStates (previous : List (UInt8 × UInt8)) :
    List (List (UInt8 × UInt8)) → Nat → Nat
  | [], n => n
  | s :: rest, n =>
    let common := (s.zip previous).takeWhile fun (a, b) => a == b
    sharedStates s rest (n + (s.length - common.length))

/-- The size of the automaton of a set of characters. -/
def setSize (r : Ranges) : Nat :=
  match r with
  | [] => stateSize
  | [(a, b)] =>
    if a = b then stateSize * (Utf8.encodeChar (Char.ofNat a)).length else general r
  | r => general r
where
  /-- Sets other than a single character. -/
  general (r : Ranges) : Nat :=
    if r.all fun (_, hi) => hi ≤ 0x7F then
      2 * stateSize + (if r.length ≤ 1 then 0 else transitionSize * r.length)
    else
      let sequences := r.flatMap byteSequences
      2 * stateSize + branchSize * sequences.length + stateSize * sharedStates [] sequences 0

/-- The size of the automaton of a pattern. -/
def size : Pattern → Nat
  | .empty => stateSize
  | .set r => setSize r
  | .look _ => stateSize
  | .seq a b => size a + size b
  | .alt a b => size a + size b + 2 * stateSize + 2 * branchSize
  | .repeat body least most =>
    let branch := stateSize + 2 * branchSize
    let copy := size body
    match most with
    | none => max least 1 * copy + branch
    | some most => least * copy + (most - least) * (copy + branch) + stateSize

end Taskweave.Pattern
