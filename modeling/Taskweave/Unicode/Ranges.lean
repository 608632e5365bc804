/-!
# Sets of code points

A `Ranges` is a set of code points as inclusive ranges, ascending and with a gap between
neighbours. `Ranges.normalize` brings any list of ranges into that form, and the set operations
keep it. Tables are written as text: `Ranges.ofText` reads ranges in hexadecimal, `runsOfText`
reads runs of labels that cover all code points from zero on, and `shiftsOfText` reads maps from
characters to characters.
-/

namespace Taskweave.Unicode

/-- Inclusive ranges, ascending, with a gap between neighbours. -/
abbrev Ranges := List (Nat × Nat)

/-- The last code point. -/
def lastCodePoint : Nat := 0x10FFFF

namespace Ranges

/-- Whether `c` lies in one of the ranges. -/
def contains (r : Ranges) (c : Nat) : Bool := r.any fun (lo, hi) => lo ≤ c && c ≤ hi

/-- Joins ranges in ascending order of their starts where they touch; `done` is in reverse. -/
def join : Ranges → Ranges → Ranges
  | done, [] => done.reverse
  | [], r :: rest => join [r] rest
  | (lo, hi) :: done, (lo', hi') :: rest =>
    if lo' ≤ hi + 1 then join ((lo, max hi hi') :: done) rest
    else join ((lo', hi') :: (lo, hi) :: done) rest

/-- The set of the code points in any of the ranges. -/
def normalize (r : Ranges) : Ranges :=
  join [] ((r.filter fun (lo, hi) => lo ≤ hi).mergeSort fun a b => a.1 ≤ b.1)

/-- The code points in either set. -/
def union (a b : Ranges) : Ranges := normalize (a ++ b)

/-- The gaps between ranges from `start` up to the last code point. -/
def gaps (start : Nat) : Ranges → Ranges
  | [] => if start ≤ lastCodePoint then [(start, lastCodePoint)] else []
  | (lo, hi) :: rest => if start < lo then (start, lo - 1) :: gaps (hi + 1) rest else gaps (hi + 1) rest

/-- The code points outside the set. -/
def complement (a : Ranges) : Ranges := gaps 0 a

/-- The code points in both sets. -/
def inter (a b : Ranges) : Ranges := complement (union (complement a) (complement b))

/-- The code points of the first set outside the second. -/
def diff (a b : Ranges) : Ranges := inter a (complement b)

/-- The code points in exactly one of the sets. -/
def symmDiff (a b : Ranges) : Ranges := union (diff a b) (diff b a)

end Ranges

/-- The value of a hexadecimal digit; other characters count as zero. -/
def hexValue (c : Char) : Nat :=
  if c.isDigit then c.toNat - '0'.toNat else if 'A' ≤ c ∧ c ≤ 'F' then c.toNat - 'A'.toNat + 10 else 0

/-- The value of a run of hexadecimal digits. -/
def hexNat (s : List Char) : Nat := s.foldl (fun n c => n * 16 + hexValue c) 0

/-- The pieces of `cs` between the characters that satisfy `p`. -/
def pieces (p : Char → Bool) (cs : List Char) : List (List Char) :=
  let (piece, read) := cs.foldr (fun c (acc : List Char × List (List Char)) =>
    if p c then ([], acc.1 :: acc.2) else (c :: acc.1, acc.2)) ([], [])
  piece :: read

/-- The words of several lines. -/
def words (lines : List String) : List (List Char) :=
  lines.flatMap fun line => pieces (· == ' ') line.toList

/-- Reads ranges such as `41-5A` and single code points such as `AA`. -/
def Ranges.ofText (lines : List String) : Ranges :=
  (words lines).filterMap fun word =>
    match pieces (· == '-') word with
    | [c] => some (hexNat c, hexNat c)
    | [lo, hi] => some (hexNat lo, hexNat hi)
    | _ => none

/-- A maximal run of code points with one label. -/
structure Run where
  first : Nat
  last : Nat
  label : String

/-- Cuts characters into labels of `width` characters. -/
def labels (width : Nat) : Nat → List Char → List String
  | 0, _ => []
  | fuel + 1, cs =>
    if cs.isEmpty then [] else String.ofList (cs.take width) :: labels width fuel (cs.drop width)

/-- The value of a run of decimal digits. -/
def decimalNat (s : List Char) : Nat := s.foldl (fun n c => n * 10 + (c.toNat - '0'.toNat)) 0

/-- Runs that follow each other from zero on: `Lu26` is one run of 26 code points, `LuLl24` is 24
times a code point labelled `Lu` and one labelled `Ll`. Labels have `width` letters. -/
def runsOfText (width : Nat) (lines : List String) : List Run :=
  let step (acc : Nat × List Run) (word : List Char) : Nat × List Run :=
    let names := labels width word.length (word.takeWhile fun c => !c.isDigit)
    let count := decimalNat (word.dropWhile fun c => !c.isDigit)
    match names with
    | [name] => (acc.1 + count, ⟨acc.1, acc.1 + count - 1, name⟩ :: acc.2)
    | names =>
      (List.replicate count names).flatten.foldl
        (fun (a : Nat × List Run) name => (a.1 + 1, ⟨a.1, a.1, name⟩ :: a.2)) acc
  ((words lines).foldl step (0, [])).2.reverse

/-- The code points of all runs with one of the labels. -/
def labelled (runs : List Run) (names : List String) : Ranges :=
  Ranges.normalize ((runs.filter fun r => names.contains r.label).map fun r => (r.first, r.last))

/-- A map that sends every `step`-th code point from `first` to `last` to the one as far from
`target` as it is from `first`. -/
structure Shift where
  first : Nat
  last : Nat
  step : Nat
  target : Nat

/-- Reads shifts: `41-5A>61` moves each code point of a range, `100/12E>101` every second one,
`178>FF` a single one. -/
def shiftsOfText (lines : List String) : List Shift :=
  (words lines).filterMap fun word =>
    match pieces (· == '>') word with
    | [source, target] =>
      match pieces (· == '-') source, pieces (· == '/') source with
      | [lo, hi], _ => some ⟨hexNat lo, hexNat hi, 1, hexNat target⟩
      | _, [lo, hi] => some ⟨hexNat lo, hexNat hi, 2, hexNat target⟩
      | _, _ => some ⟨hexNat source, hexNat source, 1, hexNat target⟩
    | _ => none

/-- The image of a code point, `none` where no shift moves it. -/
def shifted? (shifts : List Shift) (c : Nat) : Option Nat :=
  (shifts.find? fun s => s.first ≤ c && c ≤ s.last && (c - s.first) % s.step == 0).map
    fun s => s.target + (c - s.first)

end Taskweave.Unicode
