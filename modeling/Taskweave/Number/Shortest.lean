import Taskweave.Number.Binary64

/-!
# The fewest digits that read back

A double stands for every real number that rounds to it: `Binary64.lowGap` and `Binary64.highGap`
give that interval, whose ends belong to it exactly when the significand is even.
`Binary64.shortest` is the decimal with the fewest digits in the interval and, among those, the
one nearest to the double.

`Binary64.text` writes it the way JSON output does: in positions, with at least one decimal, for
magnitudes from `1e-5` up to `1e16`, and with an exponent otherwise.
-/

namespace Taskweave

namespace Binary64

/-- A decimal `digits * 10 ^ scale`. -/
structure Decimal where
  digits : Nat
  scale : Int
deriving DecidableEq, Repr

/-- The significand on a grid four times finer than the double's own. -/
def fine (x : Binary64) : Nat := 4 * x.significand

/-- Distance down to the end of the rounding interval, on the fine grid. -/
def lowGap (x : Binary64) : Nat :=
  if x.significand = Nat.pow 2 52 ∧ minExponent < x.exponent then 1 else 2

/-- Distance up to the end of the rounding interval, on the fine grid. -/
def highGap (_ : Binary64) : Nat := 2

/-- Whether the decimal `n * 10 ^ s` rounds to `x`, both held as positive. -/
def covers (x : Binary64) (n : Nat) (s : Int) : Bool :=
  -- Both sides are multiplied by the denominators of `2 ^ (exponent - 2)` and of `10 ^ s`.
  let e := x.exponent - 2
  let point := (n * Nat.pow 10 s.toNat) <<< (-e).toNat
  let unit := Nat.pow 10 (-s).toNat <<< e.toNat
  let low := (x.fine - x.lowGap) * unit
  let high := (x.fine + x.highGap) * unit
  if x.significand % 2 = 0 then low ≤ point && point ≤ high else low < point && point < high

/-- Twice the distance from `x` to `n * 10 ^ s`, in a unit shared by all `n`. -/
def offset (x : Binary64) (n : Nat) (s : Int) : Nat :=
  let e := x.exponent - 2
  let point := (n * Nat.pow 10 s.toNat) <<< (-e).toNat
  let here := x.fine * (Nat.pow 10 (-s).toNat <<< e.toNat)
  (point - here) + (here - point)

/-- The greatest `n` with `n * 10 ^ s ≤ x`. -/
def below (x : Binary64) (s : Int) : Nat :=
  let e := x.exponent - 2
  (x.fine * Nat.pow 10 (-s).toNat) <<< e.toNat / (Nat.pow 10 s.toNat <<< (-e).toNat)

/-- The point of the grid `10 ^ s` that rounds to `x` and lies nearest to it; of two equally near,
the even one. -/
def pick? (x : Binary64) (s : Int) : Option Nat :=
  let n := x.below s
  match x.covers n s, x.covers (n + 1) s with
  | true, true =>
    let down := x.offset n s
    let up := x.offset (n + 1) s
    some (if down < up then n else if up < down then n + 1 else n + n % 2)
  | true, false => some n
  | false, true => some (n + 1)
  | false, false => none

/-- The decimal exponent of the leading digit of a double other than zero. -/
def leading (x : Binary64) : Int :=
  let whole := x.numerator / x.denominator
  if whole ≠ 0 then (Nat.toDigits 10 whole).length - 1
  else
    -- `x` is below one, so count the zeros of its reciprocal.
    let inverse := x.denominator / x.numerator
    let size : Int := (Nat.toDigits 10 inverse).length
    if x.numerator * Nat.pow 10 (size.toNat - 1) = x.denominator then 1 - size else -size

/-- The first of the grids `10 ^ s`, `10 ^ (s - 1)`, … with a point that rounds to `x`. -/
def search (x : Binary64) : Nat → Int → Decimal
  | 0, s => ⟨x.below s, s⟩
  | k + 1, s =>
    match x.pick? s with
    | some n => ⟨n, s⟩
    | none => search x k (s - 1)

/-- Drops trailing zeros. -/
def Decimal.strip : Nat → Decimal → Decimal
  | 0, d => d
  | k + 1, d => if d.digits % 10 = 0 ∧ d.digits ≠ 0 then strip k ⟨d.digits / 10, d.scale + 1⟩ else d

/-- The shortest decimal that reads back as the magnitude of `x`. -/
def shortest (x : Binary64) : Decimal :=
  if x.isZero then ⟨0, 0⟩ else (x.search 17 x.leading).strip 20

/-- Digits of a natural number, most significant first. -/
def digitChars (n : Nat) : List Char := Nat.toDigits 10 n

/-- The exponent with its sign always written. -/
def exponentChars (e : Int) : List Char :=
  'e' :: (if e < 0 then '-' else '+') :: digitChars e.natAbs

/-- A decimal in positions where the leading digit lies at `10 ^ (-5)` or above and below
`10 ^ 16`, otherwise with one digit before the point and an exponent. -/
def Decimal.chars (d : Decimal) : List Char :=
  let ds := digitChars d.digits
  let n : Int := ds.length
  let point := n + d.scale
  if d.digits = 0 then ['0', '.', '0']
  else if 0 ≤ d.scale ∧ point ≤ 16 then ds ++ List.replicate d.scale.toNat '0' ++ ['.', '0']
  else if 0 < point ∧ point ≤ 16 then ds.take point.toNat ++ '.' :: ds.drop point.toNat
  else if -5 < point ∧ point ≤ 0 then '0' :: '.' :: List.replicate (-point).toNat '0' ++ ds
  else
    match ds with
    | [c] => c :: exponentChars (point - 1)
    | c :: rest => c :: '.' :: rest ++ exponentChars (point - 1)
    | [] => []

/-- The written form of a double. -/
def text (x : Binary64) : List Char :=
  if x.negative then '-' :: x.shortest.chars else x.shortest.chars

end Binary64

end Taskweave
