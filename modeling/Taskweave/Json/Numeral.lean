import Taskweave.Json.Basic

/-!
# Numerals

The value of a written JSON number. `Numeral` is the number as it is spelt: sign, integer digits,
fraction digits and exponent. `Numeral.value?` keeps an integer exactly while it fits 64 bits.
Anything else becomes a double in two steps: the digits are gathered into a significand for as long
as it fits 64 unsigned bits, and the significand is then scaled by one power of ten at a time. This
is not always the double nearest to the numeral, and it is what makes `1.2345678901234568e17` and
its neighbours read the way they do. A numeral whose value would be infinite is refused.
-/

namespace Taskweave

/-- A number as it is spelt. -/
structure Numeral where
  negative : Bool
  integer : List Nat
  fraction : Option (List Nat)
  /-- The sign of the exponent, `true` for plus, and its digits. -/
  exponent : Option (Bool × List Nat)
deriving DecidableEq, Repr

namespace Numeral

/-- One more than the greatest significand. -/
def significandLimit : Nat := Nat.pow 2 64

/-- Appends digits to a significand while it stays below the limit; what is left starts with the
first digit that does not fit. -/
def gather (significand : Nat) : List Nat → Nat × List Nat
  | [] => (significand, [])
  | d :: rest =>
    if significand * 10 + d < significandLimit then gather (significand * 10 + d) rest
    else (significand, d :: rest)

/-- The greatest exponent that is read digit by digit. -/
def exponentLimit : Nat := Nat.pow 2 31

/-- The value of a run of exponent digits, `none` where it passes the limit. -/
def exponentValue? (digits : List Nat) : Option Nat :=
  let n := digits.foldl (fun n d => min (n * 10 + d) exponentLimit) 0
  if n < exponentLimit then some n else none

/-- The greatest power of ten that is a double. -/
def topPower : Nat := 308

/-- Divides by `10 ^ topPower` as often as `steps` says, stopping at zero. -/
def sink (f : Binary64) : Nat → Option Binary64
  | 0 => some f
  | n + 1 =>
    if f.isZero then some f
    else do
      let top ← Binary64.tenPow? topPower
      let g ← f.div? top
      sink g n

/-- `significand * 10 ^ exponent` as a double, by one division or multiplication for each power of
ten up to `10 ^ topPower`; `none` where it is infinite. -/
def scaled? (significand : Nat) (exponent : Int) : Option Binary64 := do
  let f ← Binary64.ofNat? significand
  if 0 ≤ exponent then
    if exponent.toNat ≤ topPower then
      let p ← Binary64.tenPow? exponent.toNat
      f.mul? p
    else if f.isZero then some f
    else none
  else
    let k := (-exponent).toNat
    -- More than three divisions by the top power leave nothing of a 64-bit significand.
    let whole := (k - 1) / topPower
    let g ← sink f (min whole 4)
    if g.isZero then some g
    else
      let p ← Binary64.tenPow? (k - whole * topPower)
      g.div? p

/-- A double with a sign. -/
def signed (negative : Bool) (x : Binary64) : Number :=
  .float (if negative then x.neg else x)

/-- The significand of the digits and the power of ten that goes with it. Integer digits that do
not fit raise the power; fraction digits that do not fit are dropped. -/
def mantissa (n : Numeral) : Nat × Int :=
  let (whole, dropped) := gather 0 n.integer
  match n.fraction with
  | none => (whole, dropped.length)
  | some digits =>
    let (significand, rest) := gather whole digits
    (significand, (dropped.length : Int) - ((digits.length : Int) - rest.length))

/-- The value of a numeral with a fraction, an exponent or too many digits. -/
def float? (n : Numeral) : Option Number := do
  let (significand, power) := n.mantissa
  match n.exponent with
  | none =>
    let x ← scaled? significand power
    some (signed n.negative x)
  | some (plus, digits) =>
    match exponentValue? digits with
    | none =>
      if significand ≠ 0 ∧ plus then none else some (signed n.negative (Binary64.zero false))
    | some e =>
      let x ← scaled? significand (if plus then power + e else power - e)
      some (signed n.negative x)

/-- The value of a numeral, `none` where it is infinite. A negative zero is a double, and so is an
integer that does not fit 64 bits. -/
def value? (n : Numeral) : Option Number :=
  match n.fraction, n.exponent, gather 0 n.integer with
  | none, none, (whole, []) =>
    if !n.negative then some (.int whole)
    else if 1 ≤ whole ∧ whole ≤ Nat.pow 2 63 then some (.int (-(whole : Int)))
    else n.float?
  | _, _, _ => n.float?

end Numeral

end Taskweave
