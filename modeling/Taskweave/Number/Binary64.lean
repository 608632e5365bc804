/-!
# Finite double-precision numbers

`Binary64` is a finite IEEE 754 double as data: a sign, a significand below `2 ^ 53` and a power
of two. No runtime floating point is involved, so every operation evaluates in the kernel.

* `Binary64.ofRatio?` rounds a positive quotient of natural numbers to the nearest double, a tie
  going to the even significand; it answers `none` where the result would be infinite.
* `Binary64.mul?` and `Binary64.div?` are the product and the quotient, rounded once.
* `Binary64.ofDecimal?` is the double nearest to a decimal.
-/

namespace Taskweave

/-- A finite double: `(-1) ^ negative * significand * 2 ^ exponent`. Zero has significand and
exponent `0`; any other value is normalised as `Binary64.ofRatio?` leaves it. -/
structure Binary64 where
  negative : Bool
  significand : Nat
  exponent : Int
deriving DecidableEq, Repr, Inhabited

namespace Binary64

/-- Zero of either sign. -/
def zero (negative : Bool) : Binary64 := ⟨negative, 0, 0⟩

/-- The quotient `num / den` to the nearest natural number, a tie going to the even one. -/
def roundQuotient (num den : Nat) : Nat :=
  let q := num / den
  let r := num % den
  if 2 * r < den then q
  else if den < 2 * r then q + 1
  else q + q % 2

/-- The least power of two in a double. -/
def minExponent : Int := -1074

/-- The greatest power of two in a double. -/
def maxExponent : Int := 971

/-- The exponent at which `num / den` has a significand of 53 binary digits, or the least one. -/
def exponentFor (num den : Nat) : Int :=
  let guess : Int := (num.log2 : Int) - (den.log2 : Int) - 52
  let whole := num <<< (-guess).toNat / den <<< guess.toNat
  max (if whole < Nat.pow 2 52 then guess - 1 else guess) minExponent

/-- The double nearest to `num / den`, or `none` where that is infinite. -/
def ofRatio? (negative : Bool) (num den : Nat) : Option Binary64 :=
  if num = 0 then some (zero negative)
  else
    let e := exponentFor num den
    let m := roundQuotient (num <<< (-e).toNat) (den <<< e.toNat)
    let (m, e) := if m = Nat.pow 2 53 then (Nat.pow 2 52, e + 1) else (m, e)
    if m = 0 then some (zero negative)
    else if maxExponent < e then none
    else some ⟨negative, m, e⟩

/-- The numerator of the magnitude. -/
def numerator (x : Binary64) : Nat := x.significand <<< x.exponent.toNat

/-- The denominator of the magnitude. -/
def denominator (x : Binary64) : Nat := 1 <<< (-x.exponent).toNat

/-- The product, rounded once; `none` where it is infinite. -/
def mul? (x y : Binary64) : Option Binary64 :=
  ofRatio? (x.negative != y.negative) (x.numerator * y.numerator) (x.denominator * y.denominator)

/-- The quotient by a divisor other than zero, rounded once; `none` where it is infinite. -/
def div? (x y : Binary64) : Option Binary64 :=
  ofRatio? (x.negative != y.negative) (x.numerator * y.denominator) (x.denominator * y.numerator)

/-- The double nearest to a natural number; `none` where that is infinite. -/
def ofNat? (n : Nat) : Option Binary64 := ofRatio? false n 1

/-- The double nearest to `10 ^ k`; `none` from `10 ^ 309` on. -/
def tenPow? (k : Nat) : Option Binary64 := ofNat? (Nat.pow 10 k)

/-- The number with the other sign. -/
def neg (x : Binary64) : Binary64 := { x with negative := !x.negative }

/-- Whether the magnitude is zero. -/
def isZero (x : Binary64) : Bool := x.significand == 0

/-- The double nearest to the decimal `digits * 10 ^ exponent`, rounded once; `none` where that is
infinite. Decimals from `10 ^ 310` on are infinite and those below `10 ^ (-400)` are zero, whatever
their digits, so no large power is ever formed. -/
def ofDecimal? (negative : Bool) (digits : Nat) (exponent : Int) : Option Binary64 :=
  let size : Int := exponent + (Nat.toDigits 10 digits).length
  if digits = 0 ∨ size < -400 then some (zero negative)
  else if 310 < size then none
  else ofRatio? negative (digits * Nat.pow 10 exponent.toNat) (Nat.pow 10 (-exponent).toNat)

end Binary64

end Taskweave
