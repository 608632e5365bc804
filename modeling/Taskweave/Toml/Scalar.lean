import Taskweave.Toml.Basic
import Taskweave.Toml.Moment

/-!
# Unquoted TOML values

`Toml.scalar?` reads a word that stands for a truth value, an integer, a float or a moment. Digits
may be separated by single underscores. Decimal numbers have no superfluous leading zero; hexadecimal,
octal and binary integers have no sign. A float is the nearest double and is refused where that is
infinite, an integer is refused beyond 128 bits.
-/

namespace Taskweave.Toml

/-- The digits of a word in which single underscores may separate them. -/
def digits? (isDigit : Char → Bool) : List Char → Option (List Char)
  | [] => none
  | [c] => if isDigit c then some [c] else none
  | c :: '_' :: rest => if isDigit c then (digits? isDigit rest).map (c :: ·) else none
  | c :: rest => if isDigit c then (digits? isDigit rest).map (c :: ·) else none

/-- The value of a digit up to `f`. -/
def digitValue (c : Char) : Nat :=
  if c.isDigit then c.toNat - '0'.toNat else c.toLower.toNat - 'a'.toNat + 10

/-- The value of digits in a base. -/
def valueIn (base : Nat) (digits : List Char) : Nat :=
  digits.foldl (fun n c => n * base + digitValue c) 0

/-- Whether a character is a hexadecimal digit. -/
def isHexDigit (c : Char) : Bool := c.isDigit || ('a' ≤ c && c ≤ 'f') || ('A' ≤ c && c ≤ 'F')

/-- Whether a character is an octal digit. -/
def isOctalDigit (c : Char) : Bool := '0' ≤ c && c ≤ '7'

/-- Whether a character is a binary digit. -/
def isBinaryDigit (c : Char) : Bool := c == '0' || c == '1'

/-- Decimal digits without a superfluous leading zero. -/
def plainDigits? (cs : List Char) : Option (List Char) :=
  match digits? Char.isDigit cs with
  | some ('0' :: _ :: _) => none
  | ds => ds

/-- An integer of at most 128 bits, signed or unsigned. -/
def integer? (n : Int) : Option Toml :=
  if -(Nat.pow 2 127 : Int) ≤ n ∧ n < (Nat.pow 2 128 : Int) then some (.integer n) else none

/-- A sign and what follows it; none is a plus. -/
def signed : List Char → Bool × List Char
  | '+' :: rest => (false, rest)
  | '-' :: rest => (true, rest)
  | cs => (false, cs)

/-- The exponent of a float, which fills the characters. -/
def exponent? (cs : List Char) : Option Int :=
  let (negative, cs) := signed cs
  (digits? Char.isDigit cs).map fun ds =>
    if negative then -(valueIn 10 ds : Int) else valueIn 10 ds

/-- Whether a character begins an exponent. -/
def isExponentMark (c : Char) : Bool := c == 'e' || c == 'E'

/-- The decimals of a float after its point, and its exponent. -/
def decimals? (cs : List Char) : Option (List Char × Int) := do
  let ds ← digits? Char.isDigit (cs.takeWhile (!isExponentMark ·))
  match cs.dropWhile (!isExponentMark ·) with
  | [] => some (ds, 0)
  | _ :: cs =>
    let e ← exponent? cs
    some (ds, e)

/-- The float with the given digits before and after the point and the given exponent. -/
def float? (negative : Bool) (whole fraction : List Char) (exponent : Int) : Option Toml :=
  (Binary64.ofDecimal? negative (valueIn 10 (whole ++ fraction))
    (exponent - fraction.length)).map fun x => .float (.finite x)

/-- A decimal integer or a float after its sign. -/
def decimal? (negative : Bool) (cs : List Char) : Option Toml := do
  let isWhole (c : Char) : Bool := c != '.' && !isExponentMark c
  let whole ← plainDigits? (cs.takeWhile isWhole)
  match cs.dropWhile isWhole with
  | [] => integer? (if negative then -(valueIn 10 whole : Int) else valueIn 10 whole)
  | '.' :: cs =>
    let (fraction, e) ← decimals? cs
    float? negative whole fraction e
  | _ :: cs =>
    let e ← exponent? cs
    float? negative whole [] e

/-- A number. -/
def number? : List Char → Option Toml
  | '0' :: 'x' :: cs => (digits? isHexDigit cs).bind fun ds => integer? (valueIn 16 ds)
  | '0' :: 'o' :: cs => (digits? isOctalDigit cs).bind fun ds => integer? (valueIn 8 ds)
  | '0' :: 'b' :: cs => (digits? isBinaryDigit cs).bind fun ds => integer? (valueIn 2 ds)
  | cs =>
    let (negative, cs) := signed cs
    match cs with
    | ['i', 'n', 'f'] => some (.float (.infinite negative))
    | ['n', 'a', 'n'] => some (.float .nan)
    | cs => decimal? negative cs

/-- The value of an unquoted word. -/
def scalar? (word : List Char) : Option Toml :=
  match word with
  | ['t', 'r', 'u', 'e'] => some (.boolean true)
  | ['f', 'a', 'l', 's', 'e'] => some (.boolean false)
  | _ =>
    match Moment.read? word with
    | some text => some (.moment (String.ofList text))
    | none => number? word

end Taskweave.Toml
