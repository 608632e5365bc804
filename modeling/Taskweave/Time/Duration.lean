import Taskweave.Text.Blank
import Taskweave.Unicode.Lowercase

/-!
# Durations

A `Duration` is a length of time in nanoseconds. `Duration.parse` reads a whole number with one of
the units `ms`, `s`, `m` and `h`; number and product must fit 64 bits. `Duration.text` writes a
duration in its largest unit of `s`, `ms`, `µs` and `ns` with a whole part other than zero.
-/

namespace Taskweave

/-- A length of time in nanoseconds. -/
structure Duration where
  nanos : Nat
deriving DecidableEq, Repr, Inhabited

/-- Why a text is no duration. -/
inductive DurationFault where
  /-- Nothing but blanks. -/
  | empty
  /-- Digits without a unit. -/
  | missingUnit (text : String)
  /-- A unit without digits. -/
  | missingNumber
  /-- A number of more than 64 bits. -/
  | numberTooLarge (digits : String)
  /-- A unit that is not known, in lower case. -/
  | unknownUnit (name : String)
  /-- A product of more than 64 bits. -/
  | tooLarge (text : String)
deriving DecidableEq, Repr

namespace DurationFault

/-- The explanation of a fault. -/
def message : DurationFault → String
  | .empty => "empty duration string"
  | .missingUnit text => "duration '" ++ text ++ "' is missing a unit suffix"
  | .missingNumber => "invalid duration number '': cannot parse integer from empty string"
  | .numberTooLarge digits =>
    "invalid duration number '" ++ digits ++ "': number too large to fit in target type"
  | .unknownUnit name =>
    "unsupported duration unit '" ++ name ++ "'; expected ms, s, m, or h"
  | .tooLarge text => "duration '" ++ text ++ "' is too large"

end DurationFault

namespace Duration

/-- Nanoseconds in a second. -/
def second : Nat := 1000000000

/-- A whole number of seconds. -/
def ofSeconds (n : Nat) : Duration := ⟨n * second⟩

/-- A whole number of milliseconds. -/
def ofMillis (n : Nat) : Duration := ⟨n * 1000000⟩

/-- The whole seconds of a duration. -/
def seconds (d : Duration) : Nat := d.nanos / second

/-- The nanoseconds of a duration beyond its whole seconds. -/
def subsecond (d : Duration) : Nat := d.nanos % second

/-- One more than the greatest number and the greatest product. -/
def limit : Nat := Nat.pow 2 64

/-- The value of a run of decimal digits. -/
def digitsValue (digits : List Char) : Nat :=
  digits.foldl (fun n c => n * 10 + (c.toNat - '0'.toNat)) 0

/-- The seconds in a unit above the second. -/
def secondsPerUnit? (name : String) : Option Nat :=
  if name = "s" then some 1
  else if name = "m" then some 60
  else if name = "h" then some 3600
  else none

/-- Reads a duration. Blanks may stand around it and before its unit, and the case of the unit does
not count. -/
def parse (text : String) : Except DurationFault Duration :=
  let trimmed := Text.trim text
  let cs := trimmed.toList
  let digits := cs.takeWhile Char.isDigit
  let rest := cs.dropWhile Char.isDigit
  if cs.isEmpty then .error .empty
  else if rest.isEmpty then .error (.missingUnit trimmed)
  else if digits.isEmpty then .error .missingNumber
  else
    let n := digitsValue digits
    if limit ≤ n then .error (.numberTooLarge (String.ofList digits))
    else
      let name := Unicode.lower (Text.trim (String.ofList rest))
      if name = "ms" then .ok (ofMillis n)
      else
        match secondsPerUnit? name with
        | none => .error (.unknownUnit name)
        | some k => if limit ≤ n * k then .error (.tooLarge trimmed) else .ok (ofSeconds (n * k))

/-- The decimals of `part / 10 ^ width`, without trailing zeros. -/
def decimals (width part : Nat) : List Char :=
  let digits := Nat.toDigits 10 part
  let padded := List.replicate (width - digits.length) '0' ++ digits
  (padded.reverse.dropWhile (· == '0')).reverse

/-- `nanos` in a unit of `10 ^ width` nanoseconds, with its symbol. -/
def inUnit (nanos width : Nat) (symbol : String) : String :=
  let whole := toString (nanos / Nat.pow 10 width)
  match decimals width (nanos % Nat.pow 10 width) with
  | [] => whole ++ symbol
  | ds => whole ++ "." ++ String.ofList ds ++ symbol

/-- The written form of a duration. -/
def text (d : Duration) : String :=
  if 1000000000 ≤ d.nanos then inUnit d.nanos 9 "s"
  else if 1000000 ≤ d.nanos then inUnit d.nanos 6 "ms"
  else if 1000 ≤ d.nanos then inUnit d.nanos 3 "µs"
  else inUnit d.nanos 0 "ns"

end Duration

end Taskweave
