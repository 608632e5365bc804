/-!
# Moments

A moment is a date, a time of day, a date and a time, or both with an offset from UTC.
`Moment.read?` reads one and answers its normal text: `T` between date and time, `Z` for UTC, at most
nine decimals of a second and no trailing zeros among them. Seconds may be left out. Every part is
checked to be in its range, days by the length of the month.
-/

namespace Taskweave.Moment

/-- The value of a run of decimal digits. -/
def number (digits : List Char) : Nat :=
  digits.foldl (fun n c => n * 10 + (c.toNat - '0'.toNat)) 0

/-- The digits of a number of exactly `width` digits from `low` to `high`, and what follows it. -/
def bounded? (width low high : Nat) (cs : List Char) : Option (List Char × List Char) :=
  let digits := cs.take width
  if digits.length = width ∧ digits.all Char.isDigit ∧ low ≤ number digits ∧
      number digits ≤ high then
    some (digits, cs.drop width)
  else none

/-- Whether February has 29 days. -/
def isLeap (year : Nat) : Bool :=
  year % 4 == 0 && (year % 100 != 0 || year % 400 == 0)

/-- The number of days in a month. -/
def daysIn (year month : Nat) : Nat :=
  if month = 2 then if isLeap year then 29 else 28
  else if month = 4 ∨ month = 6 ∨ month = 9 ∨ month = 11 then 30
  else 31

/-- A date as year, month and day. -/
def date? (cs : List Char) : Option (List Char × List Char) :=
  match bounded? 4 0 9999 cs with
  | some (year, '-' :: cs) =>
    match bounded? 2 1 12 cs with
    | some (month, '-' :: cs) =>
      match bounded? 2 1 (daysIn (number year) (number month)) cs with
      | some (day, cs) => some (year ++ '-' :: month ++ '-' :: day, cs)
      | none => none
    | _ => none
  | _ => none

/-- The normal form of the decimals of a second. -/
def decimals (digits : List Char) : List Char :=
  match ((digits.take 9).reverse.dropWhile (· == '0')).reverse with
  | [] => ['0']
  | ds => ds

/-- A time of day: hours and minutes, and maybe seconds with maybe decimals. -/
def time? (cs : List Char) : Option (List Char × List Char) :=
  match bounded? 2 0 23 cs with
  | some (hour, ':' :: cs) =>
    match bounded? 2 0 59 cs with
    | some (minute, ':' :: cs) =>
      match bounded? 2 0 60 cs with
      | some (second, '.' :: cs) =>
        match cs.takeWhile Char.isDigit with
        | [] => none
        | ds =>
          some (hour ++ ':' :: minute ++ ':' :: second ++ '.' :: decimals ds,
            cs.dropWhile Char.isDigit)
      | some (second, cs) => some (hour ++ ':' :: minute ++ ':' :: second, cs)
      | none => none
    | some (minute, cs) => some (hour ++ ':' :: minute, cs)
    | none => none
  | _ => none

/-- The greatest offset from UTC, in minutes. -/
def maxOffset : Nat := 24 * 60

/-- The hours and minutes of an offset after its sign, which fill the characters. -/
def offsetTail? (sign : Char) (cs : List Char) : Option (List Char) :=
  match bounded? 2 0 24 cs with
  | some (hours, ':' :: cs) =>
    match bounded? 2 0 59 cs with
    | some (minutes, []) =>
      let total := number hours * 60 + number minutes
      if maxOffset < total then none
      else some ((if total = 0 then '+' else sign) :: hours ++ ':' :: minutes)
    | _ => none
  | _ => none

/-- An offset that fills the characters; it may be missing. -/
def offset? : List Char → Option (List Char)
  | [] => some []
  | ['Z'] | ['z'] => some ['Z']
  | '+' :: cs => offsetTail? '+' cs
  | '-' :: cs => offsetTail? '-' cs
  | _ => none

/-- The normal text of a moment that fills the characters. -/
def read? (cs : List Char) : Option (List Char) :=
  match date? cs with
  | some (date, []) => some date
  | some (date, mark :: cs) =>
    if mark = 'T' ∨ mark = 't' ∨ mark = ' ' then
      match time? cs with
      | some (time, cs) => (offset? cs).map fun offset => date ++ 'T' :: time ++ offset
      | none => none
    else none
  | none =>
    match time? cs with
    | some (time, []) => some time
    | _ => none

/-- Whether a text may be a date with a time after a blank. -/
def isDate (cs : List Char) : Bool :=
  match date? cs with
  | some (_, []) => true
  | _ => false

end Taskweave.Moment
