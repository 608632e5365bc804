/-!
# Instants

An `Instant` is a point in time as nanoseconds since 1970-01-01T00:00:00Z. `Instant.date` is its day
in the Gregorian calendar, extended in both directions. It has two written forms: `Instant.stamp`, to the microsecond
and without separators, so that of two stamps with years of four digits the earlier one is the
smaller text; and that of RFC 3339, with as many decimals as its nanoseconds need, which ends in `Z`
(`Instant.rfc3339`) or in the offset of zero hours (`Instant.rfc3339Offset`).
-/

namespace Taskweave

/-- Nanoseconds since 1970-01-01T00:00:00Z. -/
structure Instant where
  nanos : Int
deriving DecidableEq, Repr, Inhabited

/-- A day of the Gregorian calendar. -/
structure Date where
  year : Int
  month : Nat
  day : Nat
deriving DecidableEq, Repr

/-- The day a number of days after 1970-01-01. Years are counted from March, so that the leap day
ends a year, and in eras of 400 years, each of which has 146097 days. -/
def Date.ofDays (days : Int) : Date :=
  let shifted := days + 719468
  let era := shifted / 146097
  let dayOfEra := (shifted % 146097).toNat
  let yearOfEra := (dayOfEra - dayOfEra / 1460 + dayOfEra / 36524 - dayOfEra / 146096) / 365
  let dayOfYear := dayOfEra - (365 * yearOfEra + yearOfEra / 4 - yearOfEra / 100)
  let monthFromMarch := (5 * dayOfYear + 2) / 153
  let day := dayOfYear - (153 * monthFromMarch + 2) / 5 + 1
  let month := if monthFromMarch < 10 then monthFromMarch + 3 else monthFromMarch - 9
  ⟨yearOfEra + era * 400 + (if month ≤ 2 then 1 else 0), month, day⟩

/-- A number in decimal with at least `width` digits. -/
def padded (width n : Nat) : String :=
  let digits := Nat.toDigits 10 n
  String.ofList (List.replicate (width - digits.length) '0' ++ digits)

namespace Instant

/-- Nanoseconds in a day. -/
def day : Int := 86400000000000

/-- The date of an instant. -/
def date (t : Instant) : Date := Date.ofDays (t.nanos / day)

/-- Nanoseconds since midnight. -/
def timeOfDay (t : Instant) : Nat := (t.nanos % day).toNat

/-- A year with four digits, or with a sign and at least four digits outside 0 to 9999. -/
def yearText (y : Int) : String :=
  if 0 ≤ y ∧ y ≤ 9999 then padded 4 y.toNat
  else (if y < 0 then "-" else "+") ++ padded 4 y.natAbs

/-- Hours, minutes and seconds of a time of day, with a separator between them. -/
def clockText (separator : String) (nanos : Nat) : String :=
  let s := nanos / 1000000000
  padded 2 (s / 3600) ++ separator ++ padded 2 (s / 60 % 60) ++ separator ++ padded 2 (s % 60)

/-- The compact form, to the microsecond: `20260102T030405.123456Z`. -/
def stamp (t : Instant) : String :=
  let d := t.date
  yearText d.year ++ padded 2 d.month ++ padded 2 d.day ++ "T" ++ clockText "" t.timeOfDay ++ "." ++
    padded 6 (t.timeOfDay % 1000000000 / 1000) ++ "Z"

/-- The decimals of a second: none, or three, six or nine, as few as hold them. -/
def fractionText (nanos : Nat) : String :=
  if nanos = 0 then ""
  else if nanos % 1000000 = 0 then "." ++ padded 3 (nanos / 1000000)
  else if nanos % 1000 = 0 then "." ++ padded 6 (nanos / 1000)
  else "." ++ padded 9 nanos

/-- Date and time with separators, without an offset: `2026-01-02T03:04:05.123456`. -/
def dateTimeText (t : Instant) : String :=
  let d := t.date
  yearText d.year ++ "-" ++ padded 2 d.month ++ "-" ++ padded 2 d.day ++ "T" ++
    clockText ":" t.timeOfDay ++ fractionText (t.timeOfDay % 1000000000)

/-- The form with separators: `2026-01-02T03:04:05.123456Z`. -/
def rfc3339 (t : Instant) : String := t.dateTimeText ++ "Z"

/-- The form with separators and a numeric offset: `2026-01-02T03:04:05.123456+00:00`. -/
def rfc3339Offset (t : Instant) : String := t.dateTimeText ++ "+00:00"

end Instant

end Taskweave
