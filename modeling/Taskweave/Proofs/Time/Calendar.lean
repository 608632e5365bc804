import Mathlib.Data.String.Basic
import Taskweave.Time.Instant

/-!
# Dates come in the order of the days

`Date.ofDays` counts the days of an era of 400 years and takes the year out of them by one division,
corrected for the leap days before it. `Date.yearOfEra_eq` computes that division for a day that is
given by its century, its four years and its place in them, and from it a year has begun on each of
its days and is over on none (`Date.yearStart_le`, `Date.lt_yearStart_succ`). So a later day has a
later year, or the same year and a later place in it, and a later date (`Date.ofDays_before`).
-/

namespace Taskweave.Date

/-- A date is earlier than another. -/
def Before (d e : Date) : Prop :=
  d.year < e.year ∨ d.year = e.year ∧ (d.month < e.month ∨ d.month = e.month ∧ d.day < e.day)

/-- The year of a day of an era, counted from March. -/
def yearOfEra (day : Nat) : Nat := (day - day / 1460 + day / 36524 - day / 146096) / 365

/-- The first day of a year of an era. -/
def yearStart (year : Nat) : Nat := 365 * year + year / 4 - year / 100

/-- The month of a day of a year, counted from March. -/
def monthOfYear (day : Nat) : Nat := (5 * day + 2) / 153

/-- The day of the month of a day of a year. -/
def dayOfMonth (day : Nat) : Nat := day - (153 * monthOfYear day + 2) / 5 + 1

/-- The date of a day of a year that is counted from March. -/
def ofYear (year : Int) (day : Nat) : Date :=
  let month := if monthOfYear day < 10 then monthOfYear day + 3 else monthOfYear day - 9
  ⟨year + (if month ≤ 2 then 1 else 0), month, dayOfMonth day⟩

section
variable {century block place day day' : Nat} {m n : Int}

/-- Leap days before a day of a century, of which one may come too early at the end of four
years. -/
theorem leapDays (hc : century ≤ 3) (hb : block ≤ 24) (hp : place ≤ 1460) :
    (24 * century + (1461 * block + place)) / 1460 = block ∨
      (24 * century + (1461 * block + place)) / 1460 = block + 1 ∧ 1364 ≤ place := by
  omega

/-- The year of a day that is given by its century, its four years and its place in these. The fourth
of four years has a day more than the others. -/
theorem yearOfEra_eq (hc : century ≤ 3) (hb : block ≤ 24) (hp : place ≤ 1460)
    (hday : 1461 * block + place ≤ 36523) :
    yearOfEra (36524 * century + (1461 * block + place)) =
      100 * century + 4 * block + min (place / 365) 3 := by
  have hcentury : (36524 * century + (1461 * block + place)) / 36524 = century := by omega
  have hera : (36524 * century + (1461 * block + place)) / 146096 = 0 := by omega
  have hleap : (36524 * century + (1461 * block + place)) / 1460 =
      25 * century + (24 * century + (1461 * block + place)) / 1460 := by omega
  rw [yearOfEra, hcentury, hera, hleap]
  rcases leapDays hc hb hp with h | ⟨h, hlate⟩
  · rw [h]
    omega
  · rw [h]
    omega

/-- A day of an era that is not its last one, by its century, its four years and its place. -/
theorem exists_place (h : day < 146096) : ∃ century block place, century ≤ 3 ∧ block ≤ 24 ∧
    place ≤ 1460 ∧ 1461 * block + place ≤ 36523 ∧
      day = 36524 * century + (1461 * block + place) :=
  ⟨day / 36524, day % 36524 / 1461, day % 36524 % 1461, by omega, by omega, by omega, by omega,
    by omega⟩

/-- The first day of a year that is given by its century, its four years and its place in these. -/
theorem yearStart_eq (century : Nat) {quarter : Nat} (hb : block ≤ 24) (hq : quarter ≤ 3) :
    yearStart (100 * century + 4 * block + quarter) =
      36524 * century + (1461 * block + 365 * quarter) := by
  have hfour : (100 * century + 4 * block + quarter) / 4 = 25 * century + block := by omega
  have hcentury : (100 * century + 4 * block + quarter) / 100 = century := by omega
  rw [yearStart, hfour, hcentury]
  omega

/-- Years begin one after the other. -/
theorem yearStart_mono {year year' : Nat} (h : year ≤ year') : yearStart year ≤ yearStart year' := by
  induction h with
  | refl => exact Nat.le_refl _
  | @step year' _ ih =>
    have hcentury : (year' + 1) / 100 ≤ year' / 100 + 1 := by omega
    have hfour : year' / 4 ≤ (year' + 1) / 4 := by omega
    simp only [yearStart] at ih ⊢
    omega

/-- A year has begun on each of its days. -/
theorem yearStart_le (h : day ≤ 146096) : yearStart (yearOfEra day) ≤ day := by
  rcases Nat.lt_or_eq_of_le h with h | rfl
  · obtain ⟨century, block, place, hc, hb, hp, hday, rfl⟩ := exists_place h
    rw [yearOfEra_eq hc hb hp hday, yearStart_eq _ hb (Nat.min_le_right _ 3)]
    omega
  · decide

/-- A year is over on none of its days; the last day of an era is one more day of its last year. -/
theorem lt_yearStart_succ (h : day < 146096) : day < yearStart (yearOfEra day + 1) := by
  obtain ⟨century, block, place, hc, hb, hp, hday, rfl⟩ := exists_place h
  rw [yearOfEra_eq hc hb hp hday]
  by_cases hquarter : place < 1095
  · have hnext : 100 * century + 4 * block + min (place / 365) 3 + 1 =
        100 * century + 4 * block + (place / 365 + 1) := by omega
    have hle : place / 365 + 1 ≤ 3 := by omega
    have hstart := yearStart_eq century hb hle
    rw [← congrArg yearStart hnext] at hstart
    omega
  · -- The next year is the first one of the next four years, or of the next century.
    by_cases hblock : block + 1 ≤ 24
    · have hnext : 100 * century + 4 * block + min (place / 365) 3 + 1 =
          100 * century + 4 * (block + 1) + 0 := by omega
      have hstart := yearStart_eq century hblock (Nat.zero_le 3)
      rw [← congrArg yearStart hnext] at hstart
      omega
    · have hnext : 100 * century + 4 * block + min (place / 365) 3 + 1 =
          100 * (century + 1) + 4 * 0 + 0 := by omega
      have hstart := yearStart_eq (century + 1) (Nat.zero_le 24) (Nat.zero_le 3)
      rw [← congrArg yearStart hnext] at hstart
      omega

/-- An era has 400 years. -/
theorem yearOfEra_lt (h : day ≤ 146096) : yearOfEra day < 400 := by
  rw [yearOfEra]
  omega

/-- The place of a day in its year. -/
theorem dayOfYear_le (h : day ≤ 146096) : day - yearStart (yearOfEra day) ≤ 365 := by
  rcases Nat.lt_or_eq_of_le h with h | rfl
  · have hlt := lt_yearStart_succ h
    rw [yearStart] at hlt ⊢
    omega
  · decide

/-- A later day of an era has a later year, or the same year and a later place in it. -/
theorem era_before (hday' : day' ≤ 146096) (h : day < day') : yearOfEra day < yearOfEra day' ∨
    yearOfEra day = yearOfEra day' ∧
      day - yearStart (yearOfEra day) < day' - yearStart (yearOfEra day') := by
  have hstart : yearStart (yearOfEra day) ≤ day := yearStart_le (by omega)
  rcases Nat.lt_trichotomy (yearOfEra day) (yearOfEra day') with hlt | heq | hgt
  · exact .inl hlt
  · rw [← heq]
    exact .inr ⟨rfl, by omega⟩
  · -- The later day would lie before the first day of the year of the earlier one.
    have hle := yearStart_mono (show yearOfEra day' + 1 ≤ yearOfEra day from hgt)
    rcases Nat.lt_or_eq_of_le hday' with hlast | rfl
    · have hlt := lt_yearStart_succ hlast
      omega
    · have hlt : yearOfEra day < 400 := yearOfEra_lt (by omega)
      have hlast : yearOfEra 146096 = 399 := by decide
      omega

/-- The months and days of a year are those of a calendar. -/
theorem ofYear_bounds (year : Int) (h : day ≤ 365) : 1 ≤ (ofYear year day).month ∧
    (ofYear year day).month ≤ 12 ∧ 1 ≤ (ofYear year day).day ∧ (ofYear year day).day ≤ 31 := by
  have hmonth : monthOfYear day ≤ 11 := by rw [monthOfYear]; omega
  have hday : 1 ≤ dayOfMonth day ∧ dayOfMonth day ≤ 31 := by
    simp only [dayOfMonth, monthOfYear]
    omega
  simp only [ofYear]
  refine ⟨?_, ?_, hday⟩
  · split <;> omega
  · split <;> omega

/-- A later year has later dates, and so has a later day of the same year. -/
theorem ofYear_before {year year' : Int} (hday : day ≤ 365) (hday' : day' ≤ 365)
    (h : year < year' ∨ year = year' ∧ day < day') : (ofYear year day).Before (ofYear year' day') := by
  have hmonth : monthOfYear day ≤ 11 := by rw [monthOfYear]; omega
  have hmonth' : monthOfYear day' ≤ 11 := by rw [monthOfYear]; omega
  -- The months of one year come in order, and the days of one month.
  have hplace : day < day' → monthOfYear day < monthOfYear day' ∨
      monthOfYear day = monthOfYear day' ∧ dayOfMonth day < dayOfMonth day' := by
    intro hlt
    simp only [dayOfMonth, monthOfYear]
    omega
  generalize hm : monthOfYear day = month at hmonth hplace
  generalize hm' : monthOfYear day' = month' at hmonth' hplace
  simp only [Before, ofYear, hm, hm']
  split <;> split <;> split <;> split <;> omega

/-- A date by its year, counted from March, and its place in it. -/
theorem ofDays_eq (m : Int) : ofDays m =
    ofYear (yearOfEra ((m + 719468) % 146097).toNat + (m + 719468) / 146097 * 400)
      (((m + 719468) % 146097).toNat - yearStart (yearOfEra ((m + 719468) % 146097).toNat)) := rfl

/-- A later day has a later date. -/
theorem ofDays_before (h : m < n) : (ofDays m).Before (ofDays n) := by
  have hday : ((m + 719468) % 146097).toNat ≤ 146096 := by omega
  have hday' : ((n + 719468) % 146097).toNat ≤ 146096 := by omega
  rw [ofDays_eq, ofDays_eq]
  refine ofYear_before (dayOfYear_le hday) (dayOfYear_le hday') ?_
  rcases Int.lt_or_le ((m + 719468) / 146097) ((n + 719468) / 146097) with hera | hera
  · have hyear := yearOfEra_lt hday
    omega
  · -- Within one era the days of the era decide.
    have hlt : ((m + 719468) % 146097).toNat < ((n + 719468) % 146097).toNat := by omega
    rcases era_before hday' hlt with hyear | ⟨hyear, hplace⟩
    · omega
    · exact .inr ⟨by omega, hplace⟩

/-- The months and days of a date are those of a calendar. -/
theorem ofDays_bounds (m : Int) : 1 ≤ (ofDays m).month ∧ (ofDays m).month ≤ 12 ∧
    1 ≤ (ofDays m).day ∧ (ofDays m).day ≤ 31 :=
  ofDays_eq m ▸ ofYear_bounds _ (dayOfYear_le (by omega))

end

end Taskweave.Date
