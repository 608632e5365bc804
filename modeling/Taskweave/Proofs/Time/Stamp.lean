import Taskweave.Proofs.Text.Padded
import Taskweave.Proofs.Time.Calendar

/-!
# Stamps come in the order of time

A stamp says as much about an instant as its microsecond does (`Instant.stamp_congr`). While its year
has four digits, all its fields have their widths (`Instant.stamp_toList`), so that of two stamps the
one of the earlier microsecond is the smaller text (`Instant.stamp_lt_stamp`).
-/

namespace Taskweave

namespace Instant

/-- The microseconds that are over. -/
def micros (t : Instant) : Int := t.nanos / 1000

/-- The year is written with four digits. -/
def HasPlainYear (t : Instant) : Prop := 0 ≤ t.date.year ∧ t.date.year ≤ 9999

section
variable {t t' : Instant} {c : Char}

/-! ## Fields -/

/-- The microseconds since midnight. -/
def microsOfDay (t : Instant) : Nat := (t.micros % 86400000000).toNat

/-- The days that are over. -/
theorem date_eq (t : Instant) : t.date = Date.ofDays (t.micros / 86400000000) := by
  have hdays : t.nanos / day = t.micros / 86400000000 := by
    rw [micros, day]
    omega
  rw [date, hdays]

theorem timeOfDay_div (t : Instant) : t.timeOfDay / 1000000000 = t.microsOfDay / 1000000 := by
  rw [timeOfDay, microsOfDay, micros, day]
  omega

theorem timeOfDay_mod (t : Instant) :
    t.timeOfDay % 1000000000 / 1000 = t.microsOfDay % 1000000 := by
  rw [timeOfDay, microsOfDay, micros, day]
  omega

theorem microsOfDay_lt (t : Instant) : t.microsOfDay < 86400000000 := by
  rw [microsOfDay]
  omega

/-- A stamp says nothing about less than a microsecond. -/
theorem stamp_congr (h : t.micros = t'.micros) : t.stamp = t'.stamp := by
  have hday : t.microsOfDay = t'.microsOfDay := by rw [microsOfDay, microsOfDay, h]
  simp only [stamp, clockText, date_eq, timeOfDay_div, timeOfDay_mod, h, hday]

/-- What is written of the microseconds of a day. -/
def clockChars (n : Nat) : List Char :=
  (padded 2 (n / 1000000 / 3600)).toList ++ ((padded 2 (n / 1000000 / 60 % 60)).toList ++
    ((padded 2 (n / 1000000 % 60)).toList ++ ('.' :: ((padded 6 (n % 1000000)).toList ++ ['Z']))))

/-- The fields of a stamp. -/
theorem stamp_toList (h : t.HasPlainYear) : t.stamp.toList =
    (padded 4 t.date.year.toNat).toList ++ ((padded 2 t.date.month).toList ++
      ((padded 2 t.date.day).toList ++ ('T' :: clockChars t.microsOfDay))) := by
  have hyear : yearText t.date.year = padded 4 t.date.year.toNat := if_pos h
  simp [stamp, hyear, clockText, clockChars, timeOfDay_div, timeOfDay_mod]

/-! ## Order -/

/-- Of two fields of one width the first in which they differ decides. -/
theorem padded_append_lt {width a b : Nat} {zs ws : List Char} (hw : 0 < width)
    (hb : b < 10 ^ width) (h : a < b ∨ a = b ∧ zs < ws) :
    (padded width a).toList ++ zs < (padded width b).toList ++ ws := by
  rcases h with h | ⟨rfl, h⟩
  · refine append_lt_append_of_lt ?_ (padded_lt_padded hw hb h) zs ws
    rw [length_padded hw hb, length_padded hw (Nat.lt_trans h hb)]
  · exact append_lt_append_left _ h

/-- A later time of the day is a greater text. -/
theorem clockChars_lt {m n : Nat} (hn : n < 86400000000) (h : m < n) :
    clockChars m < clockChars n := by
  have hfields : m / 1000000 / 3600 < n / 1000000 / 3600 ∨
      m / 1000000 / 3600 = n / 1000000 / 3600 ∧
        (m / 1000000 / 60 % 60 < n / 1000000 / 60 % 60 ∨
          m / 1000000 / 60 % 60 = n / 1000000 / 60 % 60 ∧
            (m / 1000000 % 60 < n / 1000000 % 60 ∨ m / 1000000 % 60 = n / 1000000 % 60 ∧
              m % 1000000 < n % 1000000)) := by
    omega
  refine padded_append_lt (by decide) (by omega) (hfields.imp_right (And.imp_right fun hminute => ?_))
  refine padded_append_lt (by decide) (by omega) (hminute.imp_right (And.imp_right fun hsecond => ?_))
  refine padded_append_lt (by decide) (by omega) (hsecond.imp_right (And.imp_right fun hmicro => ?_))
  exact List.cons_lt_cons_iff.2 (.inr ⟨rfl, padded_append_lt (by decide) (by omega) (.inl hmicro)⟩)

/-- A stamp with a plain year has 23 characters. -/
theorem length_stamp (h : t.HasPlainYear) : t.stamp.toList.length = 23 := by
  have hdate := Date.ofDays_bounds (t.micros / 86400000000)
  rw [← date_eq] at hdate
  have htime := microsOfDay_lt t
  obtain ⟨hfrom, hto⟩ := h
  rw [stamp_toList ⟨hfrom, hto⟩, clockChars]
  simp only [List.length_append, List.length_cons, List.length_nil]
  rw [length_padded (by decide) (by omega), length_padded (by decide) (by omega),
    length_padded (by decide) (by omega), length_padded (by decide) (by omega),
    length_padded (by decide) (by omega), length_padded (by decide) (by omega),
    length_padded (by decide) (by omega)]

/-- Stamps are in the order of the microseconds. -/
theorem stamp_lt_stamp (ht : t.HasPlainYear) (ht' : t'.HasPlainYear) (h : t.micros < t'.micros) :
    t.stamp.toList < t'.stamp.toList := by
  have hdate := Date.ofDays_bounds (t'.micros / 86400000000)
  rw [← date_eq] at hdate
  rw [stamp_toList ht, stamp_toList ht']
  obtain ⟨hfrom, -⟩ := ht
  obtain ⟨hfrom', hto'⟩ := ht'
  -- Days decide before the times of the day do.
  have hfields : t.date.Before t'.date ∨ t.date = t'.date ∧ t.microsOfDay < t'.microsOfDay := by
    rcases Int.lt_or_le (t.micros / 86400000000) (t'.micros / 86400000000) with hday | hday
    · rw [date_eq, date_eq]
      exact .inl (Date.ofDays_before hday)
    · have hsame : t.micros / 86400000000 = t'.micros / 86400000000 := by omega
      rw [date_eq, date_eq, hsame, microsOfDay, microsOfDay]
      exact .inr ⟨rfl, by omega⟩
  rcases hfields with (hyear | ⟨hyear, hmonth | ⟨hmonth, hday⟩⟩) | ⟨hsame, htime⟩
  · exact padded_append_lt (by decide) (by omega) (.inl (by omega))
  · rw [hyear]
    refine append_lt_append_left _ (padded_append_lt (by decide) (by omega) (.inl hmonth))
  · rw [hyear, hmonth]
    refine append_lt_append_left _ (append_lt_append_left _ ?_)
    exact padded_append_lt (by decide) (by omega) (.inl hday)
  · rw [hsame]
    refine append_lt_append_left _ (append_lt_append_left _ (append_lt_append_left _ ?_))
    exact List.cons_lt_cons_iff.2 (.inr ⟨rfl, clockChars_lt (microsOfDay_lt t') htime⟩)

/-! ## Shape -/

/-- A character that the text of a time of the day may have before its last one. -/
def IsClockChar (c : Char) : Prop := c.isDigit = true ∨ c = '.'

/-- A time of the day is digits and a point, and a `Z`. -/
theorem clockChars_eq (n : Nat) :
    ∃ cs, clockChars n = cs ++ ['Z'] ∧ ∀ c ∈ cs, IsClockChar c := by
  refine ⟨(padded 2 (n / 1000000 / 3600)).toList ++ ((padded 2 (n / 1000000 / 60 % 60)).toList ++
    ((padded 2 (n / 1000000 % 60)).toList ++ ('.' :: (padded 6 (n % 1000000)).toList))),
    by simp [clockChars], fun c hc => ?_⟩
  rw [List.mem_append, List.mem_append, List.mem_append, List.mem_cons] at hc
  rcases hc with hc | hc | hc | hc | hc
  · exact .inl (isDigit_of_mem_padded hc)
  · exact .inl (isDigit_of_mem_padded hc)
  · exact .inl (isDigit_of_mem_padded hc)
  · exact .inr hc
  · exact .inl (isDigit_of_mem_padded hc)

/-- A stamp with a plain year is eight digits, a `T`, the time and a `Z`. -/
theorem stamp_shape (h : t.HasPlainYear) : ∃ digits clock,
    t.stamp.toList = digits ++ 'T' :: (clock ++ ['Z']) ∧ digits.length = 8 ∧
      (∀ c ∈ digits, c.isDigit = true) ∧ ∀ c ∈ clock, IsClockChar c := by
  have hdate := Date.ofDays_bounds (t.micros / 86400000000)
  rw [← date_eq] at hdate
  obtain ⟨clock, hclock, hchars⟩ := clockChars_eq t.microsOfDay
  refine ⟨(padded 4 t.date.year.toNat).toList ++ ((padded 2 t.date.month).toList ++
    (padded 2 t.date.day).toList), clock, ?_, ?_, fun c hc => ?_, hchars⟩
  · rw [stamp_toList h, hclock]
    simp
  · obtain ⟨hfrom, hto⟩ := h
    rw [List.length_append, List.length_append, length_padded (by decide) (by omega),
      length_padded (by decide) (by omega), length_padded (by decide) (by omega)]
  · rw [List.mem_append, List.mem_append] at hc
    rcases hc with hc | hc | hc
    · exact isDigit_of_mem_padded hc
    · exact isDigit_of_mem_padded hc
    · exact isDigit_of_mem_padded hc

/-- Numbers are padded without points. -/
theorem point_notMem_padded (width n : Nat) : '.' ∉ (padded width n).toList :=
  fun h => absurd (isDigit_of_mem_padded h) (by decide)

theorem point_notMem_yearText (year : Int) : '.' ∉ (yearText year).toList := by
  rw [yearText]
  split
  · exact point_notMem_padded _ _
  · rw [String.toList_append, List.mem_append, not_or]
    refine ⟨?_, point_notMem_padded _ _⟩
    split
    · decide
    · decide

/-- A character that a stamp may have. -/
def IsStampChar (c : Char) : Prop := c.isDigit = true ∨ c ∈ ['+', '-', 'T', '.', 'Z']

theorem isStampChar_of_mem_yearText {year : Int} : ∀ c ∈ (yearText year).toList, IsStampChar c := by
  rw [yearText]
  split
  · exact fun c hc => .inl (isDigit_of_mem_padded hc)
  · rw [String.toList_append, List.forall_mem_append]
    refine ⟨?_, fun c hc => .inl (isDigit_of_mem_padded hc)⟩
    split
    · simp [IsStampChar]
    · simp [IsStampChar]

/-- A stamp is digits and signs, whatever the year is. -/
theorem isStampChar_of_mem : ∀ c ∈ t.stamp.toList, IsStampChar c := by
  have hpadded (width n : Nat) : ∀ c ∈ (padded width n).toList, IsStampChar c :=
    fun c hc => .inl (isDigit_of_mem_padded hc)
  have hsign (c : Char) (hc : c ∈ ['+', '-', 'T', '.', 'Z']) : ∀ c' ∈ [c], IsStampChar c' :=
    List.forall_mem_singleton.2 (.inr hc)
  simp only [stamp, clockText, String.toList_append, List.forall_mem_append]
  exact ⟨⟨⟨⟨⟨⟨⟨isStampChar_of_mem_yearText, hpadded _ _⟩, hpadded _ _⟩, hsign 'T' (by decide)⟩,
    ⟨⟨⟨hpadded _ _, nofun⟩, hpadded _ _⟩, nofun⟩, hpadded _ _⟩, hsign '.' (by decide)⟩,
    hpadded _ _⟩, hsign 'Z' (by decide)⟩

/-- The one point in a stamp stands before six digits and a `Z`, whatever the year is. -/
theorem stamp_split (t : Instant) : ∃ front micro,
    t.stamp.toList = front ++ '.' :: (micro ++ ['Z']) ∧ '.' ∉ front ∧ '.' ∉ micro ∧
      micro.length = 6 := by
  refine ⟨(yearText t.date.year).toList ++ (padded 2 t.date.month).toList ++
      (padded 2 t.date.day).toList ++ ['T'] ++ (clockText "" t.timeOfDay).toList,
    (padded 6 (t.timeOfDay % 1000000000 / 1000)).toList, ?_, ?_, point_notMem_padded _ _,
    length_padded (by decide) (by omega)⟩
  · simp [stamp]
  · simp [clockText, point_notMem_yearText, point_notMem_padded]

end

end Instant

end Taskweave
