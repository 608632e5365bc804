import Mathlib.Data.String.Basic
import Taskweave.Time.Instant

/-!
# The order of numbers that are written out

Texts are ordered by their first difference, so of two texts with beginnings of one length these
decide unless they are equal (`append_lt_append_of_lt`, `append_lt_append_left`). Numbers that are
padded to a width come in the order of the numbers as long as they fit it (`padded_lt_padded`): the
value of a run of digits is read off by `Nat.ofDigitChars`, and of two runs of one length the one
with the smaller value is the smaller text.
-/

namespace Taskweave

section
variable {xs ys : List Char} {c : Char} {a b n width : Nat}

/-! ## First differences -/

/-- Of two texts with beginnings of one length the one with the smaller beginning is the smaller. -/
theorem append_lt_append_of_lt (hlen : xs.length = ys.length) (h : xs < ys) (zs ws : List Char) :
    xs ++ zs < ys ++ ws := by
  induction xs generalizing ys with
  | nil =>
    cases ys with
    | nil => exact absurd h (List.lt_irrefl [])
    | cons y ys => simp at hlen
  | cons x xs ih =>
    cases ys with
    | nil => simp at hlen
    | cons y ys =>
      rw [List.cons_append, List.cons_append, List.cons_lt_cons_iff]
      rcases List.cons_lt_cons_iff.1 h with hhead | ⟨rfl, htail⟩
      · exact .inl hhead
      · exact .inr ⟨rfl, ih (by simpa using hlen) htail⟩

/-- A common beginning does not count. -/
theorem append_lt_append_left (zs : List Char) (h : xs < ys) : zs ++ xs < zs ++ ys := by
  induction zs with
  | nil => exact h
  | cons z zs ih => exact List.cons_lt_cons_iff.2 (.inr ⟨rfl, ih⟩)

/-! ## Digits -/

/-- A digit is one of ten characters in a row. -/
theorem toNat_of_isDigit (h : c.isDigit = true) : 48 ≤ c.toNat ∧ c.toNat ≤ 57 := by
  rw [Char.isDigit, Bool.and_eq_true, decide_eq_true_eq, decide_eq_true_eq] at h
  exact h

/-- The value of a run of digits is below the power of ten with as many zeros. -/
theorem ofDigitChars_lt (h : ∀ c ∈ xs, c.isDigit = true) :
    Nat.ofDigitChars 10 xs 0 < 10 ^ xs.length := by
  induction xs with
  | nil => simp
  | cons x xs ih =>
    obtain ⟨hx, hxs⟩ := List.forall_mem_cons.1 h
    have hdigit := toNat_of_isDigit hx
    have hrest := ih hxs
    rw [Nat.ofDigitChars_cons, Nat.ofDigitChars_eq_ofDigitChars_zero, List.length_cons, pow_succ]
    have hvalue : 10 * 0 + (x.toNat - '0'.toNat) ≤ 9 := by simp; omega
    calc 10 ^ xs.length * (10 * 0 + (x.toNat - '0'.toNat)) + Nat.ofDigitChars 10 xs 0
        < 10 ^ xs.length * 9 + 10 ^ xs.length :=
          Nat.add_lt_add_of_le_of_lt (Nat.mul_le_mul_left _ hvalue) hrest
      _ = 10 ^ xs.length * 10 := by omega

/-- Of two runs of digits of one length the one with the smaller value is the smaller text. -/
theorem lt_of_ofDigitChars_lt (hx : ∀ c ∈ xs, c.isDigit = true) (hy : ∀ c ∈ ys, c.isDigit = true)
    (hlen : xs.length = ys.length) (h : Nat.ofDigitChars 10 xs 0 < Nat.ofDigitChars 10 ys 0) :
    xs < ys := by
  induction xs generalizing ys with
  | nil =>
    rw [List.length_nil, eq_comm, List.length_eq_zero_iff] at hlen
    rw [hlen] at h
    exact absurd h (Nat.lt_irrefl _)
  | cons x xs ih =>
    cases ys with
    | nil => simp at hlen
    | cons y ys =>
      obtain ⟨hx, hxs⟩ := List.forall_mem_cons.1 hx
      obtain ⟨hy, hys⟩ := List.forall_mem_cons.1 hy
      have htail : xs.length = ys.length := by simpa using hlen
      have hdx := toNat_of_isDigit hx
      have hdy := toNat_of_isDigit hy
      rw [List.cons_lt_cons_iff]
      rw [Nat.ofDigitChars_cons, Nat.ofDigitChars_cons, Nat.ofDigitChars_eq_ofDigitChars_zero,
        @Nat.ofDigitChars_eq_ofDigitChars_zero ys, ← htail] at h
      rcases Nat.lt_trichotomy x.toNat y.toNat with hlt | heq | hgt
      · exact .inl hlt
      · obtain rfl := Char.toNat_inj.1 heq
        exact .inr ⟨rfl, ih hxs hys htail (Nat.lt_of_add_lt_add_left h)⟩
      · -- A greater digit outweighs all that follow.
        have hrest := ofDigitChars_lt hys
        rw [← htail] at hrest
        have hstep : 10 ^ xs.length * (y.toNat - '0'.toNat + 1) ≤
            10 ^ xs.length * (x.toNat - '0'.toNat) := Nat.mul_le_mul_left _ (by simp; omega)
        rw [Nat.mul_add, Nat.mul_one] at hstep
        simp only [Nat.mul_zero, Nat.zero_add] at h
        omega

/-! ## Numbers of a width -/

/-- A padded number has nothing but digits. -/
theorem isDigit_of_mem_padded (h : c ∈ (padded width n).toList) : c.isDigit = true := by
  rw [padded, String.toList_ofList, List.mem_append, List.mem_replicate] at h
  rcases h with ⟨-, rfl⟩ | h
  · decide
  · exact Nat.isDigit_of_mem_toDigits (by decide) (by decide) h

/-- The value of a padded number. -/
@[simp] theorem ofDigitChars_padded (width n : Nat) :
    Nat.ofDigitChars 10 (padded width n).toList 0 = n := by
  rw [padded, String.toList_ofList, Nat.ofDigitChars_append, Nat.ofDigitChars_replicate_zero,
    Nat.mul_zero, Nat.ofDigitChars_ten_toDigits]

/-- A number that fits a width is padded to it. -/
theorem length_padded (hw : 0 < width) (h : n < 10 ^ width) :
    (padded width n).toList.length = width := by
  have hle := (Nat.length_toDigits_le_iff (b := 10) (n := n) (by decide) hw).2 h
  rw [padded, String.toList_ofList, List.length_append, List.length_replicate]
  omega

/-- Padding does not make different numbers equal. -/
theorem padded_inj : (padded width a).toList = (padded width b).toList ↔ a = b := by
  refine ⟨fun h => ?_, fun h => h ▸ rfl⟩
  rw [← ofDigitChars_padded width a, h, ofDigitChars_padded]

/-- Numbers that fit a width are in the order of their padded forms. -/
theorem padded_lt_padded (hw : 0 < width) (hb : b < 10 ^ width) (h : a < b) :
    (padded width a).toList < (padded width b).toList := by
  refine lt_of_ofDigitChars_lt (fun _ => isDigit_of_mem_padded) (fun _ => isDigit_of_mem_padded) ?_ ?_
  · rw [length_padded hw hb, length_padded hw (Nat.lt_trans h hb)]
  · simpa using h

end

end Taskweave
