import Mathlib.Data.List.Basic
import Mathlib.Data.List.TakeWhile
import Taskweave.Text.Blank

/-!
# Texts without the blanks around them

Trimming cuts a text into blanks, a part without a blank at either end, and blanks, and there is one
such part only (`Text.trimChars_eq_iff`).
-/

namespace Taskweave.Text

/-- Neither the first nor the last character is blank. -/
structure IsBare (cs : List Char) : Prop where
  head : ∀ c, cs.head? = some c → isBlank c = false
  last : ∀ c, cs.getLast? = some c → isBlank c = false

/-- A text has nothing but blanks around a bare part. -/
def IsTrimmed (cs mid : List Char) : Prop := ∃ front back,
  cs = front ++ mid ++ back ∧ (∀ c ∈ front, isBlank c = true) ∧ (∀ c ∈ back, isBlank c = true) ∧
    IsBare mid

section
variable {cs front mid back : List Char} {c : Char}

/-- Characters none of which is blank are bare. -/
theorem IsBare.of_forall (h : ∀ c ∈ cs, isBlank c = false) : IsBare cs :=
  ⟨fun c hc => h c (List.mem_of_head? hc), fun c hc => h c (List.mem_of_getLast? hc)⟩

/-- Blanks in front of a part that begins with none are all that is dropped. -/
theorem dropWhile_append (hblank : ∀ c ∈ front, isBlank c = true)
    (hhead : ∀ c, cs.head? = some c → isBlank c = false) :
    (front ++ cs).dropWhile isBlank = cs := by
  rw [List.dropWhile_append_of_pos hblank]
  cases cs with
  | nil => rfl
  | cons c cs => exact List.dropWhile_cons_of_neg (by rw [hhead c rfl]; decide)

/-- What is left after blanks have been dropped does not begin with one. -/
theorem isBlank_head_dropWhile (h : (cs.dropWhile isBlank).head? = some c) :
    isBlank c = false := by
  have hnot := List.head?_dropWhile_not isBlank cs
  rw [h] at hnot
  exact hnot

/-- What trimming leaves is bare, and blanks are around it. -/
theorem isTrimmed_trimChars (cs : List Char) : IsTrimmed cs (trimChars cs) := by
  have hlast : cs.dropWhile isBlank = trimChars cs ++
      ((cs.dropWhile isBlank).reverse.takeWhile isBlank).reverse := by
    rw [trimChars, ← List.reverse_append, List.takeWhile_append_dropWhile, List.reverse_reverse]
  refine ⟨cs.takeWhile isBlank, ((cs.dropWhile isBlank).reverse.takeWhile isBlank).reverse, ?_,
    fun c hc => List.mem_takeWhile_imp hc,
    fun c hc => List.mem_takeWhile_imp (List.mem_reverse.1 hc), fun c hc => ?_, fun c hc => ?_⟩
  · rw [List.append_assoc, ← hlast, List.takeWhile_append_dropWhile]
  · have hne : trimChars cs ≠ [] := fun hnil => by
      rw [hnil] at hc
      cases hc
    have hhead : (cs.dropWhile isBlank).head? = some c := by
      rwa [hlast, List.head?_append_of_ne_nil _ hne]
    exact isBlank_head_dropWhile hhead
  · rw [trimChars, List.getLast?_reverse] at hc
    exact isBlank_head_dropWhile hc

/-- Blanks around a bare part are what trimming takes away. -/
theorem trimChars_append (hfront : ∀ c ∈ front, isBlank c = true)
    (hback : ∀ c ∈ back, isBlank c = true) (hmid : IsBare mid) :
    trimChars (front ++ mid ++ back) = mid := by
  cases hnil : mid with
  | nil =>
    have hblank : ∀ c ∈ front ++ [] ++ back, isBlank c = true := by
      rw [List.append_nil]
      exact List.forall_mem_append.2 ⟨hfront, hback⟩
    rw [trimChars, List.dropWhile_eq_nil_iff.2 hblank]
    rfl
  | cons a as =>
    rw [← hnil]
    have hne : mid ≠ [] := hnil ▸ List.cons_ne_nil a as
    have hdrop : (front ++ (mid ++ back)).dropWhile isBlank = mid ++ back :=
      dropWhile_append hfront fun c hc => hmid.head c (by
        rwa [List.head?_append_of_ne_nil _ hne] at hc)
    have hdrop' : (back.reverse ++ mid.reverse).dropWhile isBlank = mid.reverse :=
      dropWhile_append (fun c hc => hback c (List.mem_reverse.1 hc)) fun c hc => hmid.last c (by
        rwa [List.head?_reverse] at hc)
    rw [trimChars, List.append_assoc, hdrop, List.reverse_append, hdrop', List.reverse_reverse]

/-- Trimming leaves the bare part of a text, which is the only one with nothing but blanks around
it. -/
theorem trimChars_eq_iff : trimChars cs = mid ↔ IsTrimmed cs mid := by
  constructor
  · rintro rfl
    exact isTrimmed_trimChars cs
  · rintro ⟨front, back, rfl, hfront, hback, hmid⟩
    exact trimChars_append hfront hback hmid

/-- Nothing is left exactly of blanks. -/
theorem trimChars_eq_nil_iff : trimChars cs = [] ↔ ∀ c ∈ cs, isBlank c = true := by
  rw [trimChars_eq_iff]
  constructor
  · rintro ⟨front, back, rfl, hfront, hback, -⟩
    rw [List.append_nil]
    exact List.forall_mem_append.2 ⟨hfront, hback⟩
  · exact fun h => ⟨cs, [], by simp, h, List.forall_mem_nil _, .of_forall (List.forall_mem_nil _)⟩

/-- A text is blank if it has no character but blanks. -/
theorem isBlankText_iff {s : String} : isBlankText s = true ↔ ∀ c ∈ s.toList, isBlank c = true :=
  List.all_eq_true

end

end Taskweave.Text
