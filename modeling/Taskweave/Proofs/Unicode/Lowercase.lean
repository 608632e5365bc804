import Mathlib.Data.List.Basic
import Taskweave.Unicode.Lowercase

/-!
# Lower case and ASCII letters

The lower-case form of a text is put together of forms of its characters
(`Unicode.exists_lowerFrom`), and in ASCII each character has one of one character. Outside ASCII two
characters have forms with ASCII letters in them, the dotted capital I and the Kelvin sign, and these
letters are `i` and `k` (`Unicode.not_isPlainLetter_of_mem`). So a text whose form is a word without
those two letters is that word, but for the case of its letters (`Unicode.lower_eq_iff`).
-/

namespace Taskweave.Unicode

/-- A small letter of ASCII that is in the form of no character outside ASCII. -/
structure IsPlainLetter (c : Char) : Prop where
  lower : 0x61 ≤ c.toNat
  upper : c.toNat ≤ 0x7A
  ne_i : c ≠ 'i'
  ne_k : c ≠ 'k'

instance : DecidablePred IsPlainLetter := fun c =>
  decidable_of_iff (0x61 ≤ c.toNat ∧ c.toNat ≤ 0x7A ∧ c ≠ 'i' ∧ c ≠ 'k')
    ⟨fun ⟨hl, hu, hi, hk⟩ => ⟨hl, hu, hi, hk⟩, fun h => ⟨h.lower, h.upper, h.ne_i, h.ne_k⟩⟩

/-- The forms that a character has, a capital sigma at the end of a word or elsewhere. -/
inductive IsForm : Char → List Char → Prop
  | sigma (final : Bool) : IsForm 'Σ' [if final then 'ς' else 'σ']
  | other (c : Char) (h : c ≠ 'Σ') : IsForm c (lowerChars c)

section
variable {c d : Char} {cs : List Char} {form : List Char} {forms : List (List Char)}

/-! ## Characters outside ASCII -/

theorem words_nil : words [] = [] := rfl

/-- The words of lines, from the characters of the first line. -/
theorem words_ofList_cons (cs : List Char) (lines : List String) :
    words (String.ofList cs :: lines) = pieces (· == ' ') cs ++ words lines := by
  rw [words, List.flatMap_cons, String.toList_ofList, words]

/-- What is moved from outside ASCII stays outside, but for the Kelvin sign. -/
theorem target_of_mem_lowerShifts : ∀ shift ∈ lowerShifts,
    shift.last < 0x80 ∨ 0x80 ≤ shift.target ∨ shift.target = 0x6B ∧ shift.first = shift.last := by
  unfold lowerShifts shiftsOfText
  -- The texts of the table are unfolded into characters one by one, which evaluates faster.
  repeat rw [words_ofList_cons]
  rw [words_nil]
  decide +kernel

/-- A character that has a number outside ASCII is no plain letter. -/
theorem not_isPlainLetter_of_le (h : 0x80 ≤ c.toNat) : ¬IsPlainLetter c := fun hc => by
  have hupper := hc.upper
  omega

/-- No form of a character outside ASCII has a plain letter in it. -/
theorem not_isPlainLetter_of_mem (hc : 0x80 ≤ c.toNat) (hd : d ∈ lowerChars c) :
    ¬IsPlainLetter d := by
  rw [lowerChars, if_neg (Nat.not_lt.2 hc)] at hd
  split at hd
  · rcases List.mem_cons.1 hd with rfl | hd
    · decide
    · rw [List.mem_singleton.1 hd]
      decide
  · split at hd
    · next t ht =>
      obtain ⟨shift, hfind, rfl⟩ := Option.map_eq_some_iff.1 ht
      have hbounds := List.find?_some hfind
      rw [Bool.and_eq_true, Bool.and_eq_true, decide_eq_true_eq, decide_eq_true_eq] at hbounds
      obtain ⟨⟨hfirst, hlast⟩, -⟩ := hbounds
      rw [List.mem_singleton.1 hd]
      rcases target_of_mem_lowerShifts shift (List.mem_of_find?_eq_some hfind) with
        hascii | htarget | ⟨hkelvin, hone⟩
      · omega
      · generalize ht : shift.target + (c.toNat - shift.first) = t
        by_cases hvalid : t.isValidChar
        · have hnat : (Char.ofNat t).toNat = t := by
            rw [Char.ofNat, dif_pos hvalid]
            rfl
          exact not_isPlainLetter_of_le (by omega)
        · rw [Char.ofNat, dif_neg hvalid]
          decide
      · rw [show shift.target + (c.toNat - shift.first) = 0x6B by omega]
        decide
    · rw [List.mem_singleton.1 hd]
      exact not_isPlainLetter_of_le hc

/-! ## Forms -/

/-- A character of ASCII has its small letter for its form. -/
theorem lowerChars_of_ascii (h : c.toNat < 0x80) : lowerChars c = [c.toLower] := if_pos h

/-- The only form of a character of ASCII. -/
theorem IsForm.eq_of_ascii (h : IsForm c form) (hc : c.toNat < 0x80) : form = [c.toLower] := by
  cases h with
  | sigma final => exact absurd hc (by decide)
  | other c h => exact lowerChars_of_ascii hc

/-- A character has a form of one character or more. -/
theorem IsForm.ne_nil (h : IsForm c form) : form ≠ [] := by
  cases h with
  | sigma final => exact List.cons_ne_nil _ _
  | other c h =>
    rw [lowerChars]
    split
    · exact List.cons_ne_nil _ _
    · split
      · exact List.cons_ne_nil _ _
      · split <;> exact List.cons_ne_nil _ _

/-- A character with plain letters in its form is one of ASCII. -/
theorem IsForm.ascii (h : IsForm c form) (hplain : ∀ d ∈ form, IsPlainLetter d) :
    c.toNat < 0x80 := by
  by_contra hc
  obtain ⟨d, hd⟩ := List.exists_mem_of_ne_nil form h.ne_nil
  have hnot : ¬IsPlainLetter d := by
    cases h with
    | sigma final =>
      rw [List.mem_singleton.1 hd]
      cases final <;> decide
    | other c h => exact not_isPlainLetter_of_mem (Nat.not_lt.1 hc) hd
  exact hnot (hplain d hd)

/-- The lower-case form of characters is put together of forms of each. -/
theorem exists_lowerFrom (before out cs : List Char) : ∃ forms,
    lowerFrom before out cs = out.reverse ++ forms.flatten ∧ List.Forall₂ IsForm cs forms := by
  induction cs generalizing before out with
  | nil => exact ⟨[], (List.append_nil _).symm, .nil⟩
  | cons c cs ih =>
    rw [lowerFrom]
    split
    · next hc =>
      subst hc
      obtain ⟨forms, heq, hforms⟩ := ih ('Σ' :: before)
        ([if leadsToCased before && !leadsToCased cs then 'ς' else 'σ'].reverse ++ out)
      refine ⟨_, ?_, .cons (.sigma (leadsToCased before && !leadsToCased cs)) hforms⟩
      rw [heq]
      simp
    · next hc =>
      obtain ⟨forms, heq, hforms⟩ := ih (c :: before) ((lowerChars c).reverse ++ out)
      refine ⟨_, ?_, .cons (.other c hc) hforms⟩
      rw [heq]
      simp

/-- Characters of ASCII have their small letters for their forms. -/
theorem flatten_of_ascii (h : List.Forall₂ IsForm cs forms) (hcs : ∀ c ∈ cs, c.toNat < 0x80) :
    forms.flatten = cs.map Char.toLower := by
  induction h with
  | nil => rfl
  | cons hform _ ih =>
    obtain ⟨hc, hcs⟩ := List.forall_mem_cons.1 hcs
    rw [List.flatten_cons, hform.eq_of_ascii hc, ih hcs]
    rfl

/-- Characters with plain letters in their forms are of ASCII. -/
theorem ascii_of_flatten (h : List.Forall₂ IsForm cs forms)
    (hplain : ∀ d ∈ forms.flatten, IsPlainLetter d) : ∀ c ∈ cs, c.toNat < 0x80 := by
  induction h with
  | nil => exact List.forall_mem_nil _
  | cons hform _ ih =>
    rw [List.flatten_cons, List.forall_mem_append] at hplain
    exact List.forall_mem_cons.2 ⟨hform.ascii hplain.1, ih hplain.2⟩

/-! ## Texts -/

/-- A character whose small letter is a plain one is a letter itself. -/
theorem bounds_of_toLower (h : IsPlainLetter c.toLower) : 0x41 ≤ c.toNat ∧ c.toNat ≤ 0x7A := by
  have hval : c.val.toNat = c.toNat := rfl
  by_cases hcapital : c.val ≥ 'A'.val ∧ c.val ≤ 'Z'.val
  · simp only [ge_iff_le, UInt32.le_iff_toNat_le, hval] at hcapital
    exact ⟨hcapital.1, Nat.le_trans hcapital.2 (by decide)⟩
  · have hsame : c.toLower = c := dif_neg hcapital
    rw [hsame] at h
    exact ⟨Nat.le_trans (by decide) h.lower, h.upper⟩

/-- A text has a word of plain letters for its lower-case form if it is the word, but for the case of
the letters. -/
theorem lower_eq_iff {s name : String} (hname : ∀ c ∈ name.toList, IsPlainLetter c) :
    lower s = name ↔ s.toList.map Char.toLower = name.toList := by
  obtain ⟨forms, heq, hforms⟩ := exists_lowerFrom [] [] s.toList
  have hlower : lower s = name ↔ forms.flatten = name.toList := by
    rw [lower, heq, ← String.toList_inj, String.toList_ofList, List.reverse_nil, List.nil_append]
  rw [hlower]
  constructor
  · intro hflat
    rw [← flatten_of_ascii hforms (ascii_of_flatten hforms fun d hd => hname d (hflat ▸ hd)), hflat]
  · intro hmap
    refine (flatten_of_ascii hforms fun c hc => ?_).trans hmap
    have hbounds := bounds_of_toLower (hname c.toLower (hmap ▸ List.mem_map_of_mem hc))
    omega

end

end Taskweave.Unicode
