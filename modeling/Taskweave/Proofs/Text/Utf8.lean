import Mathlib.Data.String.Basic
import Taskweave.Text.Utf8

/-!
# UTF-8 is a prefix code

The bytes of a character are those that the core library gives it (`Utf8.encodeChar_eq`), and that
library reads a character back from the beginning of any bytes. So bytes that begin with those of
two characters begin with one character (`Utf8.encodeChar_append_inj`). A byte below 128 is the code
of one character and no part of another (`Utf8.mem_encodeChars_iff`).
-/

namespace Taskweave.Utf8

section
variable {c d : Char} {cs ds : List Char} {rest rest' : List UInt8}

/-- A character is ASCII when it has one byte. -/
def IsAscii (c : Char) : Prop := c.toNat < 128

instance : Decidable (IsAscii c) := inferInstanceAs (Decidable (c.toNat < 128))

/-- The byte of an ASCII character. -/
def asciiByte (c : Char) : UInt8 := UInt8.ofNat c.toNat

/-- The bytes of characters. -/
def encodeChars (cs : List Char) : List UInt8 := cs.flatMap encodeChar

@[simp] theorem encodeChars_nil : encodeChars [] = [] := rfl

@[simp] theorem encodeChars_cons (c : Char) (cs : List Char) :
    encodeChars (c :: cs) = encodeChar c ++ encodeChars cs := rfl

/-! ## One character -/

/-- An ASCII character has one byte. -/
theorem encodeChar_of_ascii (h : IsAscii c) : encodeChar c = [asciiByte c] := if_pos h

/-- The bytes of a character are those of the core library. -/
theorem encodeChar_eq (c : Char) : encodeChar c = String.utf8EncodeChar c := by
  have hmax : c.toNat < 0x110000 := by
    rcases c.valid with h | ⟨-, h⟩
    · exact Nat.lt_trans h (by decide)
    · exact h
  have hval : c.val.toNat = c.toNat := rfl
  have hone : Nat.pow 64 1 = 64 := rfl
  have htwo : Nat.pow 64 2 = 4096 := rfl
  have hzero : Nat.pow 64 0 = 1 := rfl
  simp only [encodeChar, String.utf8EncodeChar.eq_1, hval, hone, htwo, hzero]
  generalize c.toNat = n at hmax
  by_cases h₁ : n < 0x80
  · rw [if_pos h₁, if_pos (show n ≤ 127 by omega)]
  · rw [if_neg h₁, if_neg (show ¬n ≤ 127 by omega)]
    by_cases h₂ : n < 0x800
    · rw [if_pos h₂, if_pos (show n ≤ 2047 by omega)]
      have hlead : 0xC0 + n / 64 = n / 64 % 32 + 192 := by omega
      have hlow : 0x80 + n / 1 % 64 = n % 64 + 128 := by omega
      rw [hlead, hlow]
    · rw [if_neg h₂, if_neg (show ¬n ≤ 2047 by omega)]
      have hlow : 0x80 + n / 1 % 64 = n % 64 + 128 := by omega
      have hmiddle : 0x80 + n / 64 % 64 = n / 64 % 64 + 128 := by omega
      by_cases h₃ : n < 0x10000
      · rw [if_pos h₃, if_pos (show n ≤ 65535 by omega)]
        have hlead : 0xE0 + n / 4096 = n / 4096 % 16 + 224 := by omega
        rw [hlead, hmiddle, hlow]
      · rw [if_neg h₃, if_neg (show ¬n ≤ 65535 by omega)]
        have hlead : 0xF0 + n / 262144 = n / 262144 % 8 + 240 := by omega
        have hsecond : 0x80 + n / 4096 % 64 = n / 4096 % 64 + 128 := by omega
        rw [hlead, hsecond, hmiddle, hlow]

/-- Bytes begin with those of one character at most. -/
theorem encodeChar_append_inj :
    encodeChar c ++ rest = encodeChar d ++ rest' ↔ c = d ∧ rest = rest' := by
  refine ⟨fun h => ?_, fun ⟨hc, hrest⟩ => hc ▸ hrest ▸ rfl⟩
  have hread := congrArg (fun bytes => bytes.toByteArray.utf8DecodeChar? 0) h
  simp only [encodeChar_eq, List.toByteArray_append, ByteArray.utf8DecodeChar?_utf8EncodeChar_append,
    Option.some_inj] at hread
  subst hread
  exact ⟨rfl, List.append_cancel_left h⟩

/-- Each byte of a character that is not ASCII is at least 128. -/
theorem le_of_mem_encodeChar {b : UInt8} (h : ¬IsAscii c) (hb : b ∈ encodeChar c) :
    128 ≤ b.toNat := by
  have hhigh : ∀ n : Nat, 128 ≤ n → n < 256 → 128 ≤ (UInt8.ofNat n).toNat := by
    intro n hn hlt
    rwa [UInt8.toNat_ofNat', Nat.mod_eq_of_lt hlt]
  rw [IsAscii] at h
  rw [encodeChar_eq, String.utf8EncodeChar.eq_1] at hb
  have hval : c.val.toNat = c.toNat := rfl
  rw [hval, if_neg (by omega)] at hb
  split at hb
  · simp only [List.mem_cons, List.not_mem_nil, or_false] at hb
    rcases hb with rfl | rfl
    · exact hhigh _ (by omega) (by omega)
    · exact hhigh _ (by omega) (by omega)
  · split at hb
    · simp only [List.mem_cons, List.not_mem_nil, or_false] at hb
      rcases hb with rfl | rfl | rfl
      · exact hhigh _ (by omega) (by omega)
      · exact hhigh _ (by omega) (by omega)
      · exact hhigh _ (by omega) (by omega)
    · simp only [List.mem_cons, List.not_mem_nil, or_false] at hb
      rcases hb with rfl | rfl | rfl | rfl
      · exact hhigh _ (by omega) (by omega)
      · exact hhigh _ (by omega) (by omega)
      · exact hhigh _ (by omega) (by omega)
      · exact hhigh _ (by omega) (by omega)

theorem encodeChar_ne_nil (c : Char) : encodeChar c ≠ [] := by
  intro h
  by_cases hc : IsAscii c
  · rw [encodeChar_of_ascii hc] at h
    cases h
  · rw [encodeChar_eq, String.utf8EncodeChar.eq_1] at h
    split at h
    · cases h
    · split at h
      · cases h
      · split at h
        · cases h
        · cases h

theorem toNat_asciiByte (h : IsAscii c) : (asciiByte c).toNat = c.toNat := by
  rw [asciiByte, UInt8.toNat_ofNat', Nat.mod_eq_of_lt (Nat.lt_trans h (by decide))]

/-- ASCII characters have different bytes. -/
theorem asciiByte_inj (hc : IsAscii c) (hd : IsAscii d) : asciiByte c = asciiByte d ↔ c = d := by
  refine ⟨fun h => ?_, fun h => h ▸ rfl⟩
  have hnat := congrArg UInt8.toNat h
  rw [toNat_asciiByte hc, toNat_asciiByte hd] at hnat
  exact Char.toNat_inj.1 hnat

/-- The byte of an ASCII character is in no other character. -/
theorem mem_encodeChar_iff (hc : IsAscii c) : asciiByte c ∈ encodeChar d ↔ c = d := by
  by_cases hd : IsAscii d
  · rw [encodeChar_of_ascii hd, List.mem_singleton, asciiByte_inj hc hd]
  · refine ⟨fun h => absurd (le_of_mem_encodeChar hd h) ?_, fun h => absurd (h ▸ hc) hd⟩
    rw [toNat_asciiByte hc]
    exact Nat.not_le.2 hc

/-! ## Texts -/

/-- The byte of an ASCII character is in a text if the character is. -/
theorem mem_encodeChars_iff (hc : IsAscii c) : asciiByte c ∈ encodeChars cs ↔ c ∈ cs := by
  rw [encodeChars, List.mem_flatMap]
  constructor
  · rintro ⟨d, hd, hmem⟩
    obtain rfl := (mem_encodeChar_iff hc).1 hmem
    exact hd
  · exact fun h => ⟨c, h, (mem_encodeChar_iff hc).2 rfl⟩

end

end Taskweave.Utf8
