import Mathlib.Data.String.Basic
import Taskweave.Json.Printer
import Taskweave.Json.Reader

/-!
# Strings are read as they were printed

The printed form of a character is read as that character, whatever follows (`Json.stringTail?_escape`),
and so a printed string is read as it was, up to its closing quote (`Json.stringTail?_quoted`).
-/

namespace Taskweave.Json

section
variable {c : Char} {read rest : List Char}

/-- The closing quote ends a string. -/
theorem stringTail?_close : stringTail? read ('"' :: rest) = some (String.ofList read.reverse, rest) := by
  rw [stringTail?]

/-- An escape of one letter stands for one character. -/
theorem stringTail?_letter {letter : Char} (h : unescape? letter = some c) (hu : letter ≠ 'u') :
    stringTail? read ('\\' :: letter :: rest) = stringTail? (c :: read) rest := by
  rw [stringTail?.eq_def]
  split
  · next heq => cases heq
  · next heq => cases heq
  · next heq =>
    obtain ⟨-, hletter⟩ := List.cons.inj heq
    exact absurd (List.cons.inj hletter).1 hu
  · next heq =>
    obtain ⟨rfl, rfl⟩ := List.cons.inj (List.cons.inj heq).2
    rw [h]
  · next hother heq =>
    obtain ⟨rfl, rfl⟩ := List.cons.inj heq
    exact absurd rfl (hother letter rest rfl)

/-- The digits of a number below 16. -/
theorem hexDigit?_hexChar {n : Nat} (h : n < 16) : hexDigit? (hexChar n) = some n := by
  have hall : ∀ k : Fin 16, hexDigit? (hexChar k) = some k.1 := by decide
  exact hall ⟨n, h⟩

/-- A control character is written by its number. -/
theorem stringTail?_control (h : c.toNat < 0x20) :
    stringTail? read ('\\' :: 'u' :: '0' :: '0' :: hexChar (c.toNat / 16) :: hexChar (c.toNat % 16) ::
      rest) = stringTail? (c :: read) rest := by
  have hunit : unit? '0' '0' (hexChar (c.toNat / 16)) (hexChar (c.toNat % 16)) = some c.toNat := by
    have hzero : hexDigit? '0' = some 0 := by decide
    rw [unit?, hzero, hexDigit?_hexChar (by omega), hexDigit?_hexChar (by omega)]
    simp only [Option.bind_eq_bind, Option.bind_some, Option.some_inj]
    omega
  have hhigh : isHighUnit c.toNat = false := by
    rw [isHighUnit, Bool.and_eq_false_iff]
    exact .inl (decide_eq_false (by omega))
  have hlow : isLowUnit c.toNat = false := by
    rw [isLowUnit, Bool.and_eq_false_iff]
    exact .inl (decide_eq_false (by omega))
  rw [stringTail?, hunit]
  simp only [hhigh, hlow, Char.ofNat_toNat, Bool.false_eq_true, if_false]

/-- Any other character stands for itself. -/
theorem stringTail?_plain (hquote : c ≠ '"') (hslash : c ≠ '\\') (hplain : ¬c.toNat < 0x20) :
    stringTail? read (c :: rest) = stringTail? (c :: read) rest := by
  rw [stringTail?.eq_def]
  split
  · next heq => cases heq
  · next heq => exact absurd (List.cons.inj heq).1 hquote
  · next heq => exact absurd (List.cons.inj heq).1 hslash
  · next heq => exact absurd (List.cons.inj heq).1 hslash
  · next heq =>
    obtain ⟨rfl, rfl⟩ := List.cons.inj heq
    rw [if_neg hplain]

/-- The printed form of a character is read as the character. -/
theorem stringTail?_escape (c : Char) (read rest : List Char) :
    stringTail? read (escape c ++ rest) = stringTail? (c :: read) rest := by
  rw [escape.eq_def]
  split
  · exact stringTail?_letter rfl (by decide)
  · exact stringTail?_letter rfl (by decide)
  · exact stringTail?_letter rfl (by decide)
  · exact stringTail?_letter rfl (by decide)
  · exact stringTail?_letter rfl (by decide)
  · exact stringTail?_letter rfl (by decide)
  · exact stringTail?_letter rfl (by decide)
  · next hquote hslash _ _ _ _ _ =>
    split
    · next h => exact stringTail?_control h
    · next h => exact stringTail?_plain hquote hslash h

/-- A printed string is read up to its closing quote. -/
theorem stringTail?_quoted (s : String) (rest : List Char) :
    stringTail? [] (s.toList.flatMap escape ++ '"' :: rest) = some (s, rest) := by
  have hchars : ∀ cs read : List Char, stringTail? read (cs.flatMap escape ++ '"' :: rest) =
      some (String.ofList (read.reverse ++ cs), rest) := by
    intro cs
    induction cs with
    | nil => intro read; simp [stringTail?_close]
    | cons c cs ih =>
      intro read
      rw [List.flatMap_cons, List.append_assoc, stringTail?_escape, ih]
      simp
  rw [hchars]
  simp

theorem quoted_append (s : String) (rest : List Char) :
    quoted s ++ rest = '"' :: (s.toList.flatMap escape ++ '"' :: rest) := by
  simp [quoted]

end

end Taskweave.Json
