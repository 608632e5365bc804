import Mathlib.Data.String.Basic
import Taskweave.Glob.Basic
import Taskweave.Proofs.Text.Padded
import Taskweave.Proofs.Text.Utf8

/-!
# What globs without groups stand for

`Glob.Matches` says that a glob stands for a text, given by its characters. A token that leaves at most
one rest decides what comes first and hands the rest on (`Glob.matches_cons`). This is so for a
literal character and, although a class takes a byte, for a class of ASCII characters, since no other
character has their bytes (`Glob.matches_byteClass`). So a glob that begins with characters stands
for texts that begin with them (`Glob.matches_map_append`), and a run of anything at the end stops at
a slash alone (`Glob.matches_many`).
-/

namespace Taskweave.Glob

/-- A glob stands for a text. -/
def Matches (g : Glob) (cs : List Char) : Prop :=
  (rests [Utf8.encodeChars cs] g).any List.isEmpty = true

/-- The characters that mean something in a glob and are put in a class to stand for themselves. -/
def isSpecial (c : Char) : Bool := ['*', '?', '[', ']', '\x7b', '\x7d'].contains c

/-- The token that a character is read as once its meaning has been taken off. -/
def tokenOf (c : Char) : Token := if isSpecial c then .byteClass false [(c, c)] else .literal c

/-- A digit. -/
def digitToken : Token := .byteClass false [('0', '9')]

section
variable {c d : Char} {cs ds : List Char} {t : Token} {ts : Glob} {ranges : List (Char × Char)}

theorem accepts_iff {g : Glob} {s : String} : g.accepts s = true ↔ Matches g s.toList := Iff.rfl

/-! ## Rests -/

/-- A lead that a text has is taken off. -/
theorem afterPrefix?_append (lead text : List UInt8) : afterPrefix? lead (lead ++ text) = some text := by
  induction lead with
  | nil => simp [afterPrefix?]
  | cons a lead ih => simp [afterPrefix?, ih]

theorem eq_append_of_afterPrefix? {lead text rest : List UInt8}
    (h : afterPrefix? lead text = some rest) : text = lead ++ rest := by
  induction lead generalizing text with
  | nil => simpa [afterPrefix?] using h
  | cons a lead ih =>
    cases text with
    | nil => simp [afterPrefix?] at h
    | cons b text =>
      rw [afterPrefix?] at h
      split at h
      · next hab => rw [ih h, hab, List.cons_append]
      · cases h

/-- Nothing is left of nothing. -/
theorem rests_nil (ts : Glob) : rests [] ts = [] := by
  induction ts with
  | nil => rw [rests]
  | cons t ts ih => rw [rests, List.flatMap_nil, distinct, List.foldr_nil, ih]

/-! ## One token -/

/-- A token that leaves one text hands it on. -/
theorem matches_cons (ds : List Char) (h : t.rests (Utf8.encodeChars cs) = [Utf8.encodeChars ds]) :
    Matches (t :: ts) cs ↔ Matches ts ds := by
  have hone : distinct [Utf8.encodeChars ds] = [Utf8.encodeChars ds] := rfl
  rw [Matches, rests, List.flatMap_singleton, h, hone, Matches]

/-- A token that leaves nothing stops. -/
theorem not_matches_cons (h : t.rests (Utf8.encodeChars cs) = []) : ¬Matches (t :: ts) cs := by
  rw [Matches, rests, List.flatMap_singleton, h, distinct, List.foldr_nil, rests_nil]
  simp

/-- A literal character stands for itself. -/
theorem matches_literal : Matches (.literal c :: ts) (d :: ds) ↔ d = c ∧ Matches ts ds := by
  by_cases h : d = c
  · subst h
    rw [matches_cons ds (by
      rw [Token.rests, Utf8.encodeChars_cons, afterPrefix?_append]
      rfl)]
    simp
  · have hnone : afterPrefix? (Utf8.encodeChar c) (Utf8.encodeChars (d :: ds)) = none := by
      rw [Option.eq_none_iff_forall_ne_some]
      intro rest hrest
      exact h (Utf8.encodeChar_append_inj.1 (eq_append_of_afterPrefix? hrest)).1
    refine iff_of_false (not_matches_cons ?_) fun hor => h hor.1
    rw [Token.rests, hnone]
    rfl

/-- A class of ASCII characters stands for one of them. -/
theorem matches_byteClass {p : Char → Prop} (hascii : ∀ c, p c → Utf8.IsAscii c)
    (hclass : ∀ b, inClass b ranges = true ↔ ∃ c, p c ∧ b = Utf8.asciiByte c) :
    Matches (.byteClass false ranges :: ts) (d :: ds) ↔ p d ∧ Matches ts ds := by
  by_cases hd : Utf8.IsAscii d
  · have hmem : inClass (Utf8.asciiByte d) ranges = true ↔ p d := by
      rw [hclass]
      constructor
      · rintro ⟨c, hc, heq⟩
        obtain rfl := (Utf8.asciiByte_inj hd (hascii c hc)).1 heq
        exact hc
      · exact fun h => ⟨d, h, rfl⟩
    have htext : Utf8.encodeChars (d :: ds) = Utf8.asciiByte d :: Utf8.encodeChars ds := by
      rw [Utf8.encodeChars_cons, Utf8.encodeChar_of_ascii hd]
      rfl
    by_cases h : p d
    · rw [matches_cons ds (by
        rw [htext, Token.rests, hmem.2 h]
        rfl)]
      simp [h]
    · refine iff_of_false (not_matches_cons ?_) fun hand => h hand.1
      rw [htext, Token.rests, Bool.eq_false_iff.2 fun hin => h (hmem.1 hin)]
      rfl
  · -- The first byte of a longer character is in no class of ASCII characters.
    refine iff_of_false (not_matches_cons ?_) fun hand => hd (hascii d hand.1)
    obtain ⟨b, bytes, hbytes⟩ := List.exists_cons_of_ne_nil (Utf8.encodeChar_ne_nil d)
    have hout : inClass b ranges = false := by
      rw [Bool.eq_false_iff]
      intro hin
      obtain ⟨c, hc, rfl⟩ := (hclass b).1 hin
      have hmem : Utf8.asciiByte c ∈ Utf8.encodeChar d := hbytes ▸ List.mem_cons_self
      obtain rfl := (Utf8.mem_encodeChar_iff (hascii c hc)).1 hmem
      exact hd (hascii c hc)
    rw [Utf8.encodeChars_cons, hbytes, List.cons_append, Token.rests, hout]
    rfl

/-- Neither a literal character nor a class stands for the empty text. -/
theorem not_matches_literal_nil : ¬Matches (.literal c :: ts) [] := by
  refine not_matches_cons ?_
  obtain ⟨b, bytes, hbytes⟩ := List.exists_cons_of_ne_nil (Utf8.encodeChar_ne_nil c)
  rw [Token.rests, hbytes]
  rfl

theorem not_matches_byteClass_nil : ¬Matches (.byteClass false ranges :: ts) [] :=
  not_matches_cons (by rw [Utf8.encodeChars_nil, Token.rests])

/-! ## Characters that stand for themselves -/

theorem isAscii_of_isSpecial (h : isSpecial c = true) : Utf8.IsAscii c := by
  simp only [isSpecial, List.contains_eq_mem, decide_eq_true_eq, List.mem_cons, List.not_mem_nil,
    or_false] at h
  rcases h with rfl | rfl | rfl | rfl | rfl | rfl
  all_goals decide

/-- A class of one ASCII character has its byte. -/
theorem inClass_singleton (h : Utf8.IsAscii c) (b : UInt8) :
    inClass b [(c, c)] = true ↔ ∃ d, d = c ∧ b = Utf8.asciiByte d := by
  simp [inClass, inRange, Utf8.encodeChar_of_ascii h]

/-- A character whose meaning has been taken off stands for itself. -/
theorem matches_tokenOf : Matches (tokenOf c :: ts) (d :: ds) ↔ d = c ∧ Matches ts ds := by
  rw [tokenOf]
  split
  · next h =>
    have hascii := isAscii_of_isSpecial h
    exact matches_byteClass (p := (· = c)) (fun _ heq => heq ▸ hascii) (inClass_singleton hascii)
  · exact matches_literal

theorem not_matches_tokenOf_nil : ¬Matches (tokenOf c :: ts) [] := by
  rw [tokenOf]
  split
  · exact not_matches_byteClass_nil
  · exact not_matches_literal_nil

/-- Characters stand for themselves. -/
theorem matches_map_append : Matches (cs.map tokenOf ++ ts) ds ↔ ∃ es, ds = cs ++ es ∧ Matches ts es := by
  induction cs generalizing ds with
  | nil => simp
  | cons c cs ih =>
    cases ds with
    | nil => simp [not_matches_tokenOf_nil]
    | cons d ds =>
      rw [List.map_cons, List.cons_append, matches_tokenOf, ih]
      simp [and_assoc]

/-! ## Digits -/

/-- The class of the digits has their bytes. -/
theorem inClass_digit (b : UInt8) :
    inClass b [('0', '9')] = true ↔ ∃ c : Char, c.isDigit = true ∧ b = Utf8.asciiByte c := by
  have hbytes : inClass b [('0', '9')] = true ↔ 48 ≤ b.toNat ∧ b.toNat ≤ 57 := by
    have hfirst : Utf8.encodeChar '0' = [48] := by decide
    have hlast : Utf8.encodeChar '9' = [57] := by decide
    simp [inClass, inRange, hfirst, hlast, UInt8.le_iff_toNat_le, ← UInt8.toNat_inj]
    omega
  have hdigits : ∀ k : Fin 10, (Nat.digitChar k).isDigit = true ∧
      Utf8.asciiByte (Nat.digitChar k) = UInt8.ofNat (48 + k) := by decide
  rw [hbytes]
  constructor
  · intro h
    obtain ⟨hdigit, hbyte⟩ := hdigits ⟨b.toNat - 48, by omega⟩
    refine ⟨_, hdigit, ?_⟩
    have hvalue : 48 + (b.toNat - 48) = b.toNat := by omega
    rw [hbyte, hvalue, UInt8.ofNat_toNat]
  · rintro ⟨c, hc, rfl⟩
    have hvalue := toNat_of_isDigit hc
    rw [Utf8.toNat_asciiByte (Nat.lt_of_le_of_lt hvalue.2 (by decide))]
    exact hvalue

theorem isAscii_of_isDigit (h : c.isDigit = true) : Utf8.IsAscii c :=
  Nat.lt_of_le_of_lt (toNat_of_isDigit h).2 (by decide)

/-- The class of the digits stands for a digit. -/
theorem matches_digitToken :
    Matches (digitToken :: ts) (d :: ds) ↔ d.isDigit = true ∧ Matches ts ds :=
  matches_byteClass (p := fun c => c.isDigit = true) (fun _ => isAscii_of_isDigit) inClass_digit

/-- Classes of the digits stand for as many digits. -/
theorem matches_replicate_append {n : Nat} : Matches (List.replicate n digitToken ++ ts) ds ↔
    ∃ digits es, ds = digits ++ es ∧ digits.length = n ∧ (∀ c ∈ digits, c.isDigit = true) ∧
      Matches ts es := by
  induction n generalizing ds with
  | zero => simp
  | succ n ih =>
    rw [List.replicate_succ, List.cons_append]
    cases ds with
    | nil =>
      refine iff_of_false not_matches_byteClass_nil ?_
      rintro ⟨digits, es, h, hlen, -⟩
      rw [(List.append_eq_nil_iff.1 h.symm).1] at hlen
      cases hlen
    | cons d ds =>
      rw [matches_digitToken, ih]
      constructor
      · rintro ⟨hd, digits, es, rfl, rfl, hdigits, hes⟩
        exact ⟨d :: digits, es, rfl, rfl, List.forall_mem_cons.2 ⟨hd, hdigits⟩, hes⟩
      · rintro ⟨digits, es, h, hlen, hdigits, hes⟩
        cases digits with
        | nil => cases hlen
        | cons e digits =>
          rw [List.cons_append, List.cons.injEq] at h
          obtain ⟨rfl, rfl⟩ := h
          obtain ⟨hd, hdigits⟩ := List.forall_mem_cons.1 hdigits
          exact ⟨hd, digits, es, rfl, by simpa using hlen, hdigits, hes⟩

/-! ## A run of anything -/

/-- All may be taken short of a slash. -/
theorem nil_mem_afterMany {text : List UInt8} : [] ∈ afterMany text ↔ slash ∉ text := by
  induction text with
  | nil => simp [afterMany]
  | cons b text ih =>
    rw [afterMany, List.mem_cons, List.mem_cons, not_or]
    by_cases h : b = slash
    · simp [h]
    · rw [if_neg h, ih]
      simp [Ne.symm h]

/-- The empty rest is kept where there is one. -/
theorem nil_mem_distinct {rests : List (List UInt8)} : [] ∈ distinct rests ↔ [] ∈ rests := by
  induction rests with
  | nil => exact Iff.rfl
  | cons rest rests ih =>
    have hcons : distinct (rest :: rests) = if (distinct rests).any (·.length == rest.length) then
        distinct rests else rest :: distinct rests := rfl
    rw [hcons, List.mem_cons, ← ih]
    split
    · next h =>
      refine ⟨.inr, ?_⟩
      rintro (rfl | hmem)
      · obtain ⟨kept, hkept, hlen⟩ := List.any_eq_true.1 h
        obtain rfl : kept = [] := List.length_eq_zero_iff.1 (eq_of_beq hlen)
        exact hkept
      · exact hmem
    · rw [List.mem_cons]

/-- A run of anything at the end stands for a text without a slash. -/
theorem matches_many : Matches [.many] cs ↔ '/' ∉ cs := by
  have hslash : slash = Utf8.asciiByte '/' := by decide
  rw [Matches, rests, rests, List.flatMap_singleton, Token.rests, List.any_eq_true]
  rw [← Utf8.mem_encodeChars_iff (c := '/') (by decide), ← hslash, ← nil_mem_afterMany,
    ← nil_mem_distinct]
  constructor
  · rintro ⟨rest, hrest, hempty⟩
    rwa [List.isEmpty_iff.1 hempty] at hrest
  · exact fun h => ⟨[], h, rfl⟩

end

end Taskweave.Glob
