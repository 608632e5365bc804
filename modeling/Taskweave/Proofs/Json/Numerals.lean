import Mathlib.Data.List.Basic
import Mathlib.Data.String.Basic
import Taskweave.Json.Printer
import Taskweave.Json.Reader
import Taskweave.Proofs.Text.Padded

/-!
# Numbers are spelt as numerals

A `Spelling` is the text of a numeral in its parts, and the reader takes it apart again, whatever
follows that cannot go on with it (`Json.numeral?_spelling`). Every number is printed as such a text
(`Json.exists_spelling`): an integer as its digits, a double in one of the forms of
`Binary64.Decimal.chars`. So what a printed number is read as depends on nothing but the number
(`Json.reread?`).
-/

namespace Taskweave.Json

/-- The text of a numeral in its parts. -/
structure Spelling where
  negative : Bool
  whole : List Char
  fraction : Option (List Char)
  /-- The sign of the exponent, `true` for plus, and its digits. -/
  exponent : Option (Bool × List Char)

namespace Spelling

/-- Nothing but digits, of which there is one at least. -/
def IsRun (cs : List Char) : Prop := cs ≠ [] ∧ ∀ c ∈ cs, c.isDigit = true

/-- The parts are runs of digits, and no zero leads the whole digits. -/
structure Valid (p : Spelling) : Prop where
  whole : IsRun p.whole
  leading : p.whole.head? = some '0' → p.whole = ['0']
  fraction : ∀ cs, p.fraction = some cs → IsRun cs
  exponent : ∀ plus cs, p.exponent = some (plus, cs) → IsRun cs

/-- The characters of a fraction. -/
def fractionChars : Option (List Char) → List Char
  | none => []
  | some cs => '.' :: cs

/-- The characters of an exponent. -/
def exponentChars : Option (Bool × List Char) → List Char
  | none => []
  | some (plus, cs) => 'e' :: (if plus then '+' else '-') :: cs

/-- The characters after the sign. -/
def unsignedChars (p : Spelling) : List Char :=
  p.whole ++ (fractionChars p.fraction ++ exponentChars p.exponent)

/-- The characters. -/
def chars (p : Spelling) : List Char :=
  if p.negative then '-' :: p.unsignedChars else p.unsignedChars

/-- The values of digits. -/
def values (cs : List Char) : List Nat := cs.map fun c => c.toNat - '0'.toNat

/-- The numeral that is spelt. -/
def numeral (p : Spelling) : Numeral :=
  ⟨p.negative, values p.whole, p.fraction.map values, p.exponent.map fun e => (e.1, values e.2)⟩

end Spelling

/-- A text that a numeral does not go on with. -/
def Ends (rest : List Char) : Prop :=
  ∀ c, rest.head? = some c → c.isDigit = false ∧ c ≠ '.' ∧ c ≠ 'e' ∧ c ≠ 'E'

section
variable {cs rest : List Char} {p : Spelling} {c : Char}

theorem ends_nil : Ends [] := nofun

theorem ends_cons (h : c.isDigit = false) (hpoint : c ≠ '.') (he : c ≠ 'e') (hE : c ≠ 'E') :
    Ends (c :: rest) := by
  intro d hd
  obtain rfl := Option.some.inj hd
  exact ⟨h, hpoint, he, hE⟩

/-! ## Parts of a numeral -/

/-- Digits are read up to the first other character. -/
theorem digits_append (h : ∀ c ∈ cs, c.isDigit = true)
    (hrest : ∀ c, rest.head? = some c → c.isDigit = false) :
    digits (cs ++ rest) = (Spelling.values cs, rest) := by
  have hhead : rest.takeWhile Char.isDigit = [] ∧ rest.dropWhile Char.isDigit = rest := by
    cases rest with
    | nil => exact ⟨rfl, rfl⟩
    | cons c rest =>
      have hc := hrest c rfl
      simp [hc]
  rw [digits, List.takeWhile_append_of_pos h, List.dropWhile_append_of_pos h, hhead.1, hhead.2,
    List.append_nil]
  rfl

theorem values_ne_nil (h : cs ≠ []) : Spelling.values cs ≠ [] := by
  simpa [Spelling.values] using h

/-- The exponent of a spelling is read. -/
theorem exponent?_append {e : Option (Bool × List Char)}
    (h : ∀ plus cs, e = some (plus, cs) → Spelling.IsRun cs) (hrest : Ends rest) :
    exponent? (Spelling.exponentChars e ++ rest) =
      some (e.map fun e => (e.1, Spelling.values e.2), rest) := by
  cases e with
  | none =>
    cases rest with
    | nil => rfl
    | cons c rest =>
      obtain ⟨-, -, he, hE⟩ := hrest c rfl
      rw [Spelling.exponentChars, List.nil_append, exponent?, if_neg (by simp [he, hE])]
      rfl
  | some e =>
    obtain ⟨plus, ds⟩ := e
    obtain ⟨hne, hdigits⟩ := h plus ds rfl
    have hsign : exponentSign ((if plus then '+' else '-') :: (ds ++ rest)) = (plus, ds ++ rest) := by
      cases plus with
      | true => rfl
      | false => rfl
    have hread := digits_append hdigits fun c hc => (hrest c hc).1
    obtain ⟨d, more, hcons⟩ := List.exists_cons_of_ne_nil (values_ne_nil hne)
    rw [Spelling.exponentChars, List.cons_append, List.cons_append, exponent?, if_pos (.inl rfl), hsign]
    simp only [hread, hcons, Option.map_some]

/-- What comes after the digits of a fraction ends it. -/
theorem head?_exponentChars {e : Option (Bool × List Char)} (hrest : Ends rest) :
    ∀ c, (Spelling.exponentChars e ++ rest).head? = some c → c.isDigit = false ∧ c ≠ '.' := by
  intro c hc
  cases e with
  | none => exact ⟨(hrest c hc).1, (hrest c hc).2.1⟩
  | some e =>
    obtain rfl := Option.some.inj hc
    decide

/-- The fraction of a spelling is read. -/
theorem fraction?_append {f : Option (List Char)} (h : ∀ cs, f = some cs → Spelling.IsRun cs)
    (hrest : ∀ c, rest.head? = some c → c.isDigit = false ∧ c ≠ '.') :
    fraction? (Spelling.fractionChars f ++ rest) = some (f.map Spelling.values, rest) := by
  cases f with
  | none =>
    rw [Spelling.fractionChars, List.nil_append, fraction?.eq_def]
    split
    · exact absurd rfl (hrest '.' rfl).2
    · rfl
  | some ds =>
    obtain ⟨hne, hdigits⟩ := h ds rfl
    have hread := digits_append hdigits fun c hc => (hrest c hc).1
    obtain ⟨d, more, hcons⟩ := List.exists_cons_of_ne_nil (values_ne_nil hne)
    rw [Spelling.fractionChars, List.cons_append, fraction?, hread]
    simp only [hcons, Option.map_some]

/-- What comes after the whole digits ends them. -/
theorem head?_fractionChars {f : Option (List Char)} {e : Option (Bool × List Char)}
    (hrest : Ends rest) : ∀ c, (Spelling.fractionChars f ++ (Spelling.exponentChars e ++ rest)).head? =
      some c → c.isDigit = false := by
  intro c hc
  cases f with
  | none => exact (head?_exponentChars hrest c hc).1
  | some cs =>
    obtain rfl := Option.some.inj hc
    decide

/-! ## Whole numerals -/

/-- The first character of a spelling is a digit or the sign. -/
theorem Spelling.Valid.head? (h : p.Valid) :
    ∃ c cs, p.chars = c :: cs ∧ (c.isDigit = true ∨ c = '-') := by
  obtain ⟨hne, hdigits⟩ := h.whole
  obtain ⟨c, cs, hcons⟩ := List.exists_cons_of_ne_nil hne
  rw [Spelling.chars, Spelling.unsignedChars, hcons]
  split
  · exact ⟨'-', _, rfl, .inr rfl⟩
  · exact ⟨c, _, rfl, .inl (hdigits c (hcons ▸ List.mem_cons_self))⟩

/-- The sign of a spelling is read. -/
theorem sign_append (h : p.Valid) (rest : List Char) :
    sign (p.chars ++ rest) = (p.negative, p.unsignedChars ++ rest) := by
  rw [Spelling.chars]
  cases hneg : p.negative with
  | true => rfl
  | false =>
    obtain ⟨hne, hdigits⟩ := h.whole
    obtain ⟨c, cs, hcons⟩ := List.exists_cons_of_ne_nil hne
    have hc := hdigits c (hcons ▸ List.mem_cons_self)
    rw [if_neg Bool.false_ne_true, Spelling.unsignedChars, hcons, List.cons_append, List.cons_append,
      sign.eq_def]
    split
    · next heq => exact absurd hc (by rw [(List.cons.inj heq).1]; decide)
    · rfl

/-- Of several digits the first is no zero. -/
theorem Spelling.Valid.values_ne {d : Nat} {more : List Nat} (h : p.Valid) :
    Spelling.values p.whole ≠ 0 :: d :: more := by
  intro heq
  obtain ⟨hne, hdigits⟩ := h.whole
  obtain ⟨c, cs, hcons⟩ := List.exists_cons_of_ne_nil hne
  have hc := toNat_of_isDigit (hdigits c (hcons ▸ List.mem_cons_self))
  have hvalue : c.toNat - 48 = 0 := by
    rw [hcons] at heq
    exact (List.cons.inj heq).1
  have hzero : c = '0' := Char.toNat_inj.1 (show c.toNat = 48 by omega)
  have hwhole := h.leading (by rw [hcons, hzero]; rfl)
  rw [hwhole] at heq
  cases (List.cons.inj heq).2

/-- A spelling is read as its numeral, up to where it ends. -/
theorem numeral?_spelling (h : p.Valid) (hrest : Ends rest) :
    numeral? (p.chars ++ rest) = some (p.numeral, rest) := by
  have hwhole := digits_append h.whole.2 (head?_fractionChars (f := p.fraction) (e := p.exponent) hrest)
  have hfraction := fraction?_append h.fraction (head?_exponentChars (e := p.exponent) hrest)
  have hexponent := exponent?_append h.exponent hrest
  have hchars : p.unsignedChars ++ rest = p.whole ++ (Spelling.fractionChars p.fraction ++
      (Spelling.exponentChars p.exponent ++ rest)) := by
    simp [Spelling.unsignedChars]
  rw [numeral?, sign_append h]
  simp only [hchars, hwhole]
  split
  · next heq => exact absurd (congrArg Prod.fst heq) (values_ne_nil h.whole.1)
  · next d more _ heq => exact absurd (congrArg Prod.fst heq) h.values_ne
  · next heq =>
    obtain ⟨rfl, rfl⟩ := Prod.mk.inj heq
    simp only [hfraction, hexponent, Option.bind_eq_bind, Option.bind_some]
    rfl

end

/-! ## Printed numbers -/

namespace Spelling

section
variable {n : Nat} {cs ds : List Char}

/-- A run of digits may be longer. -/
theorem IsRun.append (h : IsRun cs) (hds : ∀ c ∈ ds, c.isDigit = true) : IsRun (cs ++ ds) :=
  ⟨by simp [h.1], List.forall_mem_append.2 ⟨h.2, hds⟩⟩

theorem isDigit_of_mem_replicate {k : Nat} : ∀ c ∈ List.replicate k '0', c.isDigit = true := by
  intro c hc
  rw [List.eq_of_mem_replicate hc]
  decide

/-- The decimal form of a number is a run of digits. -/
theorem isRun_toDigits (n : Nat) : IsRun (Nat.toDigits 10 n) :=
  ⟨Nat.toDigits_ne_nil, fun _ hc => Nat.isDigit_of_mem_toDigits (by decide) (by decide) hc⟩

/-- No zero leads the decimal form of a number other than zero. -/
theorem head?_toDigits (h : (Nat.toDigits 10 n).head? = some '0') : n = 0 := by
  induction n using Nat.strongRecOn with
  | _ n ih =>
    rw [Nat.toDigits_eq_if (by decide)] at h
    split at h
    · next hlt =>
      have hall : ∀ k : Fin 10, Nat.digitChar k = '0' → k.1 = 0 := by decide
      exact hall ⟨n, hlt⟩ (Option.some.inj h)
    · next hge =>
      rw [List.head?_append_of_ne_nil _ Nat.toDigits_ne_nil] at h
      have hquotient := ih (n / 10) (by omega) h
      omega

/-- The decimal form of a number is a valid whole. -/
theorem valid_toDigits (negative : Bool) (n : Nat) :
    (⟨negative, Nat.toDigits 10 n, none, none⟩ : Spelling).Valid where
  whole := isRun_toDigits n
  leading h := by
    have hzero : n = 0 := head?_toDigits h
    subst hzero
    rfl
  fraction := nofun
  exponent := nofun

/-- A text without a sign that is spelt. -/
def Unsigned (cs : List Char) : Prop :=
  ∀ negative, ∃ p : Spelling, p.Valid ∧ p.negative = negative ∧ p.unsignedChars = cs

/-- Whole digits and a fraction are spelt. -/
theorem unsigned_fraction (hcs : IsRun cs) (hlead : cs.head? = some '0' → cs = ['0']) (hds : IsRun ds) :
    Unsigned (cs ++ '.' :: ds) := by
  intro negative
  refine ⟨⟨negative, cs, some ds, none⟩, ⟨hcs, hlead, fun _ h => Option.some.inj h ▸ hds, nofun⟩, rfl, ?_⟩
  simp [unsignedChars, fractionChars, Spelling.exponentChars]

/-- A digit other than zero, a fraction if there are more of them, and an exponent are spelt. -/
theorem unsigned_exponent {c : Char} {f : Option (List Char)} (e : Int) (hc : c.isDigit = true)
    (hzero : c ≠ '0') (hf : ∀ ds, f = some ds → IsRun ds) :
    Unsigned (c :: (fractionChars f ++ Binary64.exponentChars e)) := by
  intro negative
  refine ⟨⟨negative, [c], f, some (decide (¬e < 0), Nat.toDigits 10 e.natAbs)⟩, ⟨?_, ?_, hf, ?_⟩, rfl, ?_⟩
  · exact ⟨List.cons_ne_nil _ _, List.forall_mem_singleton.2 hc⟩
  · exact fun h => absurd (Option.some.inj h) hzero
  · intro plus cs h
    obtain ⟨rfl, rfl⟩ := Prod.mk.inj (Option.some.inj h)
    exact isRun_toDigits _
  · by_cases he : e < 0
    · simp [unsignedChars, Spelling.exponentChars, Binary64.exponentChars, Binary64.digitChars, he]
    · simp [unsignedChars, Spelling.exponentChars, Binary64.exponentChars, Binary64.digitChars, he]

/-- Digits of which no zero leads, with an exponent, are spelt. -/
theorem unsigned_scientific (ds : List Char) (e : Int) : IsRun ds → ds.head? ≠ some '0' →
    Unsigned (match ds with
      | [c] => c :: Binary64.exponentChars e
      | c :: rest => c :: '.' :: rest ++ Binary64.exponentChars e
      | [] => []) := by
  rintro ⟨hne, hdigits⟩ hlead
  cases ds with
  | nil => exact absurd rfl hne
  | cons c rest =>
    obtain ⟨hc, hrest⟩ := List.forall_mem_cons.1 hdigits
    have hzero : c ≠ '0' := fun heq => hlead (heq ▸ rfl)
    cases rest with
    | nil => exact unsigned_exponent (f := none) e hc hzero nofun
    | cons d rest =>
      exact unsigned_exponent (f := some (d :: rest)) e hc hzero fun _ heq =>
        Option.some.inj heq ▸ ⟨List.cons_ne_nil _ _, hrest⟩

/-- A decimal is written in one of the forms of a numeral. -/
theorem unsigned_decimal (d : Binary64.Decimal) : Unsigned d.chars := by
  have hrun : IsRun (Binary64.digitChars d.digits) := isRun_toDigits d.digits
  have hlead : d.digits ≠ 0 → (Binary64.digitChars d.digits).head? ≠ some '0' :=
    fun h => mt head?_toDigits h
  have hpoint : IsRun ['0'] := ⟨List.cons_ne_nil _ _, List.forall_mem_singleton.2 rfl⟩
  simp only [Binary64.Decimal.chars]
  generalize Binary64.digitChars d.digits = ds at hrun hlead
  by_cases hzero : d.digits = 0
  · rw [if_pos hzero]
    show Unsigned (['0'] ++ '.' :: ['0'])
    exact unsigned_fraction hpoint (fun _ => rfl) hpoint
  rw [if_neg hzero]
  obtain ⟨hne, hdigits⟩ := hrun
  have hlead := hlead hzero
  by_cases hwhole : 0 ≤ d.scale ∧ (ds.length : Int) + d.scale ≤ 16
  · rw [if_pos hwhole]
    refine unsigned_fraction (IsRun.append ⟨hne, hdigits⟩ isDigit_of_mem_replicate) (fun h => ?_) hpoint
    rw [List.head?_append_of_ne_nil _ hne] at h
    exact absurd h hlead
  rw [if_neg hwhole]
  by_cases hmiddle : 0 < (ds.length : Int) + d.scale ∧ (ds.length : Int) + d.scale ≤ 16
  · -- The point stands between two of the digits.
    rw [if_pos hmiddle]
    obtain ⟨k, hk⟩ : ∃ k : Nat, ((ds.length : Int) + d.scale).toNat = k := ⟨_, rfl⟩
    have hlt : 0 < k ∧ k < ds.length := by omega
    rw [hk]
    refine unsigned_fraction ⟨?_, fun c hc => hdigits c (List.mem_of_mem_take hc)⟩ (fun h => ?_)
      ⟨?_, fun c hc => hdigits c (List.mem_of_mem_drop hc)⟩
    · rw [Ne, ← List.length_eq_zero_iff, List.length_take]
      omega
    · rw [List.head?_take, if_neg (by omega)] at h
      exact absurd h hlead
    · rw [Ne, ← List.length_eq_zero_iff, List.length_drop]
      omega
  rw [if_neg hmiddle]
  by_cases hsmall : -5 < (ds.length : Int) + d.scale ∧ (ds.length : Int) + d.scale ≤ 0
  · rw [if_pos hsmall]
    show Unsigned (['0'] ++ '.' :: _)
    refine unsigned_fraction hpoint (fun _ => rfl) ⟨by simp [hne], ?_⟩
    exact List.forall_mem_append.2 ⟨isDigit_of_mem_replicate, hdigits⟩
  rw [if_neg hsmall]
  exact unsigned_scientific ds _ ⟨hne, hdigits⟩ hlead

end

end Spelling

/-- A number is printed as a numeral is spelt. -/
theorem exists_spelling (n : Number) : ∃ p : Spelling, p.Valid ∧ numberChars n = p.chars := by
  cases n with
  | int n =>
    refine ⟨⟨decide (n < 0), Nat.toDigits 10 n.natAbs, none, none⟩, Spelling.valid_toDigits _ _, ?_⟩
    by_cases h : n < 0
    · simp [numberChars, Spelling.chars, Spelling.unsignedChars, Spelling.fractionChars,
        Spelling.exponentChars, h]
    · simp [numberChars, Spelling.chars, Spelling.unsignedChars, Spelling.fractionChars,
        Spelling.exponentChars, h]
  | float x =>
    obtain ⟨p, hp, hnegative, hchars⟩ := Spelling.unsigned_decimal x.shortest x.negative
    refine ⟨p, hp, ?_⟩
    rw [numberChars, Binary64.text, Spelling.chars, hnegative, hchars]

/-- What a printed number is read as, if it is read. -/
def rereadNumber? (n : Number) : Option Number :=
  (numeral? (numberChars n)).bind fun r => r.1.value?

/-- A printed number is read as far as it goes, and its value depends on nothing that follows. -/
theorem numeral?_numberChars (n : Number) {rest : List Char} (hrest : Ends rest) :
    ∃ m, numeral? (numberChars n ++ rest) = some (m, rest) ∧ m.value? = rereadNumber? n := by
  obtain ⟨p, hp, hchars⟩ := exists_spelling n
  refine ⟨p.numeral, by rw [hchars, numeral?_spelling hp hrest], ?_⟩
  have halone := numeral?_spelling hp ends_nil
  rw [List.append_nil] at halone
  rw [rereadNumber?, hchars, halone, Option.bind_some]

/-- A printed number begins with a digit or a sign. -/
theorem head?_numberChars (n : Number) :
    ∃ c cs, numberChars n = c :: cs ∧ (c.isDigit = true ∨ c = '-') := by
  obtain ⟨p, hp, hchars⟩ := exists_spelling n
  exact hchars ▸ hp.head?

end Taskweave.Json
