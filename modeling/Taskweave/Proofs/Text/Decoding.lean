import Taskweave.Proofs.Text.Utf8

/-!
# Decoding bytes that need not be UTF-8

Bytes that are no UTF-8 are decoded with replacement characters. What is replaced is said through the
bytes of characters alone (`Utf8.IsInvalid`): where no character is written, the bytes that go as far
as some character does are replaced together, and a byte with which no character begins by itself.
There is one way to decode bytes so (`Utf8.Decodes.unique`), and it is that of `Utf8.decodeLossy`
(`Utf8.decodeLossy_eq_iff`).

On the way to it are the bytes of a character by their form: the first one says how many follow
(`Utf8.tailLength?`), and they lie in certain ranges (`Utf8.MayFollow`). All bytes of this form are a
character (`Utf8.exists_encodeChar_iff`).
-/

namespace Taskweave.Utf8

/-- Some character begins with these bytes. -/
def Begins (bytes : List UInt8) : Prop := ∃ c, bytes <+: encodeChar c

/-- The bytes `bad` before `rest` are replaced together: no character is written there, and they go as
far as some character does, or are one byte. -/
structure IsInvalid (bad rest : List UInt8) : Prop where
  ne_nil : bad ≠ []
  no_char : ∀ c, ¬encodeChar c <+: bad ++ rest
  begins : bad.length = 1 ∨ Begins bad
  longest : ∀ more, more <+: bad ++ rest → Begins more → more.length ≤ bad.length

/-- What bytes are decoded to. -/
inductive Decodes : List UInt8 → List Char → Prop where
  | nil : Decodes [] []
  | char {c : Char} {rest : List UInt8} {cs : List Char} : Decodes rest cs →
      Decodes (encodeChar c ++ rest) (c :: cs)
  | invalid {bad rest : List UInt8} {cs : List Char} : IsInvalid bad rest → Decodes rest cs →
      Decodes (bad ++ rest) (replacement :: cs)

/-- How many bytes come after `a` in a character, if a character begins with it. -/
def tailLength? (a : UInt8) : Option Nat :=
  if a < 0x80 then some 0
  else if 0xC2 ≤ a ∧ a ≤ 0xDF then some 1
  else if 0xE0 ≤ a ∧ a ≤ 0xEF then some 2
  else if 0xF0 ≤ a ∧ a ≤ 0xF4 then some 3
  else none

/-- The bytes may come after `a` in a character. -/
def MayFollow (a : UInt8) : List UInt8 → Prop
  | [] => True
  | b :: ts => isSecond a b = true ∧ ∀ t ∈ ts, isTail t = true

/-- What is read from the beginning of `a` and more bytes, and how many of these it takes. -/
inductive Reads (a : UInt8) : List UInt8 → Option Char × Nat → Prop where
  | char {c : Char} {l rest : List UInt8} : encodeChar c = a :: l →
      Reads a (l ++ rest) (some c, l.length)
  | stray {rest : List UInt8} : tailLength? a = none → Reads a rest (none, 0)
  | short {n : Nat} {l : List UInt8} : tailLength? a = some n → l.length < n →
      MayFollow a l → Reads a l (none, l.length)
  | broken {n : Nat} {l rest : List UInt8} {b : UInt8} : tailLength? a = some n →
      l.length < n → MayFollow a l → ¬MayFollow a (l ++ [b]) →
      Reads a (l ++ b :: rest) (none, l.length)

section
variable {a b x y : UInt8} {c : Char} {n : Nat} {ts us bytes rest : List UInt8}

/-! ## Bytes as numbers -/

theorem isTail_iff : isTail b = true ↔ 0x80 ≤ b.toNat ∧ b.toNat ≤ 0xBF := by
  simp [isTail, UInt8.le_iff_toNat_le]

/-- The second byte is one that continues a character, and keeps it from having a shorter form, being
a surrogate or lying beyond the last character. -/
theorem isSecond_iff : isSecond a b = true ↔ (0x80 ≤ b.toNat ∧ b.toNat ≤ 0xBF) ∧
    (a.toNat = 0xE0 → 0xA0 ≤ b.toNat) ∧ (a.toNat = 0xED → b.toNat ≤ 0x9F) ∧
    (a.toNat = 0xF0 → 0x90 ≤ b.toNat) ∧ (a.toNat = 0xF4 → b.toNat ≤ 0x8F) := by
  simp only [isSecond, isTail, ← UInt8.toNat_inj, UInt8.le_iff_toNat_le]
  split_ifs <;> simp_all <;> omega

theorem isTail_of_isSecond (h : isSecond a b = true) : isTail b = true :=
  isTail_iff.2 (isSecond_iff.1 h).1

theorem tailLength?_eq_some_iff : tailLength? a = some n ↔
    (n = 0 ∧ a.toNat < 0x80) ∨ (n = 1 ∧ 0xC2 ≤ a.toNat ∧ a.toNat ≤ 0xDF) ∨
    (n = 2 ∧ 0xE0 ≤ a.toNat ∧ a.toNat ≤ 0xEF) ∨ (n = 3 ∧ 0xF0 ≤ a.toNat ∧ a.toNat ≤ 0xF4) := by
  simp only [tailLength?, UInt8.le_iff_toNat_le, UInt8.lt_iff_toNat_lt]
  split_ifs <;> simp_all <;> omega

theorem tailLength?_eq_one (h : 0xC2 ≤ a ∧ a ≤ 0xDF) : tailLength? a = some 1 :=
  tailLength?_eq_some_iff.2 (.inr (.inl ⟨rfl, h⟩))

theorem tailLength?_eq_two (h : 0xE0 ≤ a ∧ a ≤ 0xEF) : tailLength? a = some 2 :=
  tailLength?_eq_some_iff.2 (.inr (.inr (.inl ⟨rfl, h⟩)))

theorem tailLength?_eq_three (h : 0xF0 ≤ a ∧ a ≤ 0xF4) : tailLength? a = some 3 :=
  tailLength?_eq_some_iff.2 (.inr (.inr (.inr ⟨rfl, h⟩)))

theorem ofNat_eq_iff (h : n < 256) : UInt8.ofNat n = a ↔ n = a.toNat := by
  rw [← UInt8.toNat_inj, UInt8.toNat_ofNat', Nat.mod_eq_of_lt h]

/-! ## The bytes of a character -/

/-- The bytes of the character with a number. -/
theorem encodeChar_ofNat (h : n < 0xD800 ∨ 0xDFFF < n ∧ n < 0x110000) :
    encodeChar (Char.ofNat n) =
      if n ≤ 0x7F then [UInt8.ofNat n]
      else if n ≤ 0x7FF then [UInt8.ofNat (n / 64 % 32 + 192), UInt8.ofNat (n % 64 + 128)]
      else if n ≤ 0xFFFF then
        [UInt8.ofNat (n / 4096 % 16 + 224), UInt8.ofNat (n / 64 % 64 + 128),
          UInt8.ofNat (n % 64 + 128)]
      else
        [UInt8.ofNat (n / 262144 % 8 + 240), UInt8.ofNat (n / 4096 % 64 + 128),
          UInt8.ofNat (n / 64 % 64 + 128), UInt8.ofNat (n % 64 + 128)] := by
  have hn : (Char.ofNat n).val.toNat = n := by
    rw [Char.ofNat, dif_pos h]
    rfl
  rw [encodeChar_eq, String.utf8EncodeChar.eq_1]
  simp only [hn]

theorem encodeChar_one (ha : a.toNat < 0x80) : encodeChar (Char.ofNat a.toNat) = [a] := by
  rw [encodeChar_ofNat (by omega), if_pos (by omega), UInt8.ofNat_toNat]

theorem encodeChar_two (ha : 0xC2 ≤ a ∧ a ≤ 0xDF) (hb : isTail b = true) :
    encodeChar (Char.ofNat (a.toNat % 32 * 64 + low b)) = [a, b] := by
  have ha : 0xC2 ≤ a.toNat ∧ a.toNat ≤ 0xDF := ha
  rw [isTail_iff] at hb
  rw [low, encodeChar_ofNat (by omega), if_neg (by omega), if_pos (by omega)]
  simp only [List.cons.injEq, and_true]
  rw [ofNat_eq_iff (by omega), ofNat_eq_iff (by omega)]
  omega

theorem encodeChar_three (ha : 0xE0 ≤ a ∧ a ≤ 0xEF) (hb : isSecond a b = true)
    (hx : isTail x = true) :
    encodeChar (Char.ofNat ((a.toNat % 16 * 64 + low b) * 64 + low x)) = [a, b, x] := by
  have ha : 0xE0 ≤ a.toNat ∧ a.toNat ≤ 0xEF := ha
  rw [isSecond_iff] at hb
  rw [isTail_iff] at hx
  rw [low, low, encodeChar_ofNat (by omega), if_neg (by omega), if_neg (by omega),
    if_pos (by omega)]
  simp only [List.cons.injEq, and_true]
  rw [ofNat_eq_iff (by omega), ofNat_eq_iff (by omega), ofNat_eq_iff (by omega)]
  omega

theorem encodeChar_four (ha : 0xF0 ≤ a ∧ a ≤ 0xF4) (hb : isSecond a b = true)
    (hx : isTail x = true) (hy : isTail y = true) :
    encodeChar (Char.ofNat (((a.toNat % 8 * 64 + low b) * 64 + low x) * 64 + low y)) =
      [a, b, x, y] := by
  have ha : 0xF0 ≤ a.toNat ∧ a.toNat ≤ 0xF4 := ha
  rw [isSecond_iff] at hb
  rw [isTail_iff] at hx hy
  rw [low, low, low, encodeChar_ofNat (by omega), if_neg (by omega), if_neg (by omega),
    if_neg (by omega)]
  simp only [List.cons.injEq, and_true]
  rw [ofNat_eq_iff (by omega), ofNat_eq_iff (by omega), ofNat_eq_iff (by omega),
    ofNat_eq_iff (by omega)]
  omega

theorem mayFollow_cons :
    MayFollow a (b :: ts) ↔ isSecond a b = true ∧ ∀ t ∈ ts, isTail t = true := Iff.rfl

/-- The bytes of a character have its form. -/
theorem mayFollow_of_encodeChar_eq (h : encodeChar c = a :: ts) :
    tailLength? a = some ts.length ∧ MayFollow a ts := by
  have hvalid : c.toNat < 0xD800 ∨ 0xDFFF < c.toNat ∧ c.toNat < 0x110000 := c.valid
  rw [← Char.ofNat_toNat c, encodeChar_ofNat hvalid] at h
  generalize c.toNat = n at h hvalid
  split at h
  · obtain ⟨rfl, rfl⟩ := List.cons.inj h
    refine ⟨tailLength?_eq_some_iff.2 ?_, trivial⟩
    simp
    omega
  · split at h
    · obtain ⟨rfl, rfl⟩ := List.cons.inj h
      simp only [tailLength?_eq_some_iff, mayFollow_cons, isSecond_iff]
      simp
      omega
    · split at h
      · obtain ⟨rfl, rfl⟩ := List.cons.inj h
        simp only [tailLength?_eq_some_iff, mayFollow_cons, isSecond_iff, isTail_iff]
        simp
        omega
      · obtain ⟨rfl, rfl⟩ := List.cons.inj h
        simp only [tailLength?_eq_some_iff, mayFollow_cons, isSecond_iff, isTail_iff]
        simp
        omega

/-- Bytes are those of a character if they have the form of one. -/
theorem exists_encodeChar_iff :
    (∃ c, encodeChar c = a :: ts) ↔ tailLength? a = some ts.length ∧ MayFollow a ts := by
  refine ⟨fun ⟨c, h⟩ => mayFollow_of_encodeChar_eq h, fun ⟨hlength, hfollow⟩ => ?_⟩
  rcases tailLength?_eq_some_iff.1 hlength with ⟨hts, ha⟩ | ⟨hts, ha⟩ | ⟨hts, ha⟩ | ⟨hts, ha⟩
  · rw [List.length_eq_zero_iff.1 hts]
    exact ⟨_, encodeChar_one ha⟩
  · obtain ⟨b, rfl⟩ := List.length_eq_one_iff.1 hts
    exact ⟨_, encodeChar_two ha (isTail_of_isSecond hfollow.1)⟩
  · obtain ⟨b, x, rfl⟩ := List.length_eq_two.1 hts
    exact ⟨_, encodeChar_three ha hfollow.1 (hfollow.2 x (by simp))⟩
  · obtain ⟨b, x, y, rfl⟩ := List.length_eq_three.1 hts
    exact ⟨_, encodeChar_four ha hfollow.1 (hfollow.2 x (by simp)) (hfollow.2 y (by simp))⟩

/-! ## The beginnings of characters -/

/-- A beginning of what may follow may follow. -/
theorem MayFollow.of_append (h : MayFollow a (ts ++ us)) : MayFollow a ts := by
  cases ts with
  | nil => trivial
  | cons b ts => exact ⟨h.1, fun t ht => h.2 t (List.mem_append_left _ ht)⟩

/-- Some byte may come second. -/
theorem exists_isSecond (a : UInt8) : ∃ b, isSecond a b = true := by
  refine ⟨if a = 0xE0 then 0xA0 else if a = 0xF0 then 0x90 else 0x80, ?_⟩
  simp only [isSecond_iff, ← UInt8.toNat_inj]
  split_ifs <;> simp_all

/-- What may follow can be carried on to the length of the character. -/
theorem MayFollow.exists_append (h : MayFollow a ts) (hle : ts.length ≤ n) :
    ∃ us, (ts ++ us).length = n ∧ MayFollow a (ts ++ us) := by
  have htail : ∀ t ∈ List.replicate (n - ts.length) 0x80, isTail t = true := fun t ht => by
    rw [List.eq_of_mem_replicate ht]
    decide
  cases ts with
  | nil =>
    cases n with
    | zero => exact ⟨[], rfl, trivial⟩
    | succ n =>
      obtain ⟨b, hb⟩ := exists_isSecond a
      refine ⟨b :: List.replicate n 0x80, by simp, hb, fun t ht => htail t ?_⟩
      exact List.mem_of_mem_tail ht
  | cons b ts =>
    refine ⟨List.replicate (n - (b :: ts).length) 0x80, ?_, h.1, ?_⟩
    · rw [List.length_append, List.length_replicate]
      omega
    · exact List.forall_mem_append.2 ⟨h.2, htail⟩

/-- A character begins with bytes that have the form of its beginning. -/
theorem begins_cons_iff :
    Begins (a :: ts) ↔ ∃ n, tailLength? a = some n ∧ ts.length ≤ n ∧ MayFollow a ts := by
  constructor
  · rintro ⟨c, us, hc⟩
    obtain ⟨hlength, hfollow⟩ := mayFollow_of_encodeChar_eq hc.symm
    exact ⟨_, hlength, by simp, hfollow.of_append⟩
  · rintro ⟨n, hlength, hle, hfollow⟩
    obtain ⟨us, hus, hall⟩ := hfollow.exists_append hle
    obtain ⟨c, hc⟩ := exists_encodeChar_iff.2 ⟨hus ▸ hlength, hall⟩
    exact ⟨c, us, hc.symm⟩

/-! ## Invalid bytes -/

theorem exists_encodeChar_eq_cons (c : Char) : ∃ a ts, encodeChar c = a :: ts :=
  List.exists_cons_of_ne_nil (encodeChar_ne_nil c)

/-- Bytes are invalid together if they do not make up a character, and no more of them begin one. -/
theorem isInvalid_cons (hshort : ∀ n, tailLength? a = some n → ts.length < n)
    (hbegins : ts = [] ∨ Begins (a :: ts))
    (hlongest : ∀ us, us <+: ts ++ rest → Begins (a :: us) → us.length ≤ ts.length) :
    IsInvalid (a :: ts) rest := by
  refine ⟨List.cons_ne_nil _ _, fun c hc => ?_, hbegins.imp_left (by rintro rfl; rfl),
    fun more hmore hmorebegins => ?_⟩
  · obtain ⟨a', us, heq⟩ := exists_encodeChar_eq_cons c
    rw [heq] at hc
    obtain ⟨rfl, hus⟩ := List.cons_prefix_cons.1 hc
    exact absurd (hlongest us hus ⟨c, heq ▸ List.prefix_rfl⟩)
      (Nat.not_le.2 (hshort _ (mayFollow_of_encodeChar_eq heq).1))
  · cases more with
    | nil => exact Nat.zero_le _
    | cons a' us =>
      obtain ⟨rfl, hus⟩ := List.cons_prefix_cons.1 hmore
      exact Nat.succ_le_succ (hlongest us hus hmorebegins)

/-- A byte with which no character begins is invalid by itself. -/
theorem isInvalid_of_eq_none (h : tailLength? a = none) (rest : List UInt8) :
    IsInvalid [a] rest := by
  refine isInvalid_cons (fun n hn => ?_) (.inl rfl) fun us _ hbegins => ?_
  · rw [h] at hn
    cases hn
  · obtain ⟨n, hn, -⟩ := begins_cons_iff.1 hbegins
    rw [h] at hn
    cases hn

/-- The beginning of a character is invalid if what is after it does not carry it on. -/
theorem isInvalid_of_lt (h : tailLength? a = some n) (hlt : ts.length < n)
    (hfollow : MayFollow a ts) (hstop : ∀ b, rest.head? = some b → ¬MayFollow a (ts ++ [b])) :
    IsInvalid (a :: ts) rest := by
  refine isInvalid_cons (fun m hm => Option.some.inj (h.symm.trans hm) ▸ hlt)
    (.inr (begins_cons_iff.2 ⟨n, h, hlt.le, hfollow⟩)) fun us hus hbegins => ?_
  obtain ⟨-, -, -, hall⟩ := begins_cons_iff.1 hbegins
  by_contra hlonger
  obtain ⟨vs, rfl⟩ :=
    List.prefix_of_prefix_length_le (List.prefix_append ts rest) hus (Nat.le_of_not_le hlonger)
  cases vs with
  | nil => simp at hlonger
  | cons b vs =>
    obtain ⟨more, rfl⟩ := (List.prefix_append_right_inj ts).1 hus
    have hfollow : MayFollow a ((ts ++ [b]) ++ vs) := by
      rwa [List.append_assoc, List.singleton_append]
    exact hstop b rfl hfollow.of_append

/-- The bytes that are replaced together are determined. -/
theorem IsInvalid.unique {bad bad' rest' : List UInt8} (h : IsInvalid bad rest)
    (h' : IsInvalid bad' rest') (heq : bad ++ rest = bad' ++ rest') : bad = bad' ∧ rest = rest' := by
  have hle : ∀ {bad rest bad' rest'}, IsInvalid bad rest → IsInvalid bad' rest' →
      bad ++ rest = bad' ++ rest' → bad.length ≤ bad'.length := by
    intro bad rest bad' rest' h h' heq
    rcases h.begins with hone | hbegins
    · exact hone ▸ List.length_pos_iff.2 h'.ne_nil
    · exact h'.longest bad (heq ▸ List.prefix_append bad rest) hbegins
  exact List.append_inj heq (Nat.le_antisymm (hle h h' heq) (hle h' h heq.symm))

/-! ## Decoding -/

/-- There is one way to decode bytes. -/
theorem Decodes.unique {cs cs' : List Char} (h : Decodes bytes cs) (h' : Decodes bytes cs') :
    cs = cs' := by
  induction h generalizing cs' with
  | nil =>
    generalize hbytes : ([] : List UInt8) = bytes at h'
    cases h' with
    | nil => rfl
    | char => exact absurd (List.append_eq_nil_iff.1 hbytes.symm).1 (encodeChar_ne_nil _)
    | invalid hbad => exact absurd (List.append_eq_nil_iff.1 hbytes.symm).1 hbad.ne_nil
  | @char c rest cs _ ih =>
    generalize hbytes : encodeChar c ++ rest = bytes at h'
    cases h' with
    | nil => exact absurd (List.append_eq_nil_iff.1 hbytes).1 (encodeChar_ne_nil _)
    | char h' =>
      obtain ⟨rfl, rfl⟩ := encodeChar_append_inj.1 hbytes
      rw [ih h']
    | invalid hbad => exact absurd (hbytes ▸ List.prefix_append _ _) (hbad.no_char c)
  | @invalid bad rest cs hbad _ ih =>
    generalize hbytes : bad ++ rest = bytes at h'
    cases h' with
    | nil => exact absurd (List.append_eq_nil_iff.1 hbytes).1 hbad.ne_nil
    | @char c => exact absurd (hbytes ▸ List.prefix_append _ _) (hbad.no_char c)
    | invalid hbad' h' =>
      obtain ⟨rfl, rfl⟩ := hbad.unique hbad' hbytes
      rw [ih h']

/-- What `step` answers is what is read. -/
theorem reads_step (a : UInt8) (rest : List UInt8) : Reads a rest (step a rest) := by
  fun_cases step a rest with
  | case1 _ h => exact .char (l := []) (encodeChar_one h)
  | case2 _ h b rest hb => exact .char (l := [b]) (encodeChar_two h hb)
  | case3 _ h b rest hb =>
    exact .broken (l := []) (tailLength?_eq_one h) (by decide) trivial fun hfollow =>
      hb (isTail_of_isSecond hfollow.1)
  | case4 _ h => exact .short (l := []) (tailLength?_eq_one h) (by decide) trivial
  | case5 _ _ h b hb x rest hx => exact .char (l := [b, x]) (encodeChar_three h hb hx)
  | case6 _ _ h b hb x rest hx =>
    exact .broken (l := [b]) (tailLength?_eq_two h) (by simp) ⟨hb, nofun⟩ fun hfollow =>
      hx (hfollow.2 x (List.mem_singleton_self x))
  | case7 _ _ h b hb => exact .short (l := [b]) (tailLength?_eq_two h) (by simp) ⟨hb, nofun⟩
  | case8 _ _ h b rest hb =>
    exact .broken (l := []) (tailLength?_eq_two h) (by decide) trivial fun hfollow => hb hfollow.1
  | case9 _ _ h => exact .short (l := []) (tailLength?_eq_two h) (by decide) trivial
  | case10 _ _ _ h b hb x hx y rest hy =>
    exact .char (l := [b, x, y]) (encodeChar_four h hb hx hy)
  | case11 _ _ _ h b hb x hx y rest hy =>
    exact .broken (l := [b, x]) (tailLength?_eq_three h) (by simp) ⟨hb, by simpa using hx⟩
      fun hfollow => hy (hfollow.2 y (by simp))
  | case12 _ _ _ h b hb x hx =>
    exact .short (l := [b, x]) (tailLength?_eq_three h) (by simp) ⟨hb, by simpa using hx⟩
  | case13 _ _ _ h b hb x rest hx =>
    exact .broken (l := [b]) (tailLength?_eq_three h) (by simp) ⟨hb, nofun⟩ fun hfollow =>
      hx (hfollow.2 x (List.mem_singleton_self x))
  | case14 _ _ _ h b hb => exact .short (l := [b]) (tailLength?_eq_three h) (by simp) ⟨hb, nofun⟩
  | case15 _ _ _ h b rest hb =>
    exact .broken (l := []) (tailLength?_eq_three h) (by decide) trivial fun hfollow =>
      hb hfollow.1
  | case16 _ _ _ h => exact .short (l := []) (tailLength?_eq_three h) (by decide) trivial
  | case17 _ h₀ h₁ h₂ h₃ =>
    refine .stray ?_
    rw [tailLength?, if_neg h₀, if_neg h₁, if_neg h₂, if_neg h₃]

/-- What is read is decoded, given how the rest is. -/
theorem Reads.decodes {read : Option Char × Nat} {cs : List Char} (h : Reads a bytes read)
    (hrest : Decodes (bytes.drop read.2) cs) :
    Decodes (a :: bytes) (read.1.getD replacement :: cs) := by
  cases h with
  | @char c ts rest hc =>
    rw [List.drop_left] at hrest
    rw [← List.cons_append, ← hc]
    exact .char hrest
  | stray hnone => exact .invalid (isInvalid_of_eq_none hnone bytes) hrest
  | short hlength hlt hfollow =>
    rw [List.drop_length] at hrest
    rw [← List.append_nil (a :: bytes)]
    exact .invalid (isInvalid_of_lt hlength hlt hfollow nofun) hrest
  | @broken n ts rest b hlength hlt hfollow hstop =>
    rw [List.drop_left] at hrest
    rw [← List.cons_append]
    refine .invalid (isInvalid_of_lt hlength hlt hfollow fun b' hb' => ?_) hrest
    rwa [← Option.some.inj hb']

theorem scan_zero_cons (read : List (Option Char)) (a : UInt8) (rest : List UInt8) :
    scan read 0 (a :: rest) = scan ((step a rest).1 :: read) (step a rest).2 rest := rfl

/-- A scan adds to what was read, and passes over the bytes that belong to it. -/
theorem scan_eq (read : List (Option Char)) (skip : Nat) (bytes : List UInt8) :
    scan read skip bytes = read.reverse ++ scan [] 0 (bytes.drop skip) := by
  induction bytes generalizing read skip with
  | nil => simp [scan]
  | cons a bytes ih =>
    cases skip with
    | zero =>
      rw [scan_zero_cons, List.drop_zero, scan_zero_cons, ih, ih [(step a bytes).1]]
      simp
    | succ skip => exact ih read skip

/-- Every scan decodes its bytes. -/
theorem decodes_scan (bytes : List UInt8) :
    Decodes bytes ((scan [] 0 bytes).map fun c => c.getD replacement) := by
  cases bytes with
  | nil => exact .nil
  | cons a rest =>
    rw [scan_zero_cons, scan_eq]
    exact (reads_step a rest).decodes (decodes_scan (rest.drop (step a rest).2))
termination_by bytes.length
decreasing_by
  rw [List.length_drop, List.length_cons]
  omega

/-- Bytes are decoded to the text that `Decodes` says. -/
theorem decodeLossy_eq_iff {s : String} : decodeLossy bytes = s ↔ Decodes bytes s.toList := by
  rw [decodeLossy, ← String.toList_inj, String.toList_ofList]
  exact ⟨fun heq => heq ▸ decodes_scan bytes, fun h => (decodes_scan bytes).unique h⟩

end

end Taskweave.Utf8
