import Mathlib.Data.String.Basic
import Taskweave.Proofs.Text.Blank
import Taskweave.Proofs.Text.Padded
import Taskweave.Proofs.Unicode.Lowercase
import Taskweave.Time.Duration

/-!
# Which texts are durations

`Duration.IsWritten` is the written form of a duration: digits, blanks, and a unit, which makes of the
number what `Duration.Measures` says. `Duration.parse` cuts a text where its digits end. That place is
the only one where the cut can be, since neither a blank nor a letter of a unit is a digit, and since
no unit has a blank in it the blanks before the unit are those that are trimmed away
(`Duration.isWritten_iff`). A digit is one byte, so the place is the same counted in characters and in
bytes (`Duration.exists_cut`). Hence a text is read exactly if it is the written form of a duration,
and as that duration (`Duration.parsed`).
-/

namespace Taskweave.Duration

/-- What a unit, named in lower case, makes of a number; a product of more than 64 bits is no
duration. -/
inductive Measures : String → Nat → Duration → Prop
  | milliseconds (n : Nat) : Measures "ms" n (ofMillis n)
  | seconds (n : Nat) (h : n < 2 ^ 64) : Measures "s" n (ofSeconds n)
  | minutes (n : Nat) (h : n * 60 < 2 ^ 64) : Measures "m" n (ofSeconds (n * 60))
  | hours (n : Nat) (h : n * 3600 < 2 ^ 64) : Measures "h" n (ofSeconds (n * 3600))

/-- The written form of a duration: the digits of a number of 64 bits, blanks, and a unit in small or
capital letters. -/
def IsWritten (cs : List Char) (d : Duration) : Prop :=
  ∃ digits gap unit : List Char, cs = digits ++ gap ++ unit ∧
    digits ≠ [] ∧ (∀ c ∈ digits, c.isDigit = true) ∧ (∀ c ∈ gap, Text.isBlank c = true) ∧
      Nat.ofDigitChars 10 digits 0 < 2 ^ 64 ∧
        Measures (Unicode.lower (String.ofList unit)) (Nat.ofDigitChars 10 digits 0) d

/-- What is read of a text. -/
structure Parsed (text : String) : Prop where
  trimmed : Text.IsTrimmed text.toList (Text.trim text).toList
  accepted : ∀ d, parse text = .ok d ↔ IsWritten (Text.trim text).toList d
  refused : (∃ fault, parse text = .error fault) ↔ ∀ d, ¬IsWritten (Text.trim text).toList d
  /-- The first character that is no digit stands as many bytes behind the beginning as characters,
  and what is before it are the digits. -/
  cut : ∀ n, (Text.trim text).toList.findIdx? (fun c => !c.isDigit) = some n →
    ∃ number rest, Text.trim text = number ++ rest ∧ number.rawEndPos = ⟨n⟩ ∧
      (∀ c ∈ number.toList, c.isDigit = true) ∧ ∀ c, rest.toList.head? = some c → c.isDigit = false
  /-- The seconds fit 64 bits. -/
  fits : ∀ d, parse text = .ok d → d.seconds < 2 ^ 64

section
variable {text name : String} {d : Duration} {n : Nat} {c : Char} {cs digits unit : List Char}

/-! ## Numbers and units -/

/-- The value of digits is the one that the core library gives them. -/
theorem digitsValue_eq (digits : List Char) : digitsValue digits = Nat.ofDigitChars 10 digits 0 := by
  rw [digitsValue, Nat.ofDigitChars]
  simp only [Nat.mul_comm]

theorem trim_ofList (cs : List Char) :
    Text.trim (String.ofList cs) = String.ofList (Text.trimChars cs) := by
  rw [Text.trim, String.toList_ofList]

/-- The units make of a number of 64 bits what they should. -/
theorem measures_iff (hn : n < limit) : Measures name n d ↔ name = "ms" ∧ d = ofMillis n ∨
    ∃ k, secondsPerUnit? name = some k ∧ n * k < limit ∧ d = ofSeconds (n * k) := by
  constructor
  · intro h
    cases h with
    | milliseconds => exact .inl ⟨rfl, rfl⟩
    | seconds => exact .inr ⟨1, rfl, by rwa [Nat.mul_one], by rw [Nat.mul_one]⟩
    | minutes _ h => exact .inr ⟨60, rfl, h, rfl⟩
    | hours _ h => exact .inr ⟨3600, rfl, h, rfl⟩
  · rintro (⟨rfl, rfl⟩ | ⟨k, hk, hlt, rfl⟩)
    · exact .milliseconds n
    · rw [secondsPerUnit?] at hk
      split at hk
      · next hname =>
        obtain rfl := Option.some.inj hk
        rw [hname, Nat.mul_one]
        exact .seconds n hn
      · split at hk
        · next hname =>
          obtain rfl := Option.some.inj hk
          exact hname ▸ .minutes n hlt
        · split at hk
          · next hname =>
            obtain rfl := Option.some.inj hk
            exact hname ▸ .hours n hlt
          · cases hk

/-- The names of units are words of plain letters. -/
theorem Measures.isPlainLetter (h : Measures name n d) :
    name ≠ "" ∧ ∀ c ∈ name.toList, Unicode.IsPlainLetter c := by
  have hall : name.toList.all (fun c => decide (Unicode.IsPlainLetter c)) = true := by
    cases h with
    | milliseconds | seconds | minutes | hours => decide
  refine ⟨?_, fun c hc => of_decide_eq_true (List.all_eq_true.1 hall c hc)⟩
  cases h with
  | milliseconds | seconds | minutes | hours => decide

/-- The seconds of a duration that is measured fit 64 bits if the number does. -/
theorem Measures.seconds_lt (h : Measures name n d) (hn : n < 2 ^ 64) : d.seconds < 2 ^ 64 := by
  have hseconds : ∀ m, (ofSeconds m).seconds = m := fun m => Nat.mul_div_cancel m (by decide)
  cases h with
  | milliseconds =>
    have hle : n * 1000000 / 1000000000 ≤ n := by omega
    exact Nat.lt_of_le_of_lt hle hn
  | seconds _ h | minutes _ h | hours _ h =>
    rw [hseconds]
    exact h

/-- A blank is no digit. -/
theorem isDigit_of_isBlank (h : Text.isBlank c = true) : c.isDigit = false := by
  rw [Bool.eq_false_iff]
  intro hdigit
  have hbounds := toNat_of_isDigit hdigit
  simp only [Text.isBlank, Bool.or_eq_true, Bool.and_eq_true, decide_eq_true_eq, beq_iff_eq] at h
  omega

/-- A letter of the name of a unit is neither a digit nor a blank. -/
theorem of_isPlainLetter_toLower (h : Unicode.IsPlainLetter c.toLower) :
    c.isDigit = false ∧ Text.isBlank c = false := by
  obtain ⟨hlow, hhigh⟩ := Unicode.bounds_of_toLower h
  constructor
  · rw [Bool.eq_false_iff]
    intro hdigit
    have hbounds := toNat_of_isDigit hdigit
    omega
  · rw [Bool.eq_false_iff]
    intro hblank
    simp only [Text.isBlank, Bool.or_eq_true, Bool.and_eq_true, decide_eq_true_eq,
      beq_iff_eq] at hblank
    omega

/-- A unit has one letter or more, and nothing in it is a digit or a blank. -/
theorem Measures.of_lower (h : Measures name n d)
    (hname : Unicode.lower (String.ofList unit) = name) :
    unit ≠ [] ∧ ∀ c ∈ unit, c.isDigit = false ∧ Text.isBlank c = false := by
  obtain ⟨hne, hplain⟩ := h.isPlainLetter
  have hletters := (Unicode.lower_eq_iff hplain).1 hname
  rw [String.toList_ofList] at hletters
  refine ⟨fun hnil => hne ?_, fun c hc => of_isPlainLetter_toLower (hplain _ ?_)⟩
  · rw [hnil, List.map_nil] at hletters
    exact String.toList_eq_nil_iff.1 hletters.symm
  · rw [← hletters]
    exact List.mem_map_of_mem hc

/-! ## The cut -/

/-- Digits end where something begins that is none. -/
theorem takeWhile_isDigit (hdigits : ∀ c ∈ digits, c.isDigit = true)
    (hhead : ∀ c, cs.head? = some c → c.isDigit = false) :
    (digits ++ cs).takeWhile Char.isDigit = digits ∧
      (digits ++ cs).dropWhile Char.isDigit = cs := by
  rw [List.takeWhile_append_of_pos hdigits, List.dropWhile_append_of_pos hdigits]
  cases cs with
  | nil => exact ⟨List.append_nil _, rfl⟩
  | cons c cs =>
    have hc : ¬c.isDigit = true := by simp [hhead c rfl]
    rw [List.takeWhile_cons_of_neg hc, List.dropWhile_cons_of_neg hc, List.append_nil]
    exact ⟨rfl, rfl⟩

/-- In the written form of a duration the number is what comes before the first character that is no
digit, and the unit what comes after it without blanks. -/
theorem isWritten_iff (hbare : Text.IsBare cs) : IsWritten cs d ↔
    cs.takeWhile Char.isDigit ≠ [] ∧ Nat.ofDigitChars 10 (cs.takeWhile Char.isDigit) 0 < limit ∧
      Measures (Unicode.lower (String.ofList (Text.trimChars (cs.dropWhile Char.isDigit))))
        (Nat.ofDigitChars 10 (cs.takeWhile Char.isDigit) 0) d := by
  constructor
  · rintro ⟨digits, gap, unit, rfl, hne, hdigits, hgap, hlt, hmeasures⟩
    obtain ⟨hunit, hletters⟩ := hmeasures.of_lower rfl
    have hhead : ∀ c, (gap ++ unit).head? = some c → c.isDigit = false := fun c hc => by
      rcases List.mem_append.1 (List.mem_of_head? hc) with hc | hc
      · exact isDigit_of_isBlank (hgap c hc)
      · exact (hletters c hc).1
    have htrim : Text.trimChars (gap ++ unit) = unit := by
      have happend := Text.trimChars_append hgap (List.forall_mem_nil _)
        (Text.IsBare.of_forall fun c hc => (hletters c hc).2)
      rwa [List.append_nil] at happend
    obtain ⟨htake, hdrop⟩ := takeWhile_isDigit hdigits hhead
    rw [List.append_assoc, htake, hdrop, htrim]
    exact ⟨hne, hlt, hmeasures⟩
  · rintro ⟨hne, hlt, hmeasures⟩
    obtain ⟨gap, back, hrest, hgap, hback, -⟩ :=
      Text.isTrimmed_trimChars (cs.dropWhile Char.isDigit)
    -- No blank stands behind the unit, since none stands at the end.
    have hnil : back = [] := by
      by_contra hback'
      obtain ⟨c, hc⟩ := Option.ne_none_iff_exists'.1 (mt List.getLast?_eq_none_iff.1 hback')
      have hlast : cs.getLast? = some c := by
        rw [← List.takeWhile_append_dropWhile (p := Char.isDigit) (l := cs), hrest,
          ← List.append_assoc, List.getLast?_append_of_ne_nil _ hback', hc]
      have hblank := hback c (List.mem_of_getLast? hc)
      rw [hbare.last c hlast] at hblank
      cases hblank
    refine ⟨_, gap, _, ?_, hne, fun c hc => List.mem_takeWhile_imp hc, hgap, hlt, hmeasures⟩
    rw [hnil, List.append_nil] at hrest
    rw [List.append_assoc, ← hrest, List.takeWhile_append_dropWhile]

/-- Digits are one byte each. -/
theorem utf8Len_of_isDigit (h : ∀ c ∈ digits, c.isDigit = true) :
    String.utf8Len digits = digits.length := by
  induction digits with
  | nil => rfl
  | cons c digits ih =>
    obtain ⟨hc, hdigits⟩ := List.forall_mem_cons.1 h
    have hone : c.utf8Size = 1 :=
      Char.utf8Size_eq_one_iff.2 (Nat.le_trans (toNat_of_isDigit hc).2 (by decide))
    rw [String.utf8Len_cons, ih hdigits, hone, List.length_cons]

/-- The place of the first character that is no digit is the same in characters and in bytes. -/
theorem exists_cut (h : text.toList.findIdx? (fun c => !c.isDigit) = some n) :
    ∃ number rest, text = number ++ rest ∧ number.rawEndPos = ⟨n⟩ ∧
      (∀ c ∈ number.toList, c.isDigit = true) ∧
        ∀ c, rest.toList.head? = some c → c.isDigit = false := by
  obtain ⟨hlt, hn, hbefore⟩ := List.findIdx?_eq_some_iff_getElem.1 h
  have hdigits : ∀ c ∈ text.toList.take n, c.isDigit = true := fun c hc => by
    obtain ⟨i, hi, rfl⟩ := List.getElem_of_mem hc
    have hin : i < n := by
      rw [List.length_take] at hi
      omega
    simpa using hbefore i hin
  refine ⟨String.ofList (text.toList.take n), String.ofList (text.toList.drop n), ?_, ?_, ?_, ?_⟩
  · rw [← String.ofList_append, List.take_append_drop, String.ofList_toList]
  · rw [String.rawEndPos_ofList, utf8Len_of_isDigit hdigits, List.length_take,
      Nat.min_eq_left (Nat.le_of_lt hlt)]
  · rwa [String.toList_ofList]
  · intro c hc
    rw [String.toList_ofList, List.head?_drop, List.getElem?_eq_getElem hlt, Option.some_inj] at hc
    subst hc
    simpa using hn

/-! ## Reading -/

/-- What refuses in one case does not succeed in it. -/
theorem ite_error_eq_ok {p : Prop} [Decidable p] {fault : DurationFault}
    {rest : Except DurationFault Duration} :
    (if p then .error fault else rest) = .ok d ↔ ¬p ∧ rest = .ok d := by
  by_cases hp : p
  · rw [if_pos hp]
    exact ⟨nofun, fun h => absurd hp h.1⟩
  · rw [if_neg hp, and_iff_right hp]

/-- What is done with a number and the name of a unit. -/
theorem measured_eq_ok (hn : n < limit) :
    (if name = "ms" then .ok (ofMillis n)
      else
        match secondsPerUnit? name with
        | none => .error (.unknownUnit name)
        | some k => if limit ≤ n * k then .error (.tooLarge text) else .ok (ofSeconds (n * k)) :
      Except DurationFault Duration) = .ok d ↔ Measures name n d := by
  rw [measures_iff hn]
  by_cases hms : name = "ms"
  · rw [if_pos hms, hms, Except.ok.injEq, eq_comm]
    exact ⟨fun h => .inl ⟨rfl, h⟩, fun h => h.elim And.right fun ⟨_, hk, _⟩ => nomatch hk⟩
  · rw [if_neg hms, or_iff_right fun h => hms h.1]
    cases hk : secondsPerUnit? name with
    | none => exact ⟨nofun, fun ⟨_, hk, _⟩ => nomatch hk⟩
    | some k =>
      dsimp only
      rw [ite_error_eq_ok, Nat.not_le, Except.ok.injEq]
      constructor
      · rintro ⟨hlt, rfl⟩
        exact ⟨k, rfl, hlt, rfl⟩
      · rintro ⟨_, heq, hlt, rfl⟩
        obtain rfl := Option.some.inj heq
        exact ⟨hlt, rfl⟩

/-- A text is read as a duration if it begins with digits of a number that fits, and what comes after
these is a unit. -/
theorem parse_eq_ok_iff : parse text = .ok d ↔
    (Text.trim text).toList.takeWhile Char.isDigit ≠ [] ∧
      Nat.ofDigitChars 10 ((Text.trim text).toList.takeWhile Char.isDigit) 0 < limit ∧
        Measures (Unicode.lower (String.ofList
            (Text.trimChars ((Text.trim text).toList.dropWhile Char.isDigit))))
          (Nat.ofDigitChars 10 ((Text.trim text).toList.takeWhile Char.isDigit) 0) d := by
  have hempty : (Text.trim text).toList.takeWhile Char.isDigit ≠ [] → (Text.trim text).toList ≠ [] :=
    fun hdigits hnil => hdigits (by rw [hnil]; rfl)
  simp only [parse, digitsValue_eq, trim_ofList, ite_error_eq_ok, List.isEmpty_iff, Nat.not_le]
  generalize hrest : (Text.trim text).toList.dropWhile Char.isDigit = rest
  generalize hname : Unicode.lower (String.ofList (Text.trimChars rest)) = name
  generalize Nat.ofDigitChars 10 ((Text.trim text).toList.takeWhile Char.isDigit) 0 = n
  constructor
  · rintro ⟨-, -, hdigits, hlt, hunit⟩
    exact ⟨hdigits, hlt, (measured_eq_ok hlt).1 hunit⟩
  · rintro ⟨hdigits, hlt, hmeasures⟩
    refine ⟨hempty hdigits, fun hnil => ?_, hdigits, hlt, (measured_eq_ok hlt).2 hmeasures⟩
    -- Nothing is no unit.
    subst hnil
    exact (hmeasures.of_lower hname).1 rfl

/-- A text is read exactly if it is the written form of a duration, but for blanks around it. -/
theorem parsed (text : String) : Parsed text := by
  have htrimmed : Text.IsTrimmed text.toList (Text.trim text).toList := by
    rw [Text.trim, String.toList_ofList]
    exact Text.isTrimmed_trimChars _
  have ⟨_, _, _, _, _, hbare⟩ := htrimmed
  have haccepted : ∀ d, parse text = .ok d ↔ IsWritten (Text.trim text).toList d := fun d =>
    parse_eq_ok_iff.trans (isWritten_iff hbare).symm
  refine ⟨htrimmed, haccepted, ?_, fun n hn => exists_cut hn, fun d hd => ?_⟩
  · simp only [← haccepted]
    cases parse text with
    | error fault => exact ⟨fun _ _ => nofun, fun _ => ⟨fault, rfl⟩⟩
    | ok d => exact ⟨nofun, fun h => absurd rfl (h d)⟩
  · obtain ⟨-, hlt, hmeasures⟩ := parse_eq_ok_iff.1 hd
    exact hmeasures.seconds_lt hlt

end

end Taskweave.Duration
