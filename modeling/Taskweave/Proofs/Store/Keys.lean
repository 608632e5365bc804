import Mathlib.Data.List.Perm.Subperm
import Mathlib.Data.Nat.Find
import Taskweave.Proofs.Time.Stamp
import Taskweave.Store.Key

/-!
# The keys of versions

A version of a key is kept under the first candidate that is free (`Key.firstFree_eq`). Candidates
with different numbers are different (`Key.candidate_inj`), and of one instant they ascend as long as
the number has four digits (`Key.candidate_lt_candidate`): the number 10000 has one more digit than
9999 and is the smaller text (`Key.candidate_lt_of_overflow`). Those of a later microsecond are
greater, whatever their numbers are (`Key.candidate_version_lt`).

Nothing that is written behind a key can make it climb up (`Key.isAllowed_append`), so that the keys
of versions and of their accounts are allowed where the key itself is.
-/

namespace Taskweave.Key

/-- The form of the key of a version: the key, a point, eight digits, a `T` and no slash after it. -/
def IsVersionOf (path key : String) : Prop :=
  ∃ digits tail : List Char, key.toList = path.toList ++ '.' :: (digits ++ 'T' :: tail) ∧
    digits.length = 8 ∧ (∀ c ∈ digits, c.isDigit = true) ∧ '/' ∉ tail

section
variable {base path path' : String} {m n : Nat} {t t' : Instant}

/-! ## Candidates -/

/-- What a candidate adds to its base. -/
def suffixChars (n : Nat) : List Char := if n = 0 then [] else '-' :: (padded 4 n).toList

theorem candidate_toList (base : String) (n : Nat) :
    (candidate base n).toList = base.toList ++ suffixChars n := by
  rw [candidate, suffixChars]
  split
  · simp
  · simp

theorem suffixChars_of_pos (h : 0 < n) : suffixChars n = '-' :: (padded 4 n).toList :=
  if_neg (Nat.pos_iff_ne_zero.1 h)

/-- Candidates are numbered without repetition. -/
theorem candidate_inj : candidate base m = candidate base n ↔ m = n := by
  refine ⟨fun h => ?_, fun h => h ▸ rfl⟩
  have hchars : suffixChars m = suffixChars n := by
    have hlist := congrArg String.toList h
    rwa [candidate_toList, candidate_toList, List.append_cancel_left_eq] at hlist
  rcases Nat.eq_zero_or_pos m with rfl | hm
  · rcases Nat.eq_zero_or_pos n with rfl | hn
    · rfl
    · rw [suffixChars_of_pos hn, suffixChars, if_pos rfl] at hchars
      cases hchars
  · rcases Nat.eq_zero_or_pos n with rfl | hn
    · rw [suffixChars_of_pos hm, suffixChars, if_pos rfl] at hchars
      cases hchars
    · rw [suffixChars_of_pos hm, suffixChars_of_pos hn, List.cons.injEq] at hchars
      exact padded_inj.1 hchars.2

/-- Candidates ascend with their numbers as long as these have four digits. -/
theorem candidate_lt_candidate (hn : n < 10000) (h : m < n) : candidate base m < candidate base n := by
  rw [String.lt_iff_toList_lt, candidate_toList, candidate_toList]
  refine append_lt_append_left _ ?_
  rw [suffixChars_of_pos (Nat.lt_of_le_of_lt (Nat.zero_le m) h)]
  rcases Nat.eq_zero_or_pos m with rfl | hm
  · exact List.nil_lt_cons _ _
  · rw [suffixChars_of_pos hm]
    exact List.cons_lt_cons_iff.2 (.inr ⟨rfl, padded_lt_padded (by decide) hn h⟩)

/-- The first number with five digits makes a smaller text than the last one with four. -/
theorem candidate_lt_of_overflow (base : String) : candidate base 10000 < candidate base 9999 := by
  rw [String.lt_iff_toList_lt, candidate_toList, candidate_toList]
  exact append_lt_append_left _ (by decide)

/-! ## The search for a free one -/

/-- The search stops at the first candidate that is not taken. -/
theorem firstFree_eq {taken : String → Bool} {fuel : Nat}
    (hfree : taken (candidate base n) = false) (hmn : m ≤ n)
    (hbusy : ∀ k, m ≤ k → k < n → taken (candidate base k) = true) (hfuel : n ≤ m + fuel) :
    firstFree taken base fuel m = candidate base n := by
  induction fuel generalizing m with
  | zero =>
    obtain rfl : m = n := by omega
    rfl
  | succ fuel ih =>
    rw [firstFree]
    rcases Nat.eq_or_lt_of_le hmn with rfl | hlt
    · simp [hfree]
    · rw [if_pos (hbusy m (Nat.le_refl m) hlt)]
      exact ih hlt (fun k hk => hbusy k (by omega)) (by omega)

/-- As many candidates that are among some keys are no more than there are keys. -/
theorem le_length_of_candidates {keys : List String}
    (h : ∀ k, k < n → candidate base k ∈ keys) : n ≤ keys.length := by
  have hnodup : ((List.range n).map (candidate base)).Nodup :=
    List.Pairwise.map _ (fun a b hne heq => hne (candidate_inj.1 heq)) List.nodup_range
  have hsub : (List.range n).map (candidate base) ⊆ keys := by
    intro k hk
    obtain ⟨i, hi, rfl⟩ := List.mem_map.1 hk
    exact h i (List.mem_range.1 hi)
  simpa using (hnodup.subperm hsub).length_le

/-- There is a first candidate that is not among some keys. -/
theorem exists_first_candidate (base : String) (keys : List String) :
    ∃ n, candidate base n ∉ keys ∧ ∀ k, k < n → candidate base k ∈ keys := by
  have hexists : ∃ n, candidate base n ∉ keys := by
    by_contra hall
    simp only [not_exists, not_not] at hall
    have hle := le_length_of_candidates fun n (_ : n < keys.length + 1) => hall n
    omega
  exact ⟨Nat.find hexists, Nat.find_spec hexists,
    fun k hk => not_not.1 (Nat.find_min hexists hk)⟩

/-! ## Candidates of instants -/

theorem candidate_version_toList (path : String) (t : Instant) (n : Nat) :
    (candidate (version path t) n).toList = path.toList ++ '.' :: (t.stamp.toList ++ suffixChars n) := by
  rw [candidate_toList, version]
  simp

/-- The candidates of a later microsecond are greater. -/
theorem candidate_version_lt (ht : t.HasPlainYear) (ht' : t'.HasPlainYear)
    (h : t.micros < t'.micros) (m n : Nat) :
    candidate (version path t) m < candidate (version path t') n := by
  rw [String.lt_iff_toList_lt, candidate_version_toList, candidate_version_toList]
  have hlen : t.stamp.toList.length = t'.stamp.toList.length := by
    rw [Instant.length_stamp ht, Instant.length_stamp ht']
  refine append_lt_append_left _ (List.cons_lt_cons_iff.2 (.inr ⟨rfl, ?_⟩))
  exact append_lt_append_of_lt hlen (Instant.stamp_lt_stamp ht ht' h) _ _

/-- A candidate is longer than its key. -/
theorem candidate_version_ne (path : String) (t : Instant) (n : Nat) :
    candidate (version path t) n ≠ path := by
  intro h
  have hlist := congrArg String.toList h
  rw [candidate_version_toList] at hlist
  simpa using congrArg List.length hlist

/-- So is the key of its account. -/
theorem account_candidate_version_ne (path : String) (t : Instant) (n : Nat) :
    account (candidate (version path t) n) ≠ path := by
  intro h
  have hlist := congrArg String.toList h
  rw [account, String.toList_append, candidate_version_toList] at hlist
  simpa using congrArg List.length hlist

/-- The key of an account is longer than that of its version. -/
theorem account_ne (version : String) : account version ≠ version := by
  intro h
  have hlist := congrArg String.toList h
  rw [account, String.toList_append] at hlist
  simpa [metaSuffix] using congrArg List.length hlist

/-- What a candidate adds to its base ends in a digit. -/
theorem suffixChars_eq (hn : 0 < n) : ∃ cs c, suffixChars n = cs ++ [c] ∧ c.isDigit = true := by
  have hne : suffixChars n ≠ [] := by simp [suffixChars_of_pos hn]
  refine ⟨_, _, (List.dropLast_append_getLast hne).symm, ?_⟩
  have hdigits : (padded 4 n).toList ≠ [] := by
    intro h
    have hvalue := ofDigitChars_padded 4 n
    rw [h] at hvalue
    exact absurd hvalue (Nat.ne_of_lt hn)
  have hlast : (suffixChars n).getLast hne = (padded 4 n).toList.getLast hdigits := by
    simp only [suffixChars_of_pos hn]
    exact List.getLast_cons hdigits
  rw [hlast]
  exact isDigit_of_mem_padded (List.getLast_mem hdigits)

theorem slash_notMem_suffixChars (n : Nat) : '/' ∉ suffixChars n := by
  rw [suffixChars]
  split
  · exact List.not_mem_nil
  · intro h
    rcases List.mem_cons.1 h with h | h
    · exact absurd h (by decide)
    · exact absurd (isDigit_of_mem_padded h) (by decide)

/-- Candidates have the form of versions. -/
theorem isVersionOf_candidate (ht : t.HasPlainYear) (path : String) (n : Nat) :
    IsVersionOf path (candidate (version path t) n) := by
  obtain ⟨digits, clock, hstamp, hlen, hdigits, hclock⟩ := Instant.stamp_shape ht
  refine ⟨digits, clock ++ ['Z'] ++ suffixChars n, ?_, hlen, hdigits, ?_⟩
  · rw [candidate_version_toList, hstamp]
    simp
  · intro h
    rw [List.mem_append, List.mem_append, List.mem_singleton] at h
    rcases h with (h | h) | h
    · rcases hclock _ h with h | h
      · exact absurd h (by decide)
      · exact absurd h (by decide)
    · exact absurd h (by decide)
    · exact slash_notMem_suffixChars n h

/-- A text that does not end in `n` is not the key of an account. -/
theorem isMeta_eq_false {key : String} {c : Char} (cs : List Char) (h : key.toList = cs ++ [c])
    (hc : c ≠ 'n') : isMeta key = false := by
  rw [isMeta, Bool.eq_false_iff, Ne, List.isSuffixOf_iff_suffix, h]
  rintro ⟨front, hfront⟩
  have hmeta : metaSuffix.toList = ".meta.jso".toList ++ ['n'] := by decide
  rw [hmeta, ← List.append_assoc] at hfront
  exact hc (List.append_inj' hfront rfl |>.2 |> List.cons.inj |>.1).symm

/-- Candidates are not keys of accounts. -/
theorem isMeta_candidate (ht : t.HasPlainYear) (path : String) (n : Nat) :
    isMeta (candidate (version path t) n) = false := by
  rcases Nat.eq_zero_or_pos n with rfl | hn
  · obtain ⟨digits, clock, hstamp, -⟩ := Instant.stamp_shape ht
    refine isMeta_eq_false (c := 'Z') (path.toList ++ '.' :: (digits ++ 'T' :: clock)) ?_ (by decide)
    rw [candidate_version_toList, hstamp]
    simp [suffixChars]
  · obtain ⟨cs, c, hcs, hc⟩ := suffixChars_eq hn
    refine isMeta_eq_false (c := c) (path.toList ++ '.' :: (t.stamp.toList ++ cs)) ?_ ?_
    · rw [candidate_version_toList, hcs]
      simp
    · rintro rfl
      exact absurd hc (by decide)

/-- The key of an account is one. -/
@[simp] theorem isMeta_account (version : String) : isMeta (account version) = true := by
  rw [isMeta, account, List.isSuffixOf_iff_suffix, String.toList_append]
  exact List.suffix_append _ _

end

/-! ## Allowed keys -/

section
variable {isCut : Char → Bool}

/-- Characters at which nothing is cut go into the current piece. -/
theorem piecesFrom_of_forall {cs : List Char} (h : ∀ c ∈ cs, isCut c = false) (read : List String)
    (piece : List Char) : Text.piecesFrom isCut read piece cs =
      read.reverse ++ [String.ofList (piece.reverse ++ cs)] := by
  induction cs generalizing piece with
  | nil => simp [Text.piecesFrom]
  | cons c cs ih =>
    obtain ⟨hc, hcs⟩ := List.forall_mem_cons.1 h
    rw [Text.piecesFrom, hc]
    simp [ih hcs]

/-- What is added to a text goes into its last piece if nothing is cut in it. -/
theorem exists_piecesFrom (isCut : Char → Bool) (cs : List Char) (read : List String)
    (piece : List Char) :
    ∃ front last, Text.piecesFrom isCut read piece cs = front ++ [String.ofList last] ∧
      ∀ ds, (∀ c ∈ ds, isCut c = false) →
        Text.piecesFrom isCut read piece (cs ++ ds) = front ++ [String.ofList (last ++ ds)] := by
  induction cs generalizing read piece with
  | nil => exact ⟨read.reverse, piece.reverse, by simp [Text.piecesFrom],
      fun ds hds => piecesFrom_of_forall hds read piece⟩
  | cons c cs ih =>
    cases hc : isCut c with
    | true =>
      obtain ⟨front, last, heq, happend⟩ := ih (String.ofList piece.reverse :: read) []
      exact ⟨front, last, by simp [Text.piecesFrom, hc, heq],
        fun ds hds => by simp [Text.piecesFrom, hc, happend ds hds]⟩
    | false =>
      obtain ⟨front, last, heq, happend⟩ := ih read (c :: piece)
      exact ⟨front, last, by simp [Text.piecesFrom, hc, heq],
        fun ds hds => by simp [Text.piecesFrom, hc, happend ds hds]⟩

end

/-- A key stays allowed when something is added to it that has no separator, and a character that is
not a point. -/
theorem isAllowed_append {path key : String} {added : List Char} {c : Char}
    (h : isAllowed path = true) (hkey : key.toList = path.toList ++ added)
    (hcut : ∀ c ∈ added, isSeparator c = false) (hc : c ∈ added) (hpoint : c ≠ '.') :
    isAllowed key = true := by
  obtain ⟨front, last, heq, happend⟩ :=
    exists_piecesFrom isSeparator path.toList [] []
  have hpieces := happend added hcut
  simp only [isAllowed, Text.pieces, Bool.and_eq_true, Bool.not_eq_true', ← hkey] at h hpieces ⊢
  obtain ⟨⟨hne, hhead⟩, hup⟩ := h
  refine ⟨⟨?_, ?_⟩, ?_⟩
  · rw [Bool.eq_false_iff, Ne, String.isEmpty_iff]
    rintro rfl
    rw [String.toList_empty, eq_comm, List.append_eq_nil_iff] at hkey
    exact absurd hc (hkey.2 ▸ List.not_mem_nil)
  · cases hchars : path.toList with
    | nil =>
      rw [String.toList_eq_nil_iff.1 hchars] at hne
      cases hne
    | cons a as =>
      rw [hchars] at hhead
      rw [hkey, hchars]
      exact hhead
  · rw [hpieces]
    rw [heq] at hup
    simp only [List.contains_eq_mem, decide_eq_false_iff_not, List.mem_append, List.mem_singleton,
      not_or] at hup ⊢
    refine ⟨hup.1, fun hlast => hpoint ?_⟩
    have hmem : c ∈ "..".toList := by
      rw [hlast, String.toList_ofList]
      exact List.mem_append_right _ hc
    simpa using hmem

/-- The accounts of allowed keys are allowed. -/
theorem isAllowed_account {version : String} (h : isAllowed version = true) :
    isAllowed (account version) = true := by
  have hsuffix : metaSuffix.toList = ['.', 'm', 'e', 't', 'a', '.', 'j', 's', 'o', 'n'] := rfl
  refine isAllowed_append (c := 'm') h String.toList_append ?_ ?_ (by decide)
  · simp [hsuffix, isSeparator]
  · simp [hsuffix]

/-- The candidates for the versions of an allowed key are allowed. -/
theorem isAllowed_candidate {path : String} (h : isAllowed path = true) (t : Instant) (n : Nat) :
    isAllowed (candidate (version path t) n) = true := by
  have hdigit : ∀ c : Char, c.isDigit = true → isSeparator c = false := by
    intro c hc
    rw [isSeparator, Bool.or_eq_false_iff, beq_eq_false_iff_ne, beq_eq_false_iff_ne]
    constructor
    · rintro rfl
      exact absurd hc (by decide)
    · rintro rfl
      exact absurd hc (by decide)
  have hstamp : ∀ c ∈ t.stamp.toList, isSeparator c = false := by
    intro c hc
    rcases Instant.isStampChar_of_mem c hc with hc | hc
    · exact hdigit c hc
    · exact (show ∀ c ∈ ['+', '-', 'T', '.', 'Z'], isSeparator c = false by simp [isSeparator]) c hc
  obtain ⟨front, micro, hsplit, -⟩ := Instant.stamp_split t
  refine isAllowed_append (c := 'Z') h (candidate_version_toList path t n) ?_ ?_ (by decide)
  · rw [List.forall_mem_cons, List.forall_mem_append]
    refine ⟨by decide, hstamp, ?_⟩
    rw [suffixChars]
    split
    · exact List.forall_mem_nil _
    · exact List.forall_mem_cons.2 ⟨by decide, fun c hc => hdigit c (isDigit_of_mem_padded hc)⟩
  · rw [hsplit]
    simp

end Taskweave.Key
