import Mathlib.Data.List.Basic
import Taskweave.Glob.Reader
import Taskweave.Proofs.Glob.Matching
import Taskweave.Store.Basic

/-!
# Reading the glob for versions

`Store.escapeChar` takes the meaning off a character, and the reader finds the one token that stands
for the character again (`Glob.Reader.foldlM_escapeChar`). So the glob for the versions of a key
without backslashes is read as one token for each character and those for the rest of the form
(`Glob.read_versionGlob`).

A backslash keeps its meaning: it is not read as a token, and what follows is read otherwise. Tokens
outside of all groups are never taken back (`Glob.Reader.outer_suffix`), so the glob, if it is read
at all, begins with the tokens for what comes before, followed by one that stands for no backslash
(`Glob.Reader.exists_read_backslash`).
-/

namespace Taskweave.Glob

/-- The tokens after those for a key in the glob for its versions. -/
def versionTail : Glob :=
  .literal '.' :: (List.replicate 8 digitToken ++ [.literal 'T', .many])

namespace Reader

section
variable {b : List Token} {c x : Char} {cs : List Char} {n : Nat}

/-- Outside of groups and classes. -/
def outside (b : List Token) : Reader := ⟨.plain, b, []⟩

/-! ## Characters without their meaning -/

theorem step_literal (h : isSpecial c = false) (hc : c ≠ '\\') :
    (outside b).step c = .ok (outside (.literal c :: b)) := by
  simp only [isSpecial, List.contains_eq_mem, decide_eq_false_iff_not, List.mem_cons,
    List.not_mem_nil, or_false, not_or] at h
  obtain ⟨hstar, hany, hopen, -, hbrace, hclose⟩ := h
  by_cases hcomma : c = ','
  · rw [hcomma]
    rfl
  · simp [step, outside, plainStep, add]

/-- A special character is read in a class of its own. -/
theorem foldlM_class (h : isSpecial c = true) :
    ['[', c, ']'].foldlM step (outside b) = .ok (outside (.byteClass false [(c, c)] :: b)) := by
  simp only [isSpecial, List.contains_eq_mem, decide_eq_true_eq, List.mem_cons, List.not_mem_nil,
    or_false] at h
  rcases h with rfl | rfl | rfl | rfl | rfl | rfl
  all_goals rfl

/-- A character other than a backslash is read as a token that stands for it. -/
theorem foldlM_escapeChar (hc : c ≠ '\\') :
    (Store.escapeChar c).foldlM step (outside b) = .ok (outside (tokenOf c :: b)) := by
  cases h : isSpecial c with
  | false =>
    have hchars : Store.escapeChar c = [c] := by
      rw [Store.escapeChar]
      exact if_neg (Bool.eq_false_iff.1 h)
    rw [hchars, tokenOf, h, List.foldlM_cons, step_literal h hc]
    rfl
  | true =>
    have hchars : Store.escapeChar c = ['[', c, ']'] := if_pos h
    rw [hchars, foldlM_class h, tokenOf, h]
    rfl

/-- A text is read on from where its beginning has led. -/
theorem foldlM_append {r r' : Reader} {ds : List Char} (h : cs.foldlM step r = .ok r') :
    (cs ++ ds).foldlM step r = ds.foldlM step r' := by
  rw [List.foldlM_append, h]
  rfl

/-- Characters other than backslashes are read as tokens that stand for them. -/
theorem foldlM_escapeChars (h : '\\' ∉ cs) : (cs.flatMap Store.escapeChar).foldlM step (outside b) =
    .ok (outside ((cs.map tokenOf).reverse ++ b)) := by
  induction cs generalizing b with
  | nil => rfl
  | cons c cs ih =>
    rw [List.mem_cons, not_or] at h
    rw [List.flatMap_cons, foldlM_append (foldlM_escapeChar (Ne.symm h.1)), ih h.2]
    simp

end

end Reader

/-- The class of the digits, as it is written. -/
def digitChars : List Char := ['[', '0', '-', '9', ']']

/-- The characters after those for a key in the glob for its versions. -/
def versionTailChars : List Char :=
  '.' :: ((List.replicate 8 digitChars).flatten ++ ['T', '*'])

theorem versionGlob_toList (path : String) : (Store.versionGlob path).toList =
    path.toList.flatMap Store.escapeChar ++ versionTailChars := by
  have hdigits : (String.join (List.replicate 8 "[0-9]")).toList =
      (List.replicate 8 digitChars).flatten := by decide
  simp only [Store.versionGlob, String.toList_append, String.toList_ofList, hdigits]
  simp [versionTailChars]

theorem foldlM_digitChars (b : List Token) (n : Nat) :
    (List.replicate n digitChars).flatten.foldlM Reader.step (Reader.outside b) =
      .ok (Reader.outside (List.replicate n digitToken ++ b)) := by
  induction n generalizing b with
  | zero => rfl
  | succ n ih =>
    have hone : digitChars.foldlM Reader.step (Reader.outside b) =
        .ok (Reader.outside (digitToken :: b)) := rfl
    rw [List.replicate_succ, List.flatten_cons, Reader.foldlM_append hone, ih, List.replicate_succ',
      List.append_assoc]
    rfl

theorem foldlM_versionTail (b : List Token) :
    versionTailChars.foldlM Reader.step (Reader.outside b) =
      .ok (Reader.outside (versionTail.reverse ++ b)) := by
  have hpoint : ['.'].foldlM Reader.step (Reader.outside b) =
      .ok (Reader.outside (.literal '.' :: b)) := rfl
  have hrest (b : List Token) : ['T', '*'].foldlM Reader.step (Reader.outside b) =
      .ok (Reader.outside (.many :: .literal 'T' :: b)) := rfl
  have htail : versionTailChars =
      ['.'] ++ ((List.replicate 8 digitChars).flatten ++ ['T', '*']) := rfl
  rw [htail, Reader.foldlM_append hpoint, Reader.foldlM_append (foldlM_digitChars _ 8), hrest]
  simp only [versionTail, List.reverse_cons, List.reverse_append, List.reverse_replicate,
    List.append_assoc]
  rfl

/-- The glob for the versions of a key without backslashes stands for the key, a point, eight digits,
a `T` and anything without a slash. -/
theorem read_versionGlob {path : String} (h : '\\' ∉ path.toList) :
    Glob.read (Store.versionGlob path) = .ok (path.toList.map tokenOf ++ versionTail) := by
  have hstart : Reader.start = Reader.outside [] := rfl
  rw [Glob.read, versionGlob_toList, hstart, Reader.foldlM_append (Reader.foldlM_escapeChars h),
    foldlM_versionTail]
  simp [bind, Except.bind, Reader.finish, Reader.outside]

/-- What the glob for the versions of a key without backslashes stands for. -/
theorem matches_versionTail {cs : List Char} : Matches versionTail cs ↔
    ∃ digits tail, cs = '.' :: (digits ++ 'T' :: tail) ∧ digits.length = 8 ∧
      (∀ c ∈ digits, c.isDigit = true) ∧ '/' ∉ tail := by
  rw [versionTail]
  cases cs with
  | nil =>
    refine iff_of_false not_matches_literal_nil ?_
    rintro ⟨_, _, h, -⟩
    cases h
  | cons c cs =>
    rw [matches_literal, matches_replicate_append]
    constructor
    · rintro ⟨rfl, digits, es, rfl, hlen, hdigits, hes⟩
      cases es with
      | nil => exact absurd hes not_matches_literal_nil
      | cons e es =>
        obtain ⟨rfl, htail⟩ := matches_literal.1 hes
        exact ⟨digits, es, rfl, hlen, hdigits, matches_many.1 htail⟩
    · rintro ⟨digits, tail, h, hlen, hdigits, htail⟩
      obtain ⟨rfl, rfl⟩ := List.cons.inj h
      exact ⟨rfl, digits, _, rfl, hlen, hdigits, matches_literal.2 ⟨rfl, matches_many.2 htail⟩⟩

/-! ## Tokens stay -/

namespace Reader

/-- The tokens outside of all groups, the last one first. -/
def outer (r : Reader) : List Token :=
  match r.groups.getLast? with
  | none => r.branch
  | some g => g.before

section
variable {r r' : Reader} {c : Char} {cs : List Char} {t : Token} {n : Nat} {b : List Token}

theorem outer_add (r : Reader) (t : Token) : r.outer <:+ (r.add t).outer := by
  rw [outer, outer, add]
  cases h : r.groups.getLast? with
  | none => exact List.suffix_cons _ _
  | some g => exact List.suffix_rfl

theorem outer_comma (r : Reader) : r.outer <:+ r.comma.outer := by
  obtain ⟨mode, branch, groups⟩ := r
  cases groups with
  | nil => exact outer_add _ _
  | cons g groups =>
    cases groups with
    | nil => exact List.suffix_rfl
    | cons g' groups => exact List.suffix_rfl

theorem outer_closeGroup (h : r.closeGroup = .ok r') : r.outer <:+ r'.outer := by
  obtain ⟨mode, branch, groups⟩ := r
  cases groups with
  | nil => cases h
  | cons g groups =>
    obtain rfl := Except.ok.inj h
    cases groups with
    | nil =>
      simp only [outer, List.getLast?_nil, List.getLast?_singleton]
      split
      · exact List.suffix_rfl
      · exact List.suffix_cons _ _
    | cons g' groups => exact List.suffix_rfl

theorem outer_classStep {k : OpenClass} (h : r.classStep k c = .ok r') : r.outer <:+ r'.outer := by
  rw [classStep] at h
  split at h
  · obtain rfl := Except.ok.inj h
    exact outer_add _ _
  · split at h
    · obtain rfl := Except.ok.inj h
      exact List.suffix_rfl
    · split at h
      · cases hrange : endRange k c with
        | error fault => rw [hrange] at h; cases h
        | ok k' =>
          rw [hrange] at h
          obtain rfl := Except.ok.inj h
          exact List.suffix_rfl
      · obtain rfl := Except.ok.inj h
        exact List.suffix_rfl

theorem outer_plainStep (h : r.plainStep c = .ok r') : r.outer <:+ r'.outer := by
  rw [plainStep.eq_def] at h
  split at h
  · obtain rfl := Except.ok.inj h
    exact outer_add _ _
  · obtain rfl := Except.ok.inj h
    exact outer_add _ _
  · obtain rfl := Except.ok.inj h
    exact List.suffix_rfl
  · obtain rfl := Except.ok.inj h
    obtain ⟨mode, branch, groups⟩ := r
    cases groups with
    | nil => exact List.suffix_rfl
    | cons g groups => exact List.suffix_rfl
  · exact outer_closeGroup h
  · obtain rfl := Except.ok.inj h
    exact outer_comma r
  · obtain rfl := Except.ok.inj h
    exact List.suffix_rfl
  · obtain rfl := Except.ok.inj h
    exact outer_add _ _

/-- Tokens outside of all groups are not taken back. -/
theorem outer_suffix (h : r.step c = .ok r') : r.outer <:+ r'.outer := by
  rw [step] at h
  split at h
  · exact outer_plainStep h
  · obtain rfl := Except.ok.inj h
    exact outer_add _ _
  · split at h
    · obtain rfl := Except.ok.inj h
      exact List.suffix_rfl
    · exact outer_classStep h
  · exact outer_classStep h

/-- Nor are they by the rest of a text. -/
theorem outer_suffix_foldlM (h : cs.foldlM step r = .ok r') : r.outer <:+ r'.outer := by
  induction cs generalizing r with
  | nil =>
    obtain rfl := Except.ok.inj h
    exact List.suffix_rfl
  | cons c cs ih =>
    rw [List.foldlM_cons] at h
    cases hstep : r.step c with
    | error fault => rw [hstep] at h; cases h
    | ok r₁ =>
      rw [hstep] at h
      exact (outer_suffix hstep).trans (ih h)

/-- A glob begins with the tokens outside of all groups. -/
theorem outer_prefix_finish {g : Glob} (h : r.finish = .ok g) : r.outer.reverse <+: g := by
  obtain ⟨mode, branch, groups⟩ := r
  cases mode with
  | plain =>
    cases groups with
    | nil =>
      obtain rfl := Except.ok.inj h
      exact List.prefix_rfl
    | cons g' groups => cases h
  | escaped => cases h
  | classOpened => cases h
  | inClass k => cases h

/-! ## Backslashes -/

/-- A run of backslashes is read as half as many, and if one is left over, the next character loses
its meaning. -/
theorem foldlM_backslashes (b : List Token) (n : Nat) :
    (List.replicate n '\\').foldlM step (outside b) =
      .ok ⟨if n % 2 = 0 then .plain else .escaped, List.replicate (n / 2) (.literal '\\') ++ b, []⟩ := by
  induction n with
  | zero => rfl
  | succ n ih =>
    rw [List.replicate_succ', foldlM_append ih]
    rcases Nat.mod_two_eq_zero_or_one n with heven | hodd
    · have hnext : (n + 1) % 2 = 1 := by omega
      have hhalf : (n + 1) / 2 = n / 2 := by omega
      rw [if_pos heven, hnext, hhalf]
      rfl
    · have hnext : (n + 1) % 2 = 0 := by omega
      have hhalf : (n + 1) / 2 = n / 2 + 1 := by omega
      rw [hodd, hnext, hhalf]
      rfl

/-- A token that stands for no text that begins with a backslash. -/
def StopsAtBackslash (t : Token) : Prop := ∀ (ts : Glob) (ds : List Char), ¬Matches (t :: ts) ('\\' :: ds)

theorem stopsAtBackslash_literal (h : c ≠ '\\') : StopsAtBackslash (.literal c) :=
  fun _ _ hmatches => h (matches_literal.1 hmatches).1.symm

theorem stopsAtBackslash_tokenOf (h : c ≠ '\\') : StopsAtBackslash (tokenOf c) :=
  fun _ _ hmatches => h (matches_tokenOf.1 hmatches).1.symm

/-- After a run of backslashes the reader finds a token that stops at one. -/
theorem exists_token_after_run (escaped : Bool) (h : cs.head? ≠ some '\\') : ∃ t pre post,
    cs.flatMap Store.escapeChar ++ versionTailChars = pre ++ post ∧ StopsAtBackslash t ∧
      ∀ b, pre.foldlM step ⟨if escaped then .escaped else .plain, b, []⟩ = .ok (outside (t :: b)) := by
  cases cs with
  | nil =>
    refine ⟨.literal '.', ['.'], _, rfl, stopsAtBackslash_literal (by decide), fun b => ?_⟩
    cases escaped with
    | false => rfl
    | true => rfl
  | cons x xs =>
    have hx : x ≠ '\\' := fun heq => h (heq ▸ rfl)
    cases escaped with
    | false =>
      exact ⟨tokenOf x, Store.escapeChar x, _, by rw [List.flatMap_cons, List.append_assoc],
        stopsAtBackslash_tokenOf hx, fun b => foldlM_escapeChar hx⟩
    | true =>
      -- Only the first of the characters for `x` loses its meaning.
      cases hspecial : isSpecial x with
      | false =>
        have hchars : Store.escapeChar x = [x] := if_neg (Bool.eq_false_iff.1 hspecial)
        exact ⟨.literal x, [x], _, by rw [List.flatMap_cons, hchars, List.append_assoc],
          stopsAtBackslash_literal hx, fun b => rfl⟩
      | true =>
        have hchars : Store.escapeChar x = ['[', x, ']'] := if_pos hspecial
        exact ⟨.literal '[', ['['], _, by
          rw [List.flatMap_cons, hchars, List.append_assoc, List.cons_append, List.singleton_append],
          stopsAtBackslash_literal (by decide), fun b => rfl⟩

end

/-- A text that begins with a run of a character, and goes on with another or ends. -/
theorem exists_run (c : Char) (cs : List Char) :
    ∃ n ds, cs = List.replicate n c ++ ds ∧ ds.head? ≠ some c := by
  induction cs with
  | nil => exact ⟨0, [], rfl, nofun⟩
  | cons d cs ih =>
    by_cases h : d = c
    · obtain ⟨n, ds, rfl, hds⟩ := ih
      exact ⟨n + 1, ds, by rw [h, List.replicate_succ, List.cons_append], hds⟩
    · exact ⟨0, d :: cs, rfl, fun heq => h (Option.some.inj heq)⟩

/-- The glob for the versions of a key with a backslash, if it is read, begins with tokens for what
comes before one of its backslashes, and goes on with one that stops there. -/
theorem exists_read_backslash {path : String} (h : '\\' ∈ path.toList) :
    ∃ cs ds t, path.toList = cs ++ '\\' :: ds ∧ StopsAtBackslash t ∧
      ∀ g, Glob.read (Store.versionGlob path) = .ok g → ∃ ts, g = cs.map tokenOf ++ t :: ts := by
  obtain ⟨front, rest, hpath, hfront⟩ := List.eq_append_cons_of_mem h
  obtain ⟨n, back, rfl, hback⟩ := exists_run '\\' rest
  obtain ⟨t, pre, post, htext, ht, hpre⟩ :=
    exists_token_after_run (decide (¬(n + 1) % 2 = 0)) hback
  -- Of `n + 1` backslashes half are read as such, so that at least one is left in the key.
  have hrun : List.replicate (n + 1) '\\' = List.replicate ((n + 1) / 2) '\\' ++
      '\\' :: List.replicate (n - (n + 1) / 2) '\\' := by
    rw [← List.replicate_succ, ← List.replicate_add]
    congr 1
    omega
  refine ⟨front ++ List.replicate ((n + 1) / 2) '\\',
    List.replicate (n - (n + 1) / 2) '\\' ++ back, t, ?_, ht, fun g hg => ?_⟩
  · rw [hpath, ← List.cons_append, ← List.replicate_succ, hrun]
    simp
  · have hbackslash : ('\\' :: List.replicate n '\\').flatMap Store.escapeChar =
        List.replicate (n + 1) '\\' := by
      rw [← List.replicate_succ, List.flatMap_replicate]
      simp [Store.escapeChar]
    have hmode : (if (n + 1) % 2 = 0 then Mode.plain else .escaped) =
        if decide (¬(n + 1) % 2 = 0) = true then .escaped else .plain := by
      by_cases heven : (n + 1) % 2 = 0
      · simp [heven]
      · simp [heven]
    have hstart : Reader.start = outside [] := rfl
    have hrest := foldlM_backslashes ((front.map tokenOf).reverse ++ []) (n + 1)
    rw [hmode] at hrest
    rw [Glob.read, versionGlob_toList, hpath, ← List.cons_append, List.flatMap_append,
      List.flatMap_append, hbackslash, List.append_assoc, List.append_assoc, htext, hstart,
      foldlM_append (foldlM_escapeChars hfront), foldlM_append hrest, foldlM_append (hpre _)] at hg
    cases hpost : post.foldlM step (outside (t :: (List.replicate ((n + 1) / 2) (.literal '\\') ++
        ((front.map tokenOf).reverse ++ [])))) with
    | error fault => rw [hpost] at hg; cases hg
    | ok r =>
      rw [hpost] at hg
      have hfinish : r.finish = .ok g := hg
      have hprefix := List.reverse_prefix.2 (outer_suffix_foldlM hpost)
      obtain ⟨ts, hts⟩ := hprefix.trans (outer_prefix_finish hfinish)
      refine ⟨ts, hts.symm.trans ?_⟩
      have htoken : tokenOf '\\' = .literal '\\' := rfl
      simp [outer, outside, htoken]

end Reader

/-- A key with a backslash has no versions that the glob for them stands for. -/
theorem accepts_eq_false {path key : String} {g : Glob} (h : '\\' ∈ path.toList)
    (hg : Glob.read (Store.versionGlob path) = .ok g) (hkey : path.toList <+: key.toList) :
    g.accepts key = false := by
  obtain ⟨cs, ds, t, hpath, ht, hread⟩ := Reader.exists_read_backslash h
  obtain ⟨ts, rfl⟩ := hread g hg
  obtain ⟨more, hmore⟩ := hkey
  rw [Bool.eq_false_iff]
  intro haccepts
  obtain ⟨es, hes, hmatches⟩ := matches_map_append.1 (accepts_iff.1 haccepts)
  rw [← hmore, hpath, List.append_assoc, List.append_cancel_left_eq] at hes
  exact ht ts _ (hes ▸ hmatches)

end Taskweave.Glob
