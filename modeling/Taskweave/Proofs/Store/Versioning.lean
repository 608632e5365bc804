import Mathlib.Data.List.Sort
import Taskweave.Proofs.Store.Listing

/-!
# The versions of a key in the order of saving

An `Archive` is a store together with the versions of one key that have been saved in it, and
`Archive.reviseAll` is what becomes of it while the key is written and versions are saved. Nothing
else being kept under the keys that extend the key, the number of a version is that of versions saved
before in the same microsecond (`Numbered`). This is what every revision preserves (`Kept.revise`),
and so it holds after any number of them (`Kept.reviseAll`).

From it and from a clock that does not go back, all versions are different (`Numbered.nodup`), and
they ascend in the order of saving exactly as long as no microsecond has more than 10000 of them
(`Numbered.ascending_iff`): number 10000 has a digit more than number 9999, and comes before it.
-/

namespace Taskweave

namespace MemoryStore

/-- What is done to a key while versions of it are saved. -/
inductive Revision where
  | write (content : String)
  | save (now : Instant) (metadata : Json)

/-- What a clock has said while versions were saved. -/
def Revision.reading? : Revision → Option Instant
  | .write _ => none
  | .save now _ => some now

/-- A version and the time at which it was saved. -/
structure Version where
  time : Instant
  key : String

/-- A store with the versions of a key, the oldest first. -/
structure Archive where
  versions : List Version
  store : MemoryStore

/-- The versions that were saved in the same microsecond. -/
def ordinal (versions : List Version) (t : Instant) : Nat :=
  versions.countP fun v => v.time.micros = t.micros

/-- What becomes of an archive. A refused operation adds no version. -/
def Archive.revise (digest : String → String) (path : String) (a : Archive) : Revision → Archive
  | .write content => { a with store := (Store.write path content a.store).2 }
  | .save now metadata =>
    match Store.saveVersion digest now path metadata 0 a.store with
    | (.ok key, store) => ⟨a.versions ++ [⟨now, key⟩], store⟩
    | (.error _, store) => { a with store }

/-- What becomes of an archive by one operation after the other. -/
def Archive.reviseAll (digest : String → String) (path : String) (a : Archive)
    (revisions : List Revision) : Archive :=
  revisions.foldl (Archive.revise digest path) a

/-- Each version has the number of those saved before it in the same microsecond. -/
inductive Numbered (path : String) : List Version → Prop
  | nil : Numbered path []
  | snoc {versions : List Version} (t : Instant) (h : Numbered path versions) :
      Numbered path
        (versions ++ [⟨t, Key.candidate (Key.version path t) (ordinal versions t)⟩])

section
variable {path k : String} {versions : List Version} {v : Version} {t t' : Instant} {n : Nat}

/-! ## Numbers -/

@[simp] theorem ordinal_nil (t : Instant) : ordinal [] t = 0 := rfl

theorem ordinal_append (versions : List Version) (v : Version) (t : Instant) :
    ordinal (versions ++ [v]) t =
      ordinal versions t + if v.time.micros = t.micros then 1 else 0 := by
  simp [ordinal, List.countP_append, List.countP_singleton]

theorem ordinal_congr (versions : List Version) (h : t.micros = t'.micros) :
    ordinal versions t = ordinal versions t' := by
  rw [ordinal, ordinal, h]

/-- Within a microsecond candidates are the same. -/
theorem version_congr (path : String) (h : t.micros = t'.micros) :
    Key.version path t = Key.version path t' := by
  rw [Key.version, Key.version, Instant.stamp_congr h]

/-- The number of a version is below that of versions in its microsecond. -/
theorem Numbered.exists_number (h : Numbered path versions) (hv : v ∈ versions) :
    ∃ n, n < ordinal versions v.time ∧ v.key = Key.candidate (Key.version path v.time) n := by
  induction h with
  | nil => exact absurd hv List.not_mem_nil
  | @snoc versions t _ ih =>
    rw [List.mem_append, List.mem_singleton] at hv
    rcases hv with hv | rfl
    · obtain ⟨n, hn, hkey⟩ := ih hv
      exact ⟨n, by rw [ordinal_append]; omega, hkey⟩
    · refine ⟨ordinal versions t, ?_, rfl⟩
      rw [ordinal_append, if_pos rfl]
      exact Nat.lt_succ_self _

/-- All numbers below that of versions in a microsecond have been given. -/
theorem Numbered.exists_version (h : Numbered path versions) (hn : n < ordinal versions t) :
    ∃ v ∈ versions, v.key = Key.candidate (Key.version path t) n := by
  induction h with
  | nil => exact absurd hn (Nat.not_lt_zero n)
  | @snoc versions t' _ ih =>
    rw [ordinal_append] at hn
    by_cases hold : n < ordinal versions t
    · obtain ⟨v, hv, hkey⟩ := ih hold
      exact ⟨v, List.mem_append_left _ hv, hkey⟩
    · -- The number is that of the version which has been saved last.
      have hmicros : t'.micros = t.micros := by
        by_contra hne
        rw [if_neg hne] at hn
        exact hold hn
      rw [if_pos hmicros] at hn
      refine ⟨_, List.mem_append_right _ (List.mem_singleton_self _), ?_⟩
      have hlast : ordinal versions t' = n := by
        rw [ordinal_congr versions hmicros]
        omega
      rw [hlast, version_congr path hmicros]

/-- The next candidate of a microsecond is not that of a version. -/
theorem Numbered.key_ne (h : Numbered path versions) (hv : v ∈ versions)
    (hyear : v.time.HasPlainYear) (ht : t.HasPlainYear) :
    v.key ≠ Key.candidate (Key.version path t) (ordinal versions t) := by
  obtain ⟨n, hn, hkey⟩ := h.exists_number hv
  rw [hkey]
  rcases Int.lt_trichotomy v.time.micros t.micros with hlt | heq | hgt
  · exact ne_of_lt (Key.candidate_version_lt hyear ht hlt _ _)
  · rw [version_congr path heq, Ne, Key.candidate_inj]
    rw [ordinal_congr versions heq] at hn
    omega
  · exact (ne_of_lt (Key.candidate_version_lt ht hyear hgt _ _)).symm

/-! ## Order -/

/-- Versions are different. -/
theorem Numbered.nodup (h : Numbered path versions) (hyears : ∀ v ∈ versions, v.time.HasPlainYear) :
    (versions.map (·.key)).Nodup := by
  induction h with
  | nil => exact List.nodup_nil
  | @snoc versions t hnumbered ih =>
    obtain ⟨hold, hnew⟩ := List.forall_mem_append.1 hyears
    have hyear : t.HasPlainYear := hnew ⟨t, _⟩ (List.mem_singleton_self _)
    rw [List.map_append, List.nodup_append]
    refine ⟨ih hold, List.nodup_singleton _, ?_⟩
    intro k hk k' hk'
    obtain ⟨v, hv, rfl⟩ := List.mem_map.1 hk
    obtain rfl := List.mem_singleton.1 hk'
    exact hnumbered.key_ne hv (hold v hv) hyear

/-- The next version is greater than all before if there are less than 10000 in its microsecond. -/
theorem Numbered.key_lt (h : Numbered path versions) (hv : v ∈ versions)
    (hyear : v.time.HasPlainYear) (ht : t.HasPlainYear) (hclock : v.time.nanos ≤ t.nanos)
    (hfew : ordinal versions t < 10000) :
    v.key < Key.candidate (Key.version path t) (ordinal versions t) := by
  obtain ⟨n, hn, hkey⟩ := h.exists_number hv
  rw [hkey]
  by_cases hmicros : v.time.micros = t.micros
  · rw [version_congr path hmicros]
    rw [ordinal_congr versions hmicros] at hn
    exact Key.candidate_lt_candidate hfew hn
  · refine Key.candidate_version_lt hyear ht ?_ _ _
    rw [Instant.micros, Instant.micros] at hmicros ⊢
    omega

/-- With 10000 versions in its microsecond the next one is smaller than the last of these. -/
theorem Numbered.exists_key_gt (h : Numbered path versions) (hmany : ordinal versions t = 10000) :
    ∃ v ∈ versions, Key.candidate (Key.version path t) (ordinal versions t) < v.key := by
  obtain ⟨v, hv, hkey⟩ := h.exists_version (t := t) (n := 9999) (by omega)
  refine ⟨v, hv, ?_⟩
  rw [hkey, hmany]
  exact Key.candidate_lt_of_overflow _

/-- Versions ascend in the order of saving as long as there are at most 10000 in a microsecond, and no
longer. -/
theorem Numbered.ascending_iff (h : Numbered path versions)
    (hyears : ∀ v ∈ versions, v.time.HasPlainYear)
    (hclock : versions.Pairwise fun v v' => v.time.nanos ≤ v'.time.nanos) :
    (versions.map (·.key)).Pairwise (· < ·) ↔ ∀ t, ordinal versions t ≤ 10000 := by
  induction h with
  | nil => simp
  | @snoc versions t hnumbered ih =>
    obtain ⟨hold, hnew⟩ := List.forall_mem_append.1 hyears
    obtain ⟨hclock, -, hlast⟩ := List.pairwise_append.1 hclock
    have hyear : t.HasPlainYear := hnew ⟨t, _⟩ (List.mem_singleton_self _)
    rw [List.map_append, List.pairwise_append, ih hold hclock]
    constructor
    · rintro ⟨hfew, -, hgreater⟩ t'
      rw [ordinal_append]
      by_cases hmicros : t.micros = t'.micros
      · rw [if_pos hmicros, ← ordinal_congr versions hmicros]
        by_contra hover
        have hmany : ordinal versions t = 10000 := by
          have hle := hfew t
          omega
        obtain ⟨v, hv, hgt⟩ := hnumbered.exists_key_gt hmany
        have hlt := hgreater _ (List.mem_map_of_mem hv) _ (List.mem_singleton_self _)
        exact lt_asymm hgt hlt
      · rw [if_neg hmicros]
        exact hfew t'
    · intro hfew
      have hbefore : ordinal versions t < 10000 := by
        have hle := hfew t
        rw [ordinal_append, if_pos rfl] at hle
        omega
      refine ⟨fun t' => Nat.le_trans ?_ (hfew t'), List.pairwise_singleton _ _, ?_⟩
      · rw [ordinal_append]
        exact Nat.le_add_right _ _
      · intro k hk k' hk'
        obtain ⟨v, hv, rfl⟩ := List.mem_map.1 hk
        obtain rfl := List.mem_singleton.1 hk'
        exact hnumbered.key_lt hv (hold v hv) hyear (hlast v hv _ (List.mem_singleton_self _)) hbefore

end

/-! ## What revisions preserve -/

/-- The keys of a store that extend a key are those of its versions and their accounts. -/
structure Kept (path : String) (a : Archive) : Prop where
  wellFormed : a.store.WellFormed
  numbered : Numbered path a.versions
  extensions : ∀ k, path.toList <+: k.toList → k ≠ path →
    (k ∈ a.store.keys ↔ ∃ v ∈ a.versions, k = v.key ∨ k = Key.account v.key)

section
variable {digest : String → String} {path k : String} {s : MemoryStore} {a : Archive} {t : Instant}

/-- A store without extensions of a key keeps none of its versions. -/
theorem Kept.of_no_extension (h : s.WellFormed)
    (hnew : ∀ k ∈ s.keys, path.toList <+: k.toList → k = path) : Kept path ⟨[], s⟩ where
  wellFormed := h
  numbered := .nil
  extensions k hk hne :=
    iff_of_false (fun hmem => hne (hnew k hmem hk)) (fun ⟨_, hv, _⟩ => List.not_mem_nil hv)

/-- What is under other keys does not matter. -/
theorem Kept.of_same {s' : MemoryStore} (h : Kept path a) (hs' : s'.WellFormed)
    (hsame : ∀ k, path.toList <+: k.toList → s'.find? k = a.store.find? k) :
    Kept path { a with store := s' } where
  wellFormed := hs'
  numbered := h.numbered
  extensions k hk hne := by
    rw [mem_keys, hsame k hk, ← mem_keys]
    exact h.extensions k hk hne

theorem extends_candidate (path : String) (t : Instant) (n : Nat) :
    path.toList <+: (Key.candidate (Key.version path t) n).toList := by
  rw [Key.candidate_version_toList]
  exact List.prefix_append _ _

/-- Accounts are kept under no candidate. -/
theorem account_ne_candidate {key : String} (ht : t.HasPlainYear) (n : Nat) :
    Key.account key ≠ Key.candidate (Key.version path t) n := by
  intro h
  have hmeta := Key.isMeta_account key
  rw [h, Key.isMeta_candidate ht] at hmeta
  cases hmeta

/-- A candidate is taken when its number has been given in its microsecond. -/
theorem Kept.candidate_mem_iff (h : Kept path a) (hyears : ∀ v ∈ a.versions, v.time.HasPlainYear)
    (ht : t.HasPlainYear) : (∀ n, n < ordinal a.versions t →
      Key.candidate (Key.version path t) n ∈ a.store.keys) ∧
        Key.candidate (Key.version path t) (ordinal a.versions t) ∉ a.store.keys := by
  constructor
  · intro n hn
    obtain ⟨v, hv, hkey⟩ := h.numbered.exists_version hn
    exact (h.extensions _ (extends_candidate path t n) (Key.candidate_version_ne path t n)).2
      ⟨v, hv, .inl hkey.symm⟩
  · intro hmem
    obtain ⟨v, hv, hkey | hkey⟩ := (h.extensions _ (extends_candidate path t _)
      (Key.candidate_version_ne path t _)).1 hmem
    · exact h.numbered.key_ne hv (hyears v hv) ht hkey.symm
    · exact account_ne_candidate ht _ hkey.symm

/-- The version that is saved next has the number of those before it in its microsecond. -/
theorem Kept.freeKey_eq (h : Kept path a) (hyears : ∀ v ∈ a.versions, v.time.HasPlainYear)
    (ht : t.HasPlainYear) : Store.freeKey t path 0 a.store =
      Key.candidate (Key.version path t) (ordinal a.versions t) := by
  obtain ⟨hbusy, hfree⟩ := h.candidate_mem_iff hyears ht
  exact MemoryStore.freeKey_eq hfree hbusy

/-- Writing the key itself concerns none of its versions. -/
theorem Kept.write (h : Kept path a) (content : String) :
    Kept path { a with store := (Store.write path content a.store).2 } := by
  rw [write_eq]
  cases hallowed : Key.isAllowed path with
  | false =>
    rw [put_of_not_isAllowed hallowed]
    exact h
  | true =>
    rw [put_of_isAllowed hallowed]
    refine ⟨h.wellFormed.set _ _, h.numbered, fun k hk hne => ?_⟩
    rw [mem_keys_set, or_iff_right hne]
    exact h.extensions k hk hne

/-- What a revision does to the versions: nothing, or one is added that was saved at the time which
the clock has said. -/
theorem revise_versions (digest : String → String) (path : String) (a : Archive) (r : Revision) :
    (a.revise digest path r).versions = a.versions ∨
      ∃ t key, r.reading? = some t ∧ (a.revise digest path r).versions = a.versions ++ [⟨t, key⟩] := by
  cases r with
  | write content => exact .inl rfl
  | save now metadata =>
    rw [Archive.revise]
    split
    · exact .inr ⟨now, _, rfl, rfl⟩
    · exact .inl rfl

/-- A revision keeps the versions numbered. -/
theorem Kept.revise (h : Kept path a) (hyears : ∀ v ∈ a.versions, v.time.HasPlainYear)
    {r : Revision} (hr : ∀ t, r.reading? = some t → t.HasPlainYear) :
    Kept path (a.revise digest path r) := by
  cases r with
  | write content => exact h.write content
  | save now metadata =>
    rw [Archive.revise]
    rcases saveVersion_cases digest now path metadata 0 a.store with
      ⟨e, heq⟩ | ⟨content, -, -, heq⟩
    · rw [heq]
      exact h
    · rw [heq, h.freeKey_eq hyears (hr now rfl)]
      refine ⟨h.wellFormed.withVersion, .snoc now h.numbered, fun k hk hne => ?_⟩
      rw [mem_keys_withVersion, h.extensions k hk hne]
      simp only [List.mem_append, List.mem_singleton]
      constructor
      · rintro (hk | hk | ⟨v, hv, hk⟩)
        · exact ⟨_, .inr rfl, .inr hk⟩
        · exact ⟨_, .inr rfl, .inl hk⟩
        · exact ⟨v, .inl hv, hk⟩
      · rintro ⟨v, hv | rfl, hk⟩
        · exact .inr (.inr ⟨v, hv, hk⟩)
        · exact hk.elim (fun hk => .inr (.inl hk)) .inl

end

/-! ## Clocks that do not go back -/

/-- Times come one after the other, in plain years. -/
structure Steady (times : List Instant) : Prop where
  years : ∀ t ∈ times, t.HasPlainYear
  clock : times.Pairwise fun t t' => t.nanos ≤ t'.nanos

/-- What a clock has said during revisions, in order. -/
def readings (revisions : List Revision) : List Instant := revisions.filterMap Revision.reading?

section
variable {digest : String → String} {path k : String} {a : Archive} {ts ts' : List Instant}

theorem Steady.sublist (h : Steady ts') (hsub : ts.Sublist ts') : Steady ts :=
  ⟨fun t ht => h.years t (hsub.subset ht), h.clock.sublist hsub⟩

/-- The times of an archive. -/
def Archive.times (a : Archive) : List Instant := a.versions.map (·.time)

theorem Steady.versions (h : Steady a.times) : ∀ v ∈ a.versions, v.time.HasPlainYear :=
  fun _ hv => h.years _ (List.mem_map_of_mem hv)

theorem Steady.pairwise (h : Steady a.times) :
    a.versions.Pairwise fun v v' => v.time.nanos ≤ v'.time.nanos := by
  have hclock := h.clock
  rwa [Archive.times, List.pairwise_map] at hclock

/-- A revision gives a version the time that the clock has said, if it gives one at all. -/
theorem times_revise_sublist (digest : String → String) (path : String) (a : Archive) (r : Revision)
    (rs : List Revision) :
    ((a.revise digest path r).times ++ readings rs).Sublist (a.times ++ readings (r :: rs)) := by
  have hrest : (readings rs).Sublist (readings (r :: rs)) :=
    (List.sublist_cons_self r rs).filterMap _
  rcases revise_versions digest path a r with heq | ⟨t, key, ht, heq⟩
  · rw [Archive.times, heq]
    exact List.Sublist.append_left hrest _
  · have hreadings : readings (r :: rs) = t :: readings rs := List.filterMap_cons_some ht
    rw [Archive.times, heq, hreadings, List.map_append, List.append_assoc]
    exact List.Sublist.refl _

/-- Each saving adds a version while the key is allowed and has a text. -/
theorem times_revise (digest : String → String) (hallowed : Key.isAllowed path = true)
    (hstored : path ∈ a.store.keys) (r : Revision) :
    (a.revise digest path r).times = a.times ++ r.reading?.toList ∧
      path ∈ (a.revise digest path r).store.keys := by
  cases r with
  | write content =>
    have hstore : (a.revise digest path (.write content)).store = a.store.set path content := by
      rw [Archive.revise, write_eq, put_of_isAllowed hallowed]
    rw [hstore, mem_keys_set]
    exact ⟨(List.append_nil _).symm, .inl rfl⟩
  | save now metadata =>
    obtain ⟨content, hfind⟩ := Option.isSome_iff_exists.1 (mem_keys.1 hstored)
    rw [Archive.revise, saveVersion_of_isAllowed hallowed hfind]
    exact ⟨by simp [Archive.times, Revision.reading?],
      mem_keys_withVersion.2 (.inr (.inr hstored))⟩

/-- So all times that the clock has said are those of versions. -/
theorem times_reviseAll {revisions : List Revision} (digest : String → String)
    (hallowed : Key.isAllowed path = true) (hstored : path ∈ a.store.keys) :
    (a.reviseAll digest path revisions).times = a.times ++ readings revisions := by
  induction revisions generalizing a with
  | nil => exact (List.append_nil _).symm
  | cons r rs ih =>
    have hreadings : readings (r :: rs) = r.reading?.toList ++ readings rs := by
      cases h : r.reading? with
      | none => exact List.filterMap_cons_none h
      | some t => exact List.filterMap_cons_some h
    obtain ⟨htimes, hstored⟩ := times_revise digest hallowed hstored r
    rw [hreadings, ← List.append_assoc, ← htimes]
    exact ih hstored

/-- Revisions under a steady clock keep the versions numbered, and in the order of the clock. -/
theorem Kept.reviseAll {revisions : List Revision} (digest : String → String) (h : Kept path a)
    (hsteady : Steady (a.times ++ readings revisions)) :
    Kept path (a.reviseAll digest path revisions) ∧
      Steady (a.reviseAll digest path revisions).times := by
  induction revisions generalizing a with
  | nil =>
    exact ⟨h, hsteady.sublist (List.sublist_append_left _ _)⟩
  | cons r rs ih =>
    refine ih (h.revise (hsteady.sublist (List.sublist_append_left _ _)).versions ?_)
      (hsteady.sublist (times_revise_sublist digest path a r rs))
    intro t ht
    have hreadings : readings (r :: rs) = t :: readings rs := List.filterMap_cons_some ht
    refine hsteady.years t (List.mem_append_right _ ?_)
    rw [hreadings]
    exact List.mem_cons_self

/-! ## The listing -/

/-- The keys of the versions, the oldest first. -/
def Archive.keys (a : Archive) : List String := a.versions.map (·.key)

/-- The listing has the versions that have been saved and nothing else. -/
theorem Kept.mem_listed (h : Kept path a) (hyears : ∀ v ∈ a.versions, v.time.HasPlainYear) :
    (k ∈ a.store.keys ∧ Key.IsVersionOf path k ∧ Key.isMeta k = false) ↔ k ∈ a.keys := by
  constructor
  · rintro ⟨hk, hform, hmeta⟩
    have hne : k ≠ path := by
      rintro rfl
      obtain ⟨digits, tail, hself, -⟩ := hform
      simpa using congrArg List.length hself
    obtain ⟨v, hv, rfl | rfl⟩ := (h.extensions k hform.extends hne).1 hk
    · exact List.mem_map_of_mem hv
    · rw [Key.isMeta_account] at hmeta
      cases hmeta
  · intro hk
    obtain ⟨v, hv, rfl⟩ := List.mem_map.1 hk
    obtain ⟨n, -, hkey⟩ := h.numbered.exists_number hv
    have hform := Key.isVersionOf_candidate (hyears v hv) path n
    have hmeta := Key.isMeta_candidate (hyears v hv) path n
    have hne := Key.candidate_version_ne path v.time n
    rw [← hkey] at hform hmeta hne
    exact ⟨(h.extensions _ hform.extends hne).2 ⟨v, hv, .inl rfl⟩, hform, hmeta⟩

/-- The versions of a key without backslashes are listed as they sort. -/
theorem Kept.versions_eq (h : Kept path a) (hyears : ∀ v ∈ a.versions, v.time.HasPlainYear)
    (hpath : '\\' ∉ path.toList) : Store.versions path a.store = .ok (sortedStrings a.keys) := by
  rw [MemoryStore.versions_eq hpath, Except.ok.injEq]
  refine eq_of_ascending (h.wellFormed.ascending_listed path)
    (ascending_sortedStrings (h.numbered.nodup hyears)) fun k => ?_
  rw [MemoryStore.mem_listed, h.mem_listed hyears, mem_sortedStrings]

end

/-! ## The order of saving -/

/-- The versions of a key are in the order in which they were saved, however one looks at them. -/
structure InOrder (path : String) (a : Archive) : Prop where
  ascending : a.keys.Pairwise (· < ·)
  sorted : sortedStrings a.keys = a.keys
  /-- The listing of a key without backslashes. -/
  listed : '\\' ∉ path.toList → Store.versions path a.store = .ok a.keys
  latest : '\\' ∉ path.toList → Store.latestVersion path a.store = .ok a.keys.getLast?

section
variable {digest : String → String} {path : String} {s : MemoryStore} {a : Archive}
  {revisions : List Revision}

/-- Ascending versions are in order. -/
theorem Kept.inOrder (h : Kept path a) (hyears : ∀ v ∈ a.versions, v.time.HasPlainYear)
    (hascending : a.keys.Pairwise (· < ·)) : InOrder path a := by
  have hsorted : sortedStrings a.keys = a.keys :=
    eq_of_ascending (ascending_sortedStrings (h.numbered.nodup hyears)) hascending
      fun _ => mem_sortedStrings
  have hlisted (hpath : '\\' ∉ path.toList) : Store.versions path a.store = .ok a.keys := by
    rw [h.versions_eq hyears hpath, hsorted]
  refine ⟨hascending, hsorted, hlisted, fun hpath => ?_⟩
  rw [Store.latestVersion, hlisted hpath]
  rfl

/-- What becomes of a store while versions of a key are saved in it. -/
def archive (digest : String → String) (path : String) (s : MemoryStore)
    (revisions : List Revision) : Archive :=
  Archive.reviseAll digest path ⟨[], s⟩ revisions

/-- The versions of a key are all different. They are in the order of saving exactly as long as there
are no more than 10000 in a microsecond. Each saving adds one if the key is allowed and has a text. -/
theorem archive_inOrder_iff (digest : String → String) (h : s.WellFormed)
    (hnew : ∀ k ∈ s.keys, path.toList <+: k.toList → k = path)
    (hsteady : Steady (readings revisions)) :
    (archive digest path s revisions).keys.Nodup ∧
      (InOrder path (archive digest path s revisions) ↔
        ∀ t, ordinal (archive digest path s revisions).versions t ≤ 10000) ∧
      (Key.isAllowed path = true → path ∈ s.keys →
        (archive digest path s revisions).times = readings revisions) := by
  obtain ⟨hkept, hsaved⟩ := (Kept.of_no_extension h hnew).reviseAll digest hsteady
  have hascending := hkept.numbered.ascending_iff hsaved.versions hsaved.pairwise
  refine ⟨hkept.numbered.nodup hsaved.versions, ⟨fun horder => hascending.1 horder.ascending, ?_⟩, ?_⟩
  · exact fun hfew => hkept.inOrder hsaved.versions (hascending.2 hfew)
  · exact fun hallowed hstored => times_reviseAll digest hallowed hstored

/-- The versions of a microsecond are counted by their times. -/
theorem ordinal_eq_countP (a : Archive) (t : Instant) :
    ordinal a.versions t = a.times.countP fun t' => t'.micros = t.micros := by
  rw [Archive.times, List.countP_map]
  rfl

/-- A microsecond has no more versions than there are. -/
theorem ordinal_le (versions : List Version) (t : Instant) : ordinal versions t ≤ versions.length :=
  List.countP_le_length

end

/-- The key `f` with a text, and nothing else. -/
def single : MemoryStore := empty.set "f" "x"

/-- Two versions in one microsecond, with a new text between them, and one in the next. -/
def threeRevisions : List Revision :=
  [.save ⟨0⟩ .null, .write "y", .save ⟨999⟩ .null, .save ⟨1000⟩ .null]

theorem single_wellFormed : single.WellFormed := wellFormed_empty.set _ _

theorem single_no_extension : ∀ k ∈ single.keys, "f".toList <+: k.toList → k = "f" := by
  intro k hk _
  rcases mem_keys_set.1 hk with rfl | hk
  · rfl
  · exact absurd hk List.not_mem_nil

/-- Times of one day are in plain years if it is. -/
theorem hasPlainYear_of_nonneg {n : Int} (h : 0 ≤ n) (hn : n < 1000000) :
    (⟨n⟩ : Instant).HasPlainYear := by
  have hday : (⟨n⟩ : Instant).date = Date.ofDays 0 := by
    have hzero : n / 86400000000000 = 0 := by omega
    rw [Instant.date, Instant.day, hzero]
  rw [Instant.HasPlainYear, hday]
  decide

theorem steady_threeRevisions : Steady (readings threeRevisions) where
  years t ht := by
    rcases List.mem_cons.1 ht with rfl | ht
    · exact hasPlainYear_of_nonneg (by decide) (by decide)
    · rcases List.mem_cons.1 ht with rfl | ht
      · exact hasPlainYear_of_nonneg (by decide) (by decide)
      · obtain rfl := List.mem_singleton.1 ht
        exact hasPlainYear_of_nonneg (by decide) (by decide)
  clock := by decide

/-- Versions of one microsecond and of the next one. -/
theorem threeRevisions_inOrder :
    single.WellFormed ∧ (∀ k ∈ single.keys, "f".toList <+: k.toList → k = "f") ∧
      Steady (readings threeRevisions) ∧
      (archive (fun _ => "") "f" single threeRevisions).keys =
        ["f.19700101T000000.000000Z", "f.19700101T000000.000000Z-0001",
          "f.19700101T000000.000001Z"] ∧
      InOrder "f" (archive (fun _ => "") "f" single threeRevisions) := by
  have hkeys : (archive (fun _ => "") "f" single threeRevisions).keys =
      ["f.19700101T000000.000000Z", "f.19700101T000000.000000Z-0001",
        "f.19700101T000000.000001Z"] := by decide +kernel
  refine ⟨single_wellFormed, single_no_extension, steady_threeRevisions, hkeys, ?_⟩
  refine (archive_inOrder_iff (fun _ => "") single_wellFormed single_no_extension
    steady_threeRevisions).2.1.2 fun t => Nat.le_trans (ordinal_le _ t) ?_
  have hlength := congrArg List.length hkeys
  rw [Archive.keys, List.length_map] at hlength
  rw [hlength]
  decide

/-- One version more than there are numbers with four digits and none, in one microsecond. -/
def overflow : List Revision := List.replicate 10001 (.save ⟨0⟩ .null)

theorem readings_overflow : readings overflow = List.replicate 10001 ⟨0⟩ :=
  List.filterMap_replicate_of_some rfl

theorem steady_overflow : Steady (readings overflow) := by
  rw [readings_overflow]
  refine ⟨fun t ht => ?_, List.pairwise_replicate.2 (.inr (Int.le_refl 0))⟩
  rw [List.eq_of_mem_replicate ht]
  exact hasPlainYear_of_nonneg (by decide) (by decide)

/-- Version number 10000 of a microsecond comes before version number 9999. -/
theorem not_ascending_overflow :
    single.WellFormed ∧ (∀ k ∈ single.keys, "f".toList <+: k.toList → k = "f") ∧
      Steady (readings overflow) ∧
      ¬(archive (fun _ => "") "f" single overflow).keys.Pairwise (· < ·) := by
  refine ⟨single_wellFormed, single_no_extension, steady_overflow, fun hascending => ?_⟩
  have hkept := Kept.of_no_extension single_wellFormed single_no_extension
  have hsteady : Steady ((⟨[], single⟩ : Archive).times ++ readings overflow) := steady_overflow
  obtain ⟨hkept, hsaved⟩ := hkept.reviseAll (fun _ => "") hsteady
  have hfew := (hkept.numbered.ascending_iff hsaved.versions hsaved.pairwise).1 hascending ⟨0⟩
  have htimes : (Archive.reviseAll (fun _ => "") "f" ⟨[], single⟩ overflow).times = _ :=
    times_reviseAll (fun _ => "") (show Key.isAllowed "f" = true by decide) (by decide)
  have hall : (⟨[], single⟩ : Archive).times ++ readings overflow = List.replicate 10001 ⟨0⟩ :=
    readings_overflow
  rw [ordinal_eq_countP, htimes, hall, List.countP_replicate, if_pos (decide_eq_true rfl)] at hfew
  exact absurd hfew (by decide)

end MemoryStore

end Taskweave
