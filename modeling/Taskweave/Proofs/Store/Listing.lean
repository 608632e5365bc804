import Taskweave.Proofs.Glob.Reading
import Taskweave.Proofs.Store.Memory

/-!
# Listing the versions of a key

In a key without backslashes every character stands for itself in the glob for its versions, so that
the listing gives the stored keys of the form of its versions, in ascending order, but for accounts
(`MemoryStore.versions_eq`, `MemoryStore.mem_listed`). A version that has been saved under a plain
year has that form. That of another key has it only if the other key is an extension of this one
(`Key.prefix_of_isVersionOf`): the one point in a stamp that is followed by eight digits is the one
before it.

The backslash is the one character whose meaning is not taken off, and a key with one in it has none
of its versions listed (`MemoryStore.not_extends_of_mem_versions`). So the listing is literal for the
other keys and for no more (`MemoryStore.listsLiterally_iff`).
-/

namespace Taskweave

namespace Key

section
variable {path other key : String} {added : List Char}

/-- The folder of a key depends on what comes before its last slash. -/
theorem folder?_append (h : key.toList = path.toList ++ added) (hslash : '/' ∉ added) :
    folder? key = folder? path := by
  have hdrop : key.toList.reverse.dropWhile (· != '/') = path.toList.reverse.dropWhile (· != '/') := by
    rw [h, List.reverse_append, List.dropWhile_append_of_pos]
    intro c hc
    rw [bne_iff_ne]
    rintro rfl
    exact hslash (List.mem_reverse.1 hc)
  simp only [folder?, split?, hdrop]
  split
  · rfl
  · rfl

/-- Keys of the form of versions are in the folder of the key. -/
theorem IsVersionOf.folder?_eq (h : IsVersionOf path key) : folder? key = folder? path := by
  obtain ⟨digits, tail, hkey, -, hdigits, htail⟩ := h
  refine folder?_append hkey fun hslash => ?_
  rw [List.mem_cons, List.mem_append, List.mem_cons] at hslash
  rcases hslash with hslash | hslash | hslash | hslash
  · exact absurd hslash (by decide)
  · exact absurd (hdigits _ hslash) (by decide)
  · exact absurd hslash (by decide)
  · exact htail hslash

/-- Keys of the form of versions are extensions. -/
theorem IsVersionOf.extends (h : IsVersionOf path key) : path.toList <+: key.toList := by
  obtain ⟨digits, tail, hkey, -⟩ := h
  exact hkey ▸ List.prefix_append _ _

/-- A version of another key has the form of a version only if the other key is an extension. -/
theorem prefix_of_isVersionOf {t : Instant} {n : Nat}
    (h : IsVersionOf path (candidate (version other t) n)) : path.toList <+: other.toList := by
  obtain ⟨digits, tail, hkey, hlen, hdigits, -⟩ := h
  rw [candidate_version_toList] at hkey
  have hother : other.toList <+: path.toList ++ '.' :: (digits ++ 'T' :: tail) :=
    hkey ▸ List.prefix_append _ _
  rcases List.prefix_or_prefix_of_prefix hother (List.prefix_append _ _) with hlonger | hshorter
  · -- Otherwise eight digits would follow the point before the microseconds.
    obtain ⟨more, hmore⟩ := hlonger
    obtain ⟨front, micro, hstamp, hfront, hmicro, hsix⟩ := Instant.stamp_split t
    rw [← hmore, List.append_assoc, List.append_cancel_left_eq, hstamp] at hkey
    cases more with
    | nil => exact ⟨[], by rw [← hmore]; simp⟩
    | cons c more =>
      rw [List.cons_append, List.cons.injEq, List.append_assoc, List.cons_append,
        List.append_assoc] at hkey
      have hpoint : '.' ∉ micro ++ (['Z'] ++ suffixChars n) := by
        rw [suffixChars]
        split
        · simp [hmicro]
        · simp [hmicro, Instant.point_notMem_padded]
      obtain ⟨-, -, hdate⟩ := (List.append_cons_inj_of_notMem hfront hpoint).1 hkey.2
      have hseventh := congrArg (·[6]?) hdate
      simp only [List.getElem?_append_right (Nat.le_of_eq hsix),
        List.getElem?_append_left (show 6 < digits.length by omega), hsix] at hseventh
      have hmem : 'Z' ∈ digits := List.mem_of_getElem? hseventh.symm
      exact absurd (hdigits _ hmem) (by decide)
  · exact hshorter

end

end Key

namespace MemoryStore

section
variable {digest : String → String} {s s' : MemoryStore} {path k v : String} {ks : List String}

/-! ## Keys without backslashes -/

/-- Whether a key stands for a version of another. -/
def isListed (path k : String) : Bool :=
  Glob.accepts (path.toList.map Glob.tokenOf ++ Glob.versionTail) k && !Key.isMeta k

/-- The keys that are listed have the form of versions and are no accounts. -/
theorem isListed_iff : isListed path k = true ↔ Key.IsVersionOf path k ∧ Key.isMeta k = false := by
  rw [isListed, Bool.and_eq_true, Bool.not_eq_true', Glob.accepts_iff, Glob.matches_map_append]
  simp only [Glob.matches_versionTail]
  constructor
  · rintro ⟨⟨_, hkey, digits, tail, rfl, hlen, hdigits, htail⟩, hmeta⟩
    exact ⟨⟨digits, tail, hkey, hlen, hdigits, htail⟩, hmeta⟩
  · rintro ⟨⟨digits, tail, hkey, hlen, hdigits, htail⟩, hmeta⟩
    exact ⟨⟨_, hkey, digits, tail, rfl, hlen, hdigits, htail⟩, hmeta⟩

/-- The listing of a key without backslashes. -/
theorem versions_eq (h : '\\' ∉ path.toList) (s : MemoryStore) :
    Store.versions path s = .ok (sortedStrings ((s.beside path).filter (isListed path))) := by
  simp only [Store.versions, Glob.read_versionGlob h]
  rfl

/-- What is listed of a key without backslashes. -/
theorem mem_listed : k ∈ sortedStrings ((s.beside path).filter (isListed path)) ↔
    k ∈ s.keys ∧ Key.IsVersionOf path k ∧ Key.isMeta k = false := by
  rw [mem_sortedStrings, List.mem_filter, beside, List.mem_filter, isListed_iff, beq_iff_eq]
  constructor
  · exact fun ⟨⟨hkey, _⟩, hlisted⟩ => ⟨hkey, hlisted⟩
  · exact fun ⟨hkey, hlisted⟩ => ⟨⟨hkey, hlisted.1.folder?_eq⟩, hlisted⟩

/-- The listing ascends and names nothing twice. -/
theorem WellFormed.ascending_listed (h : s.WellFormed) (path : String) :
    (sortedStrings ((s.beside path).filter (isListed path))).Pairwise (· < ·) :=
  ascending_sortedStrings ((h.nodup.filter _).filter _)

/-! ## Keys with backslashes -/

/-- A listing is that of a glob which has been read. -/
theorem exists_glob_of_versions (h : Store.versions path s = .ok ks) :
    ∃ g, Glob.read (Store.versionGlob path) = .ok g ∧
      ks = sortedStrings ((s.beside path).filter fun k => g.accepts k && !Key.isMeta k) := by
  rw [Store.versions] at h
  cases hread : Glob.read (Store.versionGlob path) with
  | error fault => rw [hread] at h; cases h
  | ok g =>
    rw [hread] at h
    exact ⟨g, rfl, (Except.ok.inj h).symm⟩

/-- Nothing that extends a key with a backslash is listed for it. -/
theorem not_extends_of_mem_versions (h : '\\' ∈ path.toList) (hks : Store.versions path s = .ok ks)
    (hk : k ∈ ks) : ¬path.toList <+: k.toList := by
  intro hextends
  obtain ⟨g, hread, rfl⟩ := exists_glob_of_versions hks
  rw [mem_sortedStrings, List.mem_filter, Glob.accepts_eq_false h hread hextends] at hk
  exact absurd hk.2 (by simp)

/-! ## Literal listings -/

/-- The listing of a key's versions takes the key literally. -/
structure ListsLiterally (digest : String → String) (path : String) (s : MemoryStore) : Prop where
  /-- The stored keys of the form of versions are listed in ascending order, each once, but for
  accounts. -/
  listed : ∃ ks, Store.versions path s = .ok ks ∧ ks.Pairwise (· < ·) ∧
    ∀ k, k ∈ ks ↔ k ∈ s.keys ∧ Key.IsVersionOf path k ∧ Key.isMeta k = false
  /-- A version that has just been saved under a plain year is listed. -/
  saved : ∀ now metadata reserved v s', now.HasPlainYear →
    Store.saveVersion digest now path metadata reserved s = (.ok v, s') →
      ∃ ks, Store.versions path s' = .ok ks ∧ v ∈ ks
  /-- The versions of a key that is no extension of this one are not listed. -/
  foreign : ∀ ks other now n, Store.versions path s = .ok ks →
    Key.candidate (Key.version other now) n ∈ ks → path.toList <+: other.toList

/-- Keys without backslashes are taken literally. -/
theorem listsLiterally_of_notMem (hpath : '\\' ∉ path.toList) (h : s.WellFormed) :
    ListsLiterally digest path s where
  listed := ⟨_, versions_eq hpath s, h.ascending_listed path, fun _ => mem_listed⟩
  saved now metadata reserved v s' hyear hsave := by
    obtain ⟨content, n, -, hv, -, rfl⟩ := saveVersion_ok hsave
    refine ⟨_, versions_eq hpath _, mem_listed.2 ⟨mem_keys_withVersion.2 (.inr (.inl rfl)), ?_⟩⟩
    rw [hv]
    exact ⟨Key.isVersionOf_candidate hyear path n, Key.isMeta_candidate hyear path n⟩
  foreign ks other now n hks hmem := by
    rw [versions_eq hpath, Except.ok.injEq] at hks
    subst hks
    exact Key.prefix_of_isVersionOf (mem_listed.1 hmem).2.1

/-- The store that holds one version of a key is not listed literally if the key has a backslash. -/
theorem not_listsLiterally_of_mem (hpath : '\\' ∈ path.toList) :
    ¬ListsLiterally digest path (empty.set (Key.version path ⟨0⟩) "") := by
  intro h
  obtain ⟨ks, hks, -, hmem⟩ := h.listed
  have hyear : (⟨0⟩ : Instant).HasPlainYear := by
    rw [Instant.HasPlainYear]
    decide
  have hform := Key.isVersionOf_candidate hyear path 0
  have hlisted : Key.version path ⟨0⟩ ∈ ks :=
    (hmem _).2 ⟨mem_keys_set.2 (.inl rfl), hform, Key.isMeta_candidate hyear path 0⟩
  exact not_extends_of_mem_versions hpath hks hlisted hform.extends

/-- The listing of the versions of a key takes the key literally, whatever a store holds, exactly when
there is no backslash in the key. -/
theorem listsLiterally_iff (digest : String → String) (path : String) :
    (∀ s : MemoryStore, s.WellFormed → ListsLiterally digest path s) ↔ '\\' ∉ path.toList := by
  constructor
  · intro h hpath
    exact not_listsLiterally_of_mem hpath (h _ (wellFormed_empty.set _ _))
  · exact fun hpath s h => listsLiterally_of_notMem hpath h

end

/-- A backslash is read as taking the meaning off the letter after it, so that the version which has
just been saved is not found. -/
theorem not_listsLiterally_backslash :
    Key.isAllowed "a\\b" = true ∧ (empty.set "a\\b" "x").WellFormed ∧
      (Store.saveVersion (fun _ => "") ⟨0⟩ "a\\b" .null 0 (empty.set "a\\b" "x")).1.toOption =
        some "a\\b.19700101T000000.000000Z" ∧
      (Store.versions "a\\b" (Store.saveVersion (fun _ => "") ⟨0⟩ "a\\b" .null 0
        (empty.set "a\\b" "x")).2).toOption = some [] ∧
      ¬ListsLiterally (fun _ => "") "a\\b" (empty.set "a\\b" "x") := by
  refine ⟨by decide, wellFormed_empty.set _ _, by decide +kernel, by decide +kernel, fun h => ?_⟩
  have hyear : (⟨0⟩ : Instant).HasPlainYear := by
    rw [Instant.HasPlainYear]
    decide
  rcases saveVersion_cases (fun _ => "") ⟨0⟩ "a\\b" .null 0 (empty.set "a\\b" "x") with
    ⟨e, hrefused⟩ | ⟨content, -, -, hsaved⟩
  · have hok : (Store.saveVersion (fun _ => "") ⟨0⟩ "a\\b" .null 0
        (empty.set "a\\b" "x")).1.toOption.isSome = true := by decide +kernel
    rw [hrefused] at hok
    cases hok
  · obtain ⟨ks, hks, hmem⟩ := h.saved ⟨0⟩ .null 0 _ _ hyear hsaved
    obtain ⟨n, hn⟩ := exists_freeKey ⟨0⟩ "a\\b" 0 (empty.set "a\\b" "x")
    rw [hn] at hmem
    exact not_extends_of_mem_versions (by decide) hks hmem
      (Key.isVersionOf_candidate hyear "a\\b" n).extends

end MemoryStore

end Taskweave
