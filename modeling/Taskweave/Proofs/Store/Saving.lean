import Taskweave.Digest.Blake3
import Taskweave.Proofs.Store.Memory
import Taskweave.Proofs.Store.States

/-!
# Saving a version

The key of a version is found by looking at one candidate after the other, without a bound
(`Key.Search`). Candidates are different and a store has finitely many keys, so the search ends, and
`Store.freeKey` is where it ends (`MemoryStore.search_freeKey`). Saving a version of a key with a text
binds that key to the text and its account to what is known about the version, and nothing else
(`MemoryStore.Saved`).

The account is one level deeper than the metadata in it, so that metadata which can just be read
makes an account that cannot (`MemoryStore.account_nested_unreadable`); less deep metadata is read
back from it as it was given.
-/

namespace Taskweave

namespace Key

/-- The search for a free key, from candidate `n` on: candidates are looked at until one is not
taken, `probes` of them, and that one is the answer. -/
inductive Search (taken : String → Bool) (base : String) : (n probes : Nat) → String → Prop where
  | free {n : Nat} : taken (candidate base n) = false → Search taken base n 1 (candidate base n)
  | busy {n probes : Nat} {key : String} : taken (candidate base n) = true →
      Search taken base (n + 1) probes key → Search taken base n (probes + 1) key

section
variable {taken : String → Bool} {base key key' : String} {n d probes probes' : Nat}

/-- The search ends at the first candidate that is not taken. -/
theorem Search.of_first (hfree : taken (candidate base (n + d)) = false)
    (hbusy : ∀ k, k < d → taken (candidate base (n + k)) = true) :
    Search taken base n (d + 1) (candidate base (n + d)) := by
  induction d generalizing n with
  | zero => exact .free hfree
  | succ d ih =>
    have hshift : ∀ k, n + (k + 1) = n + 1 + k := fun k => by omega
    rw [hshift] at hfree ⊢
    refine .busy (hbusy 0 (Nat.succ_pos d)) (ih hfree fun k hk => ?_)
    rw [← hshift]
    exact hbusy (k + 1) (Nat.succ_lt_succ hk)

/-- The search has one end at most. -/
theorem Search.unique (h : Search taken base n probes key) (h' : Search taken base n probes' key') :
    probes = probes' ∧ key = key' := by
  induction h generalizing probes' with
  | free hfree =>
    cases h' with
    | free => exact ⟨rfl, rfl⟩
    | busy htaken _ => cases hfree.symm.trans htaken
  | busy htaken _ ih =>
    cases h' with
    | free hfree => cases hfree.symm.trans htaken
    | busy _ h' =>
      obtain ⟨rfl, rfl⟩ := ih h'
      exact ⟨rfl, rfl⟩

end

end Key

namespace MemoryStore

/-- The text of an account tells of which key and of which text a version is, and has its
metadata. -/
def Tells (digest : String → String) (path content : String) (metadata : Json) (text : String) :
    Prop :=
  ∃ fields, Json.read? text = some (.obj fields) ∧
    Dict.find? fields "source" = some (.str path) ∧
    Dict.find? fields "metadata" = some metadata ∧
    Dict.find? fields "blake3" = some (.str (digest content))

/-- What saving a version of `path`, whose text is `content`, does to a store. The key of the version
is `v`, and `s'` is the store afterwards. -/
structure Saved (digest : String → String) (path content : String) (metadata : Json)
    (s : MemoryStore) (v : String) (s' : MemoryStore) : Prop where
  fresh : v ∉ s.keys
  extends_path : ∃ suffix, v = path ++ "." ++ suffix
  copied : Store.read v s' = .ok content
  /-- An account is written. Where the metadata is read back by itself, the account is read as well
  if the metadata is nested less deeply than the reader goes, and cannot be read if it is not. -/
  account : ∃ text, Store.read (Key.account v) s' = .ok text ∧
    (Json.read? metadata.compact = some metadata →
      if metadata.depth < Json.maxDepth then Tells digest path content metadata text
      else Json.read? text = none)
  source : Store.read path s' = .ok content
  kept : ∀ k, k ≠ v → k ≠ Key.account v → Store.read k s' = Store.read k s

/-- What saving a version of `path` with the metadata, if there is any, does in a store. -/
structure SavesVersion (digest : String → String) (now : Instant) (path : String)
    (metadata : Option Json) (s : MemoryStore) : Prop where
  /-- The search ends, at the key that is taken, after one more probe than there are keys at most. It
  is as many as there are keys at most if one of them is `path`, so the number of the next candidate
  fits in 31 bits where the number of the keys does. -/
  search : ∃ probes, probes ≤ s.keys.length + 1 ∧ (path ∈ s.keys → probes ≤ s.keys.length) ∧
    ∀ probes' key, Key.Search (Store.has · s) (Key.version path now) 0 probes' key ↔
      probes' = probes ∧ key = Store.freeKey now path 0 s
  stored : ∀ content, Store.read path s = .ok content → ∃ v s',
    Store.saveVersion digest now path (metadata.getD .null) 0 s = (.ok v, s') ∧
      Saved digest path content (metadata.getD .null) s v s'
  missing : path ∉ s.keys →
    Store.saveVersion digest now path (metadata.getD .null) 0 s = (.error (.notFound path), s)

section
variable {digest : String → String} {now : Instant} {path content : String} {metadata : Json}
  {s : MemoryStore}

/-! ## The search for a free key -/

/-- The search ends at the key that is taken for the version. Each candidate that is passed over is
one of the keys, and none of them is the key that is saved. -/
theorem search_freeKey (now : Instant) (path : String) (s : MemoryStore) :
    ∃ probes, probes ≤ s.keys.length + 1 ∧ (path ∈ s.keys → probes ≤ s.keys.length) ∧
      ∀ probes' key, Key.Search (Store.has · s) (Key.version path now) 0 probes' key ↔
        probes' = probes ∧ key = Store.freeKey now path 0 s := by
  obtain ⟨n, hfree, hbusy⟩ := Key.exists_first_candidate (Key.version path now) s.keys
  refine ⟨n + 1, Nat.succ_le_succ (Key.le_length_of_candidates hbusy), fun hpath => ?_, ?_⟩
  · have hothers : ∀ k, k < n → Key.candidate (Key.version path now) k ∈ s.keys.erase path :=
      fun k hk => (List.mem_erase_of_ne (Key.candidate_version_ne path now k)).2 (hbusy k hk)
    have hle := Key.le_length_of_candidates hothers
    have hpos := List.length_pos_of_mem hpath
    rw [List.length_erase_of_mem hpath] at hle
    omega
  · have hsearch : Key.Search (Store.has · s) (Key.version path now) 0 (n + 1)
        (Key.candidate (Key.version path now) (0 + n)) := by
      refine Key.Search.of_first ?_ fun k hk => ?_
      · rw [Nat.zero_add]
        exact Bool.eq_false_iff.2 fun h => hfree (has_eq_true.1 h)
      · rw [Nat.zero_add]
        exact has_eq_true.2 (hbusy k hk)
    rw [Nat.zero_add, ← freeKey_eq hfree hbusy] at hsearch
    refine fun probes' key => ⟨fun h => h.unique hsearch, ?_⟩
    rintro ⟨rfl, rfl⟩
    exact hsearch

/-- The key that is taken for a version is free. -/
theorem freeKey_notMem (now : Instant) (path : String) (s : MemoryStore) :
    Store.freeKey now path 0 s ∉ s.keys := by
  obtain ⟨n, hfree, hbusy⟩ := Key.exists_first_candidate (Key.version path now) s.keys
  rwa [freeKey_eq hfree hbusy]

/-! ## Accounts -/

/-- An account is one level deeper than the metadata. -/
theorem depth_account : (Store.account digest now path content metadata).depth =
    metadata.depth + 1 := by
  simp [Store.account, Json.depth, Json.depthFields]

/-- An account is read back where the metadata is, unless it is nested too deeply. -/
theorem read?_account (h : Json.read? metadata.compact = some metadata) :
    Json.read? (Store.account digest now path content metadata).compact =
      if metadata.depth < Json.maxDepth then some (Store.account digest now path content metadata)
      else none := by
  have hreread : (Store.account digest now path content metadata).reread? =
      some (Store.account digest now path content metadata) := by
    have hascending : ["blake3", "created_at", "metadata", "source"].Pairwise (· < ·) := by
      decide +kernel
    refine Json.reread?_obj hascending ?_
    simp [Json.rereadFields?, (Json.read?_compact_eq_some_iff.1 h).2, Json.reread?]
  rw [Json.read?_compact, Json.rereadWithin?, hreread, depth_account]
  rfl

/-- An account that is read tells what it is an account of. -/
theorem tells_account (h : Json.read? metadata.compact = some metadata)
    (hdepth : metadata.depth < Json.maxDepth) :
    Tells digest path content metadata (Store.account digest now path content metadata).compact := by
  have hread : Json.read? (Store.account digest now path content metadata).compact =
      some (Store.account digest now path content metadata) := by
    rw [read?_account h, if_pos hdepth]
  exact ⟨_, hread, rfl, rfl, rfl⟩

/-! ## What is written -/

/-- A key with a text is read. -/
theorem read_eq_ok_iff {k : String} : Store.read k s = .ok content ↔ s.find? k = some content := by
  rw [read_eq]
  cases s.find? k with
  | none => exact ⟨nofun, nofun⟩
  | some text => rw [Except.ok.injEq, Option.some.injEq]

/-- A version that is saved under a free candidate is saved as it should be. -/
theorem saved_withVersion {v : String} {n : Nat}
    (hv : v = Key.candidate (Key.version path now) n) (hfree : v ∉ s.keys)
    (hfind : s.find? path = some content) :
    Saved digest path content metadata s v (s.withVersion digest now path content metadata v) where
  fresh := hfree
  extends_path := by
    refine ⟨now.stamp ++ String.ofList (Key.suffixChars n), ?_⟩
    rw [hv, ← String.toList_inj, Key.candidate_toList, Key.version]
    simp
  copied := by
    rw [read_eq_ok_iff, withVersion, find?_set, if_neg (Key.account_ne v).symm, find?_set,
      if_pos rfl]
  account := by
    refine ⟨(Store.account digest now path content metadata).compact, ?_, fun hmetadata => ?_⟩
    · rw [read_eq_ok_iff, withVersion, find?_set, if_pos rfl]
    · split
      · next hdepth => exact tells_account hmetadata hdepth
      · next hdepth => rw [read?_account hmetadata, if_neg hdepth]
  source := by
    subst hv
    rw [read_eq_ok_iff, find?_withVersion_of_ne (Key.candidate_version_ne path now n).symm
      (Key.account_candidate_version_ne path now n).symm]
    exact hfind
  kept k hne hne' := by rw [read_eq, read_eq, find?_withVersion_of_ne hne hne']

/-- Saving a version of a key without a text is refused, and changes nothing. -/
theorem saveVersion_of_notMem {reserved : Nat} (h : path ∉ s.keys) :
    Store.saveVersion digest now path metadata reserved s = (.error (.notFound path), s) := by
  have hnone : s.find? path = none := by
    rw [mem_keys, Option.isSome_iff_ne_none, not_not] at h
    exact h
  rw [Store.saveVersion, read_eq, hnone]

end

/-- Saving a version of an allowed key takes a key that is new, copies the text to it and writes an
account, and leaves all other keys as they are; without a text nothing is done. -/
theorem savesVersion {path : String} (hallowed : Key.isAllowed path = true)
    (digest : String → String) (now : Instant) (metadata : Option Json) (s : MemoryStore) :
    SavesVersion digest now path metadata s where
  search := search_freeKey now path s
  stored content hread := by
    have hfind := read_eq_ok_iff.1 hread
    obtain ⟨n, hn⟩ := exists_freeKey now path 0 s
    exact ⟨_, _, saveVersion_of_isAllowed hallowed hfind,
      saved_withVersion hn (freeKey_notMem now path s) hfind⟩
  missing := saveVersion_of_notMem

/-- A store in which the first two keys for a version of `f` are taken. -/
def crowded : MemoryStore :=
  ⟨[("f", "t"), ("f.19700101T000000.000000Z", "s"), ("f.19700101T000000.000000Z-0001", "")]⟩

/-- A version is saved where the first keys for it are taken. -/
theorem savesVersion_crowded : Key.isAllowed "f" = true ∧ Store.read "f" crowded = .ok "t" ∧
    Store.freeKey ⟨0⟩ "f" 0 crowded = "f.19700101T000000.000000Z-0002" ∧
    SavesVersion Blake3.ofText ⟨0⟩ "f" (some (.obj [("author", .str "a")])) crowded := by
  have hallowed : Key.isAllowed "f" = true := by decide +kernel
  exact ⟨hallowed, rfl, by decide +kernel, savesVersion hallowed _ _ _ _⟩

/-- Metadata that is read back by itself may make an account that cannot be read. -/
theorem account_nested_unreadable :
    Json.read? (RoleMemory.nested 127).compact = some (RoleMemory.nested 127) ∧
      Key.isAllowed "f" = true ∧ Store.read "f" crowded = .ok "t" ∧ ∃ v s' text,
        Store.saveVersion Blake3.ofText ⟨0⟩ "f" (RoleMemory.nested 127) 0 crowded = (.ok v, s') ∧
          Store.read (Key.account v) s' = .ok text ∧ Json.read? text = none := by
  have hallowed : Key.isAllowed "f" = true := by decide +kernel
  have hread : Json.read? (RoleMemory.nested 127).compact = some (RoleMemory.nested 127) :=
    Json.read?_compact_eq_some_iff.2 ⟨by decide +kernel, by decide +kernel⟩
  have hdepth : ¬(RoleMemory.nested 127).depth < Json.maxDepth := by decide +kernel
  have hnone : Json.read?
      (Store.account Blake3.ofText ⟨0⟩ "f" "t" (RoleMemory.nested 127)).compact = none := by
    rw [read?_account hread, if_neg hdepth]
  refine ⟨hread, hallowed, rfl, _, _, _, saveVersion_of_isAllowed hallowed rfl, ?_, hnone⟩
  rw [read_eq_ok_iff, withVersion, find?_set, if_pos rfl]

end MemoryStore

end Taskweave
