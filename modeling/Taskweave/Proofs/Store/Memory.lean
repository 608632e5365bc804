import Taskweave.Proofs.Dict
import Taskweave.Proofs.Store.Keys
import Taskweave.Store.Memory

/-!
# What the store in memory does

All that changes a store in memory binds one key to one text (`MemoryStore.set`), if the key is allowed
(`MemoryStore.put_of_isAllowed`). Saving a version either is refused and leaves the store as it is, or
binds a candidate that was free to the text of the key and the account of the candidate to what is
known about it (`MemoryStore.saveVersion_cases`).
-/

namespace Taskweave

namespace MemoryStore

variable {s s' : MemoryStore} {path k content : String}

/-- The keys stand in ascending order, so each stands once. -/
def WellFormed (s : MemoryStore) : Prop := Dict.Ascending s.files

/-- Binds a key to a text. -/
def set (s : MemoryStore) (path content : String) : MemoryStore := ⟨Dict.insert s.files path content⟩

/-! ## Keys -/

theorem find?_set (s : MemoryStore) (path content k : String) :
    (s.set path content).find? k = if k = path then some content else s.find? k :=
  Dict.find?_insert s.files path k content

theorem mem_keys : k ∈ s.keys ↔ (s.find? k).isSome = true := Dict.find?_isSome_iff.symm

theorem mem_keys_set : k ∈ (s.set path content).keys ↔ k = path ∨ k ∈ s.keys := by
  rw [mem_keys, mem_keys, find?_set]
  split
  · next h => simp [h]
  · next h => simp [h]

theorem WellFormed.set (h : s.WellFormed) (path content : String) :
    (s.set path content).WellFormed := Dict.Ascending.insert h path content

theorem wellFormed_empty : empty.WellFormed := List.Pairwise.nil

theorem length_keys (s : MemoryStore) : s.keys.length = s.files.length := List.length_map _

/-! ## Writing -/

theorem put_of_isAllowed (h : Key.isAllowed path = true) :
    put path content s = (.ok (), s.set path content) := by
  rw [put, Key.check, if_pos h]
  rfl

/-- A key that is not allowed is refused, and nothing changes. -/
theorem put_of_not_isAllowed (h : Key.isAllowed path = false) :
    put path content s = (.error (.config (.invalidPath path)), s) := by
  rw [put, Key.check, h]
  rfl

/-- No key is lost by writing. -/
theorem keys_subset_put (path content : String) (s : MemoryStore) :
    s.keys ⊆ (put path content s).2.keys := by
  intro k hk
  cases hallowed : Key.isAllowed path with
  | false => rwa [put_of_not_isAllowed hallowed]
  | true =>
    rw [put_of_isAllowed hallowed]
    exact mem_keys_set.2 (.inr hk)

/-- A text is read back if there is one. -/
theorem read_eq : Store.read path s =
    match s.find? path with
    | some content => .ok content
    | none => .error (.notFound path) := rfl

theorem write_eq : Store.write path content s = put path content s := rfl

/-! ## Saving versions -/

section
variable {digest : String → String} {now : Instant} {metadata : Json} {reserved n : Nat}
  {v : String}

/-- A key is taken when there is a text under it. -/
theorem has_eq_true : Store.has k s = true ↔ k ∈ s.keys := mem_keys.symm

/-- The key for a version is a candidate. -/
theorem exists_freeKey (now : Instant) (path : String) (reserved : Nat) (s : MemoryStore) :
    ∃ n, Store.freeKey now path reserved s = Key.candidate (Key.version path now) n := by
  rw [Store.freeKey]
  generalize Store.size s = fuel
  induction fuel generalizing reserved with
  | zero => exact ⟨reserved, rfl⟩
  | succ fuel ih =>
    rw [Key.firstFree]
    split
    · exact ih (reserved + 1)
    · exact ⟨reserved, rfl⟩

/-- The key for a version is the first candidate that is free: there are no more taken ones than
there are keys, so the search comes to it. -/
theorem freeKey_eq (hfree : Key.candidate (Key.version path now) n ∉ s.keys)
    (hbusy : ∀ k, k < n → Key.candidate (Key.version path now) k ∈ s.keys) :
    Store.freeKey now path 0 s = Key.candidate (Key.version path now) n := by
  have hfuel : n ≤ Store.size s := by
    have hle := Key.le_length_of_candidates hbusy
    rw [length_keys] at hle
    exact hle
  refine Key.firstFree_eq ?_ (Nat.zero_le n) (fun k _ hk => has_eq_true.2 (hbusy k hk)) (by omega)
  rw [Bool.eq_false_iff]
  exact fun h => hfree (has_eq_true.1 h)

/-- The store after a version has been saved under a key. -/
def withVersion (digest : String → String) (now : Instant) (path content : String)
    (metadata : Json) (v : String) (s : MemoryStore) : MemoryStore :=
  (s.set v content).set (Key.account v) (Store.account digest now path content metadata).compact

/-- Saving a version is refused and changes nothing, or takes a candidate that is allowed and binds
it to the text of the key. -/
theorem saveVersion_cases (digest : String → String) (now : Instant) (path : String)
    (metadata : Json) (reserved : Nat) (s : MemoryStore) :
    (∃ e, Store.saveVersion digest now path metadata reserved s = (.error e, s)) ∨
      ∃ content, s.find? path = some content ∧
        Key.isAllowed (Store.freeKey now path reserved s) = true ∧
        Store.saveVersion digest now path metadata reserved s =
          (.ok (Store.freeKey now path reserved s),
            s.withVersion digest now path content metadata (Store.freeKey now path reserved s)) := by
  cases hfind : s.find? path with
  | none =>
    left
    exact ⟨.notFound path, by rw [Store.saveVersion, read_eq, hfind]⟩
  | some content =>
    cases hallowed : Key.isAllowed (Store.freeKey now path reserved s) with
    | false =>
      left
      refine ⟨.config (.invalidPath (Store.freeKey now path reserved s)), ?_⟩
      rw [Store.saveVersion, read_eq, hfind]
      simp only [write_eq, put_of_not_isAllowed hallowed]
    | true =>
      right
      refine ⟨content, rfl, rfl, ?_⟩
      rw [Store.saveVersion, read_eq, hfind]
      simp only [write_eq, put_of_isAllowed hallowed,
        put_of_isAllowed (Key.isAllowed_account hallowed)]
      rfl

/-- A version of an allowed key with a text is saved. -/
theorem saveVersion_of_isAllowed {content : String} (hallowed : Key.isAllowed path = true)
    (hfind : s.find? path = some content) :
    Store.saveVersion digest now path metadata reserved s =
      (.ok (Store.freeKey now path reserved s),
        s.withVersion digest now path content metadata (Store.freeKey now path reserved s)) := by
  obtain ⟨n, hn⟩ := exists_freeKey now path reserved s
  have hcandidate := Key.isAllowed_candidate hallowed now n
  rw [← hn] at hcandidate
  rw [Store.saveVersion, read_eq, hfind]
  simp only [write_eq, put_of_isAllowed hcandidate,
    put_of_isAllowed (Key.isAllowed_account hcandidate)]
  rfl

/-- What a version that was saved is, and what it leaves. -/
theorem saveVersion_ok (h : Store.saveVersion digest now path metadata reserved s = (.ok v, s')) :
    ∃ content n, s.find? path = some content ∧ v = Key.candidate (Key.version path now) n ∧
      v = Store.freeKey now path reserved s ∧
      s' = s.withVersion digest now path content metadata v := by
  rcases saveVersion_cases digest now path metadata reserved s with ⟨e, heq⟩ | ⟨content, hfind, -, heq⟩
  · rw [heq] at h
    cases h
  · rw [heq, Prod.mk.injEq, Except.ok.injEq] at h
    obtain ⟨rfl, rfl⟩ := h
    obtain ⟨n, hn⟩ := exists_freeKey now path reserved s
    exact ⟨content, n, hfind, hn, rfl, rfl⟩

/-- Saving a version concerns two keys. -/
theorem find?_withVersion_of_ne (h : k ≠ v) (haccount : k ≠ Key.account v) :
    (s.withVersion digest now path content metadata v).find? k = s.find? k := by
  rw [withVersion, find?_set, if_neg haccount, find?_set, if_neg h]

theorem mem_keys_withVersion : k ∈ (s.withVersion digest now path content metadata v).keys ↔
    k = Key.account v ∨ k = v ∨ k ∈ s.keys := by
  rw [withVersion, mem_keys_set, mem_keys_set]

theorem WellFormed.withVersion (h : s.WellFormed) :
    (s.withVersion digest now path content metadata v).WellFormed :=
  (h.set _ _).set _ _

end

end MemoryStore

end Taskweave
