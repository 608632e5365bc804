import Mathlib.Data.String.Basic
import Taskweave.Dict

/-!
# Looking up in dictionaries

One equation of `Dict.find?` for each way of changing a dictionary. None of them asks for the order
of the entries; that `Dict.insert` keeps them ascending is `Dict.Ascending.insert`, from which the
keys of a dictionary built by `Dict.ofList` are distinct.
-/

namespace Taskweave.Dict

variable {α β : Type}

/-- The entries stand in ascending order of their keys, so each key stands once. -/
def Ascending (d : Dict α) : Prop := (keys d).Pairwise (· < ·)

@[simp] theorem find?_nil (k : String) : find? ([] : Dict α) k = none := rfl

/-- The head of a dictionary is found first. -/
theorem find?_cons (e : String × α) (d : Dict α) (k : String) :
    find? (e :: d) k = if k = e.1 then some e.2 else find? d k := by
  obtain ⟨k', v⟩ := e
  unfold find?
  rw [List.lookup_cons]
  by_cases h : k = k'
  · simp [h]
  · rw [beq_false_of_ne h, if_neg h]

/-- A key is bound if it is among the keys. -/
theorem find?_isSome_iff {d : Dict α} {k : String} : (find? d k).isSome ↔ k ∈ keys d := by
  induction d with
  | nil => simp [keys]
  | cons e d ih =>
    rw [find?_cons]
    by_cases h : k = e.1
    · simp [h, keys]
    · rw [if_neg h, ih]
      simp [h, keys]

/-- A binding that is found is an entry. -/
theorem mem_of_find? {d : Dict α} {k : String} {v : α} (h : find? d k = some v) : (k, v) ∈ d := by
  induction d with
  | nil => cases h
  | cons e d ih =>
    rw [find?_cons] at h
    split at h
    · next hk =>
      rw [← Option.some.inj h, hk]
      exact List.mem_cons_self
    · exact List.mem_cons_of_mem _ (ih h)

/-- Where each key stands once, a binding that is found is an entry. -/
theorem find?_eq_some_iff {d : Dict α} {k : String} {v : α} (h : (keys d).Nodup) :
    find? d k = some v ↔ (k, v) ∈ d := by
  induction d with
  | nil => exact ⟨nofun, fun hmem => absurd hmem List.not_mem_nil⟩
  | cons e d ih =>
    obtain ⟨k₀, v₀⟩ := e
    obtain ⟨hhead, htail⟩ := List.nodup_cons.1 h
    rw [find?_cons, List.mem_cons, Prod.mk.injEq]
    by_cases hk : k = k₀
    · have hnot : (k, v) ∉ d := fun hmem => hhead (List.mem_map.2 ⟨_, hmem, hk⟩)
      rw [if_pos hk, Option.some_inj]
      exact ⟨fun he => .inl ⟨hk, he.symm⟩, fun hor => (hor.resolve_right hnot).2.symm⟩
    · simp [hk, ih htail]

/-- A key is found after an insertion if it was inserted or was there before. -/
theorem find?_insert (d : Dict α) (k k' : String) (v : α) :
    find? (insert d k v) k' = if k' = k then some v else find? d k' := by
  induction d with
  | nil => rw [insert, find?_cons]
  | cons e d ih =>
    obtain ⟨k₀, v₀⟩ := e
    rw [insert]
    split
    · exact find?_cons _ _ _
    · split
      · next heq =>
        subst heq
        rw [find?_cons, find?_cons]
        by_cases h : k' = k
        · simp [h]
        · simp [h]
      · next hne =>
        rw [find?_cons, find?_cons, ih]
        by_cases h : k' = k
        · subst h; simp [hne]
        · simp [h]

theorem update_cons (e : String × α) (d : Dict α) (k : String) (f : α → α) :
    update (e :: d) k f = (if e.1 = k then (e.1, f e.2) else e) :: update d k f := rfl

/-- Rebinding a key changes what is found for that key alone. -/
theorem find?_update (d : Dict α) (k k' : String) (f : α → α) :
    find? (update d k f) k' = if k' = k then (find? d k').map f else find? d k' := by
  induction d with
  | nil => simp [update]
  | cons e d ih =>
    rw [update_cons, find?_cons, find?_cons, ih]
    by_cases hk : k' = k
    · by_cases he : e.1 = k
      · simp [hk, he]
      · simp [hk, he, Ne.symm he]
    · by_cases he : e.1 = k
      · simp [hk, he]
      · simp [hk, he]

/-- Rebinding a key that is not bound changes nothing. -/
theorem update_of_find?_eq_none {d : Dict α} {k : String} (h : find? d k = none) (f : α → α) :
    update d k f = d := by
  induction d with
  | nil => rfl
  | cons e d ih =>
    rw [find?_cons] at h
    split at h
    · cases h
    · next hne => rw [update_cons, if_neg (Ne.symm hne), ih h]

/-- Building a dictionary from keys and what a function gives for them: each of the keys is bound to
what it is given, if it is given something. -/
theorem find?_foldl_filterMap (f : String → Option α) (ks : List String) (d : Dict α)
    (k : String) :
    find? ((ks.filterMap fun k => (f k).map fun v => (k, v)).foldl
        (fun d e => insert d e.1 e.2) d) k =
      if k ∈ ks then (f k).or (find? d k) else find? d k := by
  induction ks generalizing d with
  | nil => simp
  | cons k' ks ih =>
    rw [List.filterMap_cons]
    cases hf : f k' with
    | none =>
      simp only [Option.map_none, ih, List.mem_cons]
      by_cases h : k = k'
      · simp [h, hf]
      · simp [h]
    | some v =>
      simp only [Option.map_some, List.foldl_cons, ih, find?_insert, List.mem_cons]
      by_cases h : k = k'
      · simp [h, hf]
      · simp [h]

/-- What is found in a dictionary built from keys and what a function gives for them. -/
theorem find?_ofList_filterMap (f : String → Option α) (ks : List String) (k : String) :
    find? (ofList (ks.filterMap fun k => (f k).map fun v => (k, v))) k =
      if k ∈ ks then f k else none := by
  rw [ofList, find?_foldl_filterMap]
  simp

/-- A key among those of a dictionary after an insertion is the new one or an old one. -/
theorem mem_keys_insert {d : Dict α} {k k' : String} {v : α} (h : k' ∈ keys (insert d k v)) :
    k' = k ∨ k' ∈ keys d := by
  rw [← find?_isSome_iff, find?_insert] at h
  split at h
  · exact .inl ‹_›
  · exact .inr (find?_isSome_iff.1 h)

/-- An entry after an insertion is the new one or an old one. -/
theorem mem_insert {d : Dict α} {k : String} {v : α} {e : String × α} (h : e ∈ insert d k v) :
    e = (k, v) ∨ e ∈ d := by
  induction d with
  | nil => exact .inl (List.mem_singleton.1 h)
  | cons e' d ih =>
    rw [insert] at h
    split at h
    · exact List.mem_cons.1 h
    · split at h
      · exact (List.mem_cons.1 h).imp_right (List.mem_cons_of_mem _)
      · rcases List.mem_cons.1 h with rfl | h
        · exact .inr List.mem_cons_self
        · exact (ih h).imp_right (List.mem_cons_of_mem _)

/-- An entry of two dictionaries put together is one of theirs. -/
theorem mem_merge {d d' : Dict α} {e : String × α} (h : e ∈ merge d d') : e ∈ d ∨ e ∈ d' := by
  induction d' generalizing d with
  | nil => exact .inl h
  | cons e' d' ih =>
    rcases ih h with h | h
    · exact (mem_insert h).elim (fun he => .inr (he ▸ List.mem_cons_self)) .inl
    · exact .inr (List.mem_cons_of_mem _ h)

/-- A key that is not bound adds an entry and leaves the others as they are. -/
theorem perm_insert {d : Dict α} {k : String} (v : α) (h : k ∉ keys d) :
    (insert d k v).Perm ((k, v) :: d) := by
  induction d with
  | nil => exact .refl _
  | cons e d ih =>
    obtain ⟨hne, hk⟩ := not_or.1 (List.mem_cons.not.1 (show k ∉ e.1 :: keys d from h))
    rw [insert]
    split
    · exact .refl _
    · exact ((ih hk).cons _).trans (.swap _ _ _)

/-- An insertion keeps the order of the keys. -/
theorem Ascending.insert {d : Dict α} (h : Ascending d) (k : String) (v : α) :
    Ascending (insert d k v) := by
  induction d with
  | nil => exact List.pairwise_singleton _ _
  | cons e d ih =>
    obtain ⟨hhead, htail⟩ := List.pairwise_cons.1 h
    rw [Dict.insert]
    split
    · next hlt =>
      refine List.pairwise_cons.2 ⟨fun k' hk' => ?_, h⟩
      rcases List.mem_cons.1 hk' with rfl | hk'
      · exact hlt
      · exact lt_trans hlt (hhead k' hk')
    · split
      · next heq => exact List.pairwise_cons.2 ⟨heq ▸ hhead, htail⟩
      · next hlt hne =>
        refine List.pairwise_cons.2 ⟨fun k' hk' => ?_, ih htail⟩
        rcases mem_keys_insert hk' with rfl | hk'
        · exact lt_of_le_of_ne (not_lt.1 hlt) (Ne.symm hne)
        · exact hhead k' hk'

/-- Adding entries one after the other keeps the order of the keys. -/
theorem Ascending.foldl {d : Dict α} (h : Ascending d) (entries : List (String × α)) :
    Ascending (entries.foldl (fun d e => Dict.insert d e.1 e.2) d) := by
  induction entries generalizing d with
  | nil => exact h
  | cons e entries ih => exact ih (h.insert e.1 e.2)

/-- A dictionary built from a list is in order. -/
theorem ascending_ofList (entries : List (String × α)) : Ascending (ofList entries) :=
  Ascending.foldl (d := []) List.Pairwise.nil entries

/-- Entries whose keys are distinct are those of the dictionary that is built from them. -/
theorem perm_ofList {entries : List (String × α)} (h : (keys entries).Nodup) :
    (ofList entries).Perm entries := by
  have hfoldl : ∀ (entries before : Dict α), (keys (before ++ entries)).Nodup →
      (entries.foldl (fun d e => insert d e.1 e.2) before).Perm (before ++ entries) := by
    intro entries
    induction entries with
    | nil => exact fun before _ => .of_eq (List.append_nil before).symm
    | cons e entries ih =>
      intro before hnd
      have hmoved : (e :: (before ++ entries)).Perm (before ++ e :: entries) :=
        List.perm_middle.symm
      have hkeys : (keys (e :: (before ++ entries))).Nodup := (hmoved.map _).nodup_iff.2 hnd
      have hfresh : e.1 ∉ keys before := fun hk =>
        (List.nodup_cons.1 hkeys).1 (List.map_subset _ (List.subset_append_left _ _) hk)
      have hinsert := (perm_insert e.2 hfresh).append_right entries
      exact (ih _ ((hinsert.map _).nodup_iff.2 hkeys)).trans (hinsert.trans hmoved)
  exact hfoldl entries [] h

/-- A key above all others is put at the end. -/
theorem insert_of_forall_lt {d : Dict α} {k : String} (v : α) (h : ∀ k' ∈ keys d, k' < k) :
    insert d k v = d ++ [(k, v)] := by
  induction d with
  | nil => rfl
  | cons e d ih =>
    obtain ⟨hhead, htail⟩ := List.forall_mem_cons.1 (show ∀ k' ∈ e.1 :: keys d, k' < k from h)
    rw [insert, if_neg (lt_asymm hhead), if_neg (ne_of_gt hhead), ih htail]
    rfl

/-- A dictionary in order is built from its entries. -/
theorem ofList_of_ascending {d : Dict α} (h : Ascending d) : ofList d = d := by
  have hfoldl : ∀ (entries before : Dict α), Ascending (before ++ entries) →
      entries.foldl (fun d e => insert d e.1 e.2) before = before ++ entries := by
    intro entries
    induction entries with
    | nil => exact fun before _ => (List.append_nil before).symm
    | cons e entries ih =>
      intro before hbefore
      have happend : before ++ e :: entries = before ++ [e] ++ entries := by simp
      have hlt : ∀ k ∈ keys before, k < e.1 := by
        intro k hk
        rw [Ascending, keys, List.map_append, List.pairwise_append] at hbefore
        exact hbefore.2.2 k hk e.1 List.mem_cons_self
      rw [List.foldl_cons, insert_of_forall_lt e.2 hlt, happend]
      exact ih _ (happend ▸ hbefore)
  exact hfoldl d [] h

/-- Two dictionaries in order with the same entries are the same. -/
theorem Ascending.ext {d d' : Dict α} (h : Ascending d) (h' : Ascending d')
    (hentries : ∀ e, e ∈ d ↔ e ∈ d') : d = d' := by
  have hlt : d.Pairwise fun a b => a.1 < b.1 := List.pairwise_map.1 h
  have hlt' : d'.Pairwise fun a b => a.1 < b.1 := List.pairwise_map.1 h'
  have hne {a b : String × α} (hab : a.1 < b.1) : a ≠ b := fun heq => ne_of_lt hab (heq ▸ rfl)
  have hperm : d.Perm d' :=
    (List.perm_ext_iff_of_nodup (hlt.imp hne) (hlt'.imp hne)).2 hentries
  exact hperm.eq_of_pairwise (fun _ _ _ _ hab hba => absurd hba (lt_asymm hab)) hlt hlt'

/-- The keys of a dictionary in order are distinct. -/
theorem Ascending.nodup {d : Dict α} (h : Ascending d) : (keys d).Nodup :=
  h.imp ne_of_lt

end Taskweave.Dict

namespace Taskweave

/-- Sorting keeps the entries. -/
@[simp] theorem mem_sortedStrings {x : String} {xs : List String} :
    x ∈ sortedStrings xs ↔ x ∈ xs := List.mem_mergeSort

/-- Sorting repeats no entry. -/
theorem nodup_sortedStrings {xs : List String} (h : xs.Nodup) : (sortedStrings xs).Nodup :=
  (List.mergeSort_perm xs _).nodup_iff.2 h

/-- A sorted list that names nothing twice ascends. -/
theorem ascending_sortedStrings {xs : List String} (h : xs.Nodup) :
    (sortedStrings xs).Pairwise (· < ·) := by
  have hsorted : (sortedStrings xs).Pairwise fun a b => decide (a ≤ b) = true :=
    List.pairwise_mergeSort (fun a b c hab hbc => by
      rw [decide_eq_true_eq] at hab hbc ⊢
      exact le_trans hab hbc) (fun a b => by
      rw [Bool.or_eq_true, decide_eq_true_eq, decide_eq_true_eq]
      exact le_total a b) xs
  refine (hsorted.and (nodup_sortedStrings h)).imp fun {a b} hab => ?_
  exact lt_of_le_of_ne (of_decide_eq_true hab.1) hab.2

/-- What is in a set is what it is made of. -/
@[simp] theorem mem_sortedSet {x : String} {xs : List String} : x ∈ sortedSet xs ↔ x ∈ xs := by
  have hfoldl : ∀ (xs : List String) (d : Dict Unit),
      x ∈ ((xs.map fun x => (x, ())).foldl (fun d e => Dict.insert d e.1 e.2) d).keys ↔
        x ∈ d.keys ∨ x ∈ xs := by
    intro xs
    induction xs with
    | nil => simp
    | cons y xs ih =>
      intro d
      rw [List.map_cons, List.foldl_cons, ih, ← Dict.find?_isSome_iff, Dict.find?_insert,
        List.mem_cons]
      by_cases h : x = y
      · simp [h]
      · simp [h, Dict.find?_isSome_iff]
  exact (hfoldl xs []).trans (or_iff_right List.not_mem_nil)

/-- A set is listed in ascending order. -/
theorem ascending_sortedSet (xs : List String) : (sortedSet xs).Pairwise (· < ·) :=
  Dict.ascending_ofList _

/-- Two ascending lists with the same members are the same. -/
theorem eq_of_ascending {xs ys : List String} (hxs : xs.Pairwise (· < ·)) (hys : ys.Pairwise (· < ·))
    (h : ∀ x, x ∈ xs ↔ x ∈ ys) : xs = ys := by
  have hperm : xs.Perm ys :=
    (List.perm_ext_iff_of_nodup (hxs.imp ne_of_lt) (hys.imp ne_of_lt)).2 h
  exact hperm.eq_of_pairwise (fun _ _ _ _ hab hba => absurd hba (lt_asymm hab)) hxs hys

/-- Lists that name the same, and nothing twice, are the same when they are sorted. -/
theorem sortedStrings_congr {xs ys : List String} (hxs : xs.Nodup) (hys : ys.Nodup)
    (h : ∀ x, x ∈ xs ↔ x ∈ ys) : sortedStrings xs = sortedStrings ys :=
  eq_of_ascending (ascending_sortedStrings hxs) (ascending_sortedStrings hys) fun x => by
    rw [mem_sortedStrings, mem_sortedStrings, h]

end Taskweave
