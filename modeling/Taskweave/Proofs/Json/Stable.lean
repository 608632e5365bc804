import Taskweave.Proofs.Dict
import Taskweave.Proofs.Json.Rereading

/-!
# Values that stay as they are

A value is stable when what its text is read as is the value itself, but for its depth: its numbers
come back, and the fields of its objects are in order (`Json.isStable_obj_iff`). Objects that are put
together of stable ones are stable (`Json.IsStable.merge`).

What is read from a text is no deeper than the reader goes (`Json.depth_le_of_read?`), which goes along
the steps of the reader for values, items and fields together.
-/

namespace Taskweave

namespace Json

/-- What the printed value is read as is the value itself, unless it is nested too deeply: its numbers
come back, and the fields of its objects are in order. -/
def IsStable (v : Json) : Prop := v.reread? = some v

instance : DecidablePred IsStable := fun v => inferInstanceAs (Decidable (v.reread? = some v))

section
variable {v : Json} {fields fields' : Dict Json} {n : Nat}

/-- Fields are read as they were written exactly when the value of each of them is. -/
theorem rereadFields?_eq_self_iff :
    rereadFields? fields = some fields ↔ ∀ e ∈ fields, e.2.IsStable := by
  induction fields with
  | nil => simp [rereadFields?]
  | cons e fields ih =>
    obtain ⟨k, v⟩ := e
    rw [rereadFields?, List.forall_mem_cons, ← ih, IsStable]
    constructor
    · intro h
      obtain ⟨w, hw, h⟩ := Option.bind_eq_some_iff.1 h
      obtain ⟨fs, hfs, h⟩ := Option.map_eq_some_iff.1 h
      rw [List.cons.injEq, Prod.mk.injEq] at h
      obtain ⟨⟨-, rfl⟩, rfl⟩ := h
      exact ⟨hw, hfs⟩
    · rintro ⟨hv, hfields⟩
      rw [hv, hfields]
      rfl

/-- What fields are read as has their names. -/
theorem keys_of_rereadFields? (h : rereadFields? fields = some fields') :
    Dict.keys fields' = Dict.keys fields := by
  induction fields generalizing fields' with
  | nil =>
    rw [rereadFields?, Option.some.injEq] at h
    rw [← h]
  | cons e fields ih =>
    obtain ⟨k, v⟩ := e
    obtain ⟨w, -, h⟩ := Option.bind_eq_some_iff.1 h
    obtain ⟨fs, hfs, rfl⟩ := Option.map_eq_some_iff.1 h
    exact congrArg (k :: ·) (ih hfs)

/-- An object is read as it was written exactly when its fields are in order and their values are. -/
theorem isStable_obj_iff :
    (obj fields).IsStable ↔ Dict.Ascending fields ∧ ∀ e ∈ fields, e.2.IsStable := by
  rw [← rereadFields?_eq_self_iff]
  constructor
  · intro h
    obtain ⟨fs, hfs, hobj⟩ := Option.map_eq_some_iff.1 (show (rereadFields? fields).map _ = _ from h)
    have hofList : Dict.ofList fs = fields := obj.inj hobj
    have hascending : Dict.Ascending fields := hofList ▸ Dict.ascending_ofList fs
    have hself : Dict.ofList fs = fs := by
      refine Dict.ofList_of_ascending ?_
      rw [Dict.Ascending, keys_of_rereadFields? hfs]
      exact hascending
    exact ⟨hascending, by rw [hfs, ← hself, hofList]⟩
  · rintro ⟨hascending, hfields⟩
    exact reread?_obj hascending hfields

/-- Two objects put together are read as they were written if they are. -/
theorem IsStable.merge (h : (obj fields).IsStable) (h' : (obj fields').IsStable) :
    (obj (Dict.merge fields fields')).IsStable := by
  rw [isStable_obj_iff] at h h' ⊢
  exact ⟨h.1.foldl fields', fun e he => (Dict.mem_merge he).elim (h.2 e) (h'.2 e)⟩

/-- Fields are no deeper than each of their values. -/
theorem depthFields_le_iff : depthFields fields ≤ n ↔ ∀ e ∈ fields, e.2.depth ≤ n := by
  induction fields with
  | nil => simp [depthFields]
  | cons e fields ih =>
    obtain ⟨k, v⟩ := e
    rw [depthFields, Nat.max_le, ih, List.forall_mem_cons]

/-- Two objects put together are no deeper than they are. -/
theorem depthFields_merge_le (h : depthFields fields ≤ n) (h' : depthFields fields' ≤ n) :
    depthFields (Dict.merge fields fields') ≤ n := by
  rw [depthFields_le_iff] at h h' ⊢
  exact fun e he => (Dict.mem_merge he).elim (h e) (h' e)

/-- Items are no deeper than each of them. -/
theorem depthItems_le_iff {items : List Json} : depthItems items ≤ n ↔ ∀ v ∈ items, v.depth ≤ n := by
  induction items with
  | nil => simp [depthItems]
  | cons v items ih => rw [depthItems, Nat.max_le, ih, List.forall_mem_cons]

end

/-! ## What is read -/

mutual

/-- A value that is read is no deeper than the reader goes. -/
theorem depth_le_of_value? : ∀ {fuel d : Nat} {cs rest : List Char} {v : Json},
    value? fuel d cs = some (v, rest) → v.depth ≤ d
  | 0, _, _, _, _, h => nomatch h
  | fuel + 1, d, cs, rest, v, h => by
    rw [value?] at h
    split at h
    case h_1 | h_2 | h_3 =>
      rw [Option.some.injEq, Prod.mk.injEq] at h
      exact h.1 ▸ Nat.zero_le d
    case h_4 =>
      obtain ⟨_, -, h⟩ := Option.map_eq_some_iff.1 h
      rw [Prod.mk.injEq] at h
      exact h.1 ▸ Nat.zero_le d
    case h_5 =>
      split at h
      · cases h
      · split at h
        · rw [Option.some.injEq, Prod.mk.injEq] at h
          exact h.1 ▸ Nat.succ_le_succ (Nat.zero_le _)
        · exact depth_le_of_items? (List.forall_mem_nil _) h
    case h_6 =>
      split at h
      · cases h
      · split at h
        · rw [Option.some.injEq, Prod.mk.injEq] at h
          exact h.1 ▸ Nat.succ_le_succ (Nat.zero_le _)
        · exact depth_le_of_fields? (List.forall_mem_nil _) h
    case h_7 =>
      split at h
      · cases h
      · obtain ⟨_, -, h⟩ := Option.map_eq_some_iff.1 h
        rw [Prod.mk.injEq] at h
        exact h.1 ▸ Nat.zero_le d

/-- So are the items of an array, with those that have been read before. -/
theorem depth_le_of_items? : ∀ {fuel d : Nat} {read : List Json} {cs rest : List Char} {v : Json},
    (∀ w ∈ read, w.depth ≤ d) → items? fuel d read cs = some (v, rest) → v.depth ≤ d + 1
  | 0, _, _, _, _, _, _, h => nomatch h
  | fuel + 1, d, read, cs, rest, v, hread, h => by
    rw [items?] at h
    split at h
    · cases h
    · next w more hw =>
      have hall : ∀ u ∈ w :: read, u.depth ≤ d :=
        List.forall_mem_cons.2 ⟨depth_le_of_value? hw, hread⟩
      split at h
      · exact depth_le_of_items? hall h
      · rw [Option.some.injEq, Prod.mk.injEq] at h
        rw [← h.1, depth, Nat.succ_le_succ_iff, depthItems_le_iff]
        exact fun u hu => hall u (List.mem_reverse.1 hu)
      · cases h

/-- And the fields of an object. -/
theorem depth_le_of_fields? : ∀ {fuel d : Nat} {dict : Dict Json} {cs rest : List Char} {v : Json},
    (∀ e ∈ dict, e.2.depth ≤ d) → fields? fuel d dict cs = some (v, rest) → v.depth ≤ d + 1
  | 0, _, _, _, _, _, _, h => nomatch h
  | fuel + 1, d, dict, cs, rest, v, hdict, h => by
    rw [fields?] at h
    split at h
    case h_2 => cases h
    split at h
    case h_1 => cases h
    next k more hk =>
    split at h
    case h_2 => cases h
    split at h
    case h_1 => cases h
    next w more hw =>
    have hall : ∀ e ∈ Dict.insert dict k w, e.2.depth ≤ d := by
      intro e he
      rcases Dict.mem_insert he with rfl | he
      · exact depth_le_of_value? hw
      · exact hdict e he
    split at h
    · exact depth_le_of_fields? hall h
    · rw [Option.some.injEq, Prod.mk.injEq] at h
      rw [← h.1, depth, Nat.succ_le_succ_iff, depthFields_le_iff]
      exact hall
    · cases h

end

/-- What is read from a text is no deeper than the reader goes. -/
theorem depth_le_of_read? {text : String} {v : Json} (h : read? text = some v) :
    v.depth ≤ maxDepth := by
  rw [read?, readChars?] at h
  split at h
  · next w rest hw =>
    split at h
    · exact Option.some.inj h ▸ depth_le_of_value? hw
    · cases h
  · cases h

end Json

end Taskweave
