import Taskweave.Proofs.Dict
import Taskweave.Proofs.Json.Numerals
import Taskweave.Proofs.Json.Strings

/-!
# Reading what was printed

`Json.reread?` is what a printed value is read as: all but its numbers come back as they were, but for
the order of the fields of an object, which are sorted, the later of two with one name staying. The
reader gives just that, whatever follows the value, unless it is nested too deeply
(`Json.value?_compact`). The proof follows the value; the items of an array and the fields of an
object go with it (`Json.items?_compact`, `Json.fields?_compact`), each with the steps of the reader
that its length allows.
-/

namespace Taskweave.Json

mutual

/-- The levels of arrays and objects. -/
def depth : Json → Nat
  | .null | .bool _ | .num _ | .str _ => 0
  | .arr items => depthItems items + 1
  | .obj fields => depthFields fields + 1

/-- The levels within an array. -/
def depthItems : List Json → Nat
  | [] => 0
  | v :: items => max (depth v) (depthItems items)

/-- The levels within an object. -/
def depthFields : List (String × Json) → Nat
  | [] => 0
  | (_, v) :: fields => max (depth v) (depthFields fields)

end

mutual

/-- What a printed value is read as, `none` if one of its numbers is not read. -/
def reread? : Json → Option Json
  | .null => some .null
  | .bool b => some (.bool b)
  | .num n => (rereadNumber? n).map .num
  | .str s => some (.str s)
  | .arr items => (rereadItems? items).map .arr
  | .obj fields => (rereadFields? fields).map fun fields => .obj (Dict.ofList fields)

/-- What the items of an array are read as. -/
def rereadItems? : List Json → Option (List Json)
  | [] => some []
  | v :: items => (reread? v).bind fun w => (rereadItems? items).map (w :: ·)

/-- What the fields of an object are read as, in the order in which they are written. -/
def rereadFields? : List (String × Json) → Option (List (String × Json))
  | [] => some []
  | (k, v) :: fields => (reread? v).bind fun w => (rereadFields? fields).map ((k, w) :: ·)

end

section
variable {v w : Json} {k : String} {c : Char} {cs rest : List Char} {fuel d : Nat}
  {read : List Json} {dict : Dict Json}

/-! ## Beginnings -/

/-- A character that begins a value begins neither blanks nor the end of a container. -/
def Begins (c : Char) : Prop := isBlank c = false ∧ c ≠ ']' ∧ c ≠ '\x7d'

theorem begins_of_isDigit (h : c.isDigit = true ∨ c = '-') : Begins c := by
  rcases h with h | rfl
  · refine ⟨?_, ?_, ?_⟩
    · rw [Bool.eq_false_iff]
      intro hblank
      simp only [isBlank, Bool.or_eq_true, beq_iff_eq] at hblank
      rcases hblank with ((rfl | rfl) | rfl) | rfl
      all_goals exact absurd h (by decide)
    · rintro rfl
      exact absurd h (by decide)
    · rintro rfl
      exact absurd h (by decide)
  · exact ⟨rfl, by decide, by decide⟩

/-- A printed value begins a value. -/
theorem exists_compactChars (v : Json) : ∃ c cs, compactChars v = c :: cs ∧ Begins c := by
  cases v with
  | null => exact ⟨_, _, rfl, rfl, by decide, by decide⟩
  | bool b =>
    cases b with
    | true => exact ⟨_, _, rfl, rfl, by decide, by decide⟩
    | false => exact ⟨_, _, rfl, rfl, by decide, by decide⟩
  | num n =>
    obtain ⟨c, cs, hcons, hc⟩ := head?_numberChars n
    exact ⟨c, cs, by rw [compactChars, hcons], begins_of_isDigit hc⟩
  | str s => exact ⟨'"', _, by rw [compactChars, quoted]; rfl, rfl, by decide, by decide⟩
  | arr items => exact ⟨'[', _, by rw [compactChars]; rfl, rfl, by decide, by decide⟩
  | obj fields => exact ⟨'\x7b', _, by rw [compactChars]; rfl, rfl, by decide, by decide⟩

theorem begins_quote : Begins '"' := ⟨rfl, by decide, by decide⟩

/-- Printed items begin with a value. -/
theorem exists_compactItems (v : Json) (items : List Json) :
    ∃ c cs, compactItems (v :: items) = c :: cs ∧ Begins c := by
  obtain ⟨c, cs, hcons, hc⟩ := exists_compactChars v
  cases items with
  | nil => exact ⟨c, cs, by rw [compactItems, hcons], hc⟩
  | cons w items => exact ⟨c, _, by rw [compactItems, hcons, List.cons_append], hc⟩

/-- Printed fields begin with a quote. -/
theorem exists_compactFields (f : String × Json) (fields : List (String × Json)) :
    ∃ cs, compactFields (f :: fields) = '"' :: cs := by
  obtain ⟨k, v⟩ := f
  cases fields with
  | nil => exact ⟨_, by rw [compactFields, quoted_append]⟩
  | cons g fields => exact ⟨_, by rw [compactFields, List.append_assoc, quoted_append]⟩

theorem skipBlanks_cons (h : isBlank c = false) : skipBlanks (c :: cs) = c :: cs := by
  rw [skipBlanks, List.dropWhile_cons, h]
  rfl

/-! ## Steps of the reader -/

/-- A number is read where a value begins with one. -/
theorem value?_number (hc : c.isDigit = true ∨ c = '-') :
    value? (fuel + 1) d (c :: cs) = match numeral? (c :: cs) with
      | none => none
      | some (n, rest) => n.value?.map fun x => (.num x, rest) := by
  have hne (x : Char) (hx : x.isDigit = false) (hminus : x ≠ '-') : c ≠ x := by
    rintro rfl
    rcases hc with hc | hc
    · rw [hx] at hc
      cases hc
    · exact hminus hc
  rw [value?, skipBlanks_cons (begins_of_isDigit hc).1]
  split
  · next heq => exact absurd (List.cons.inj heq).1 (hne _ rfl (by decide))
  · next heq => exact absurd (List.cons.inj heq).1 (hne _ rfl (by decide))
  · next heq => exact absurd (List.cons.inj heq).1 (hne _ rfl (by decide))
  · next heq => exact absurd (List.cons.inj heq).1 (hne _ rfl (by decide))
  · next heq => exact absurd (List.cons.inj heq).1 (hne _ rfl (by decide))
  · next heq => exact absurd (List.cons.inj heq).1 (hne _ rfl (by decide))
  · rfl

/-- A string is read where a value begins with a quote. -/
theorem value?_quoted (s : String) :
    value? (fuel + 1) d (quoted s ++ rest) = some (.str s, rest) := by
  rw [quoted_append, value?, skipBlanks_cons rfl]
  simp [stringTail?_quoted]

/-- Containers cannot be read where no level is left. -/
theorem value?_arr_zero : value? (fuel + 1) 0 ('[' :: cs) = none := rfl

theorem value?_obj_zero : value? (fuel + 1) 0 ('\x7b' :: cs) = none := rfl

/-- An array without items. -/
theorem value?_arr_nil : value? (fuel + 1) (d + 1) ('[' :: ']' :: rest) = some (.arr [], rest) :=
  rfl

theorem value?_obj_nil :
    value? (fuel + 1) (d + 1) ('\x7b' :: '\x7d' :: rest) = some (.obj [], rest) :=
  rfl

/-- An array with items. -/
theorem value?_arr_cons (h : Begins c) :
    value? (fuel + 1) (d + 1) ('[' :: c :: cs) = items? fuel d [] (c :: cs) := by
  obtain ⟨hblank, hclose, -⟩ := h
  rw [value?, skipBlanks_cons rfl]
  simp only [skipBlanks_cons hblank]
  split
  · next heq => exact absurd (List.cons.inj heq).1 hclose
  · rfl

theorem value?_obj_cons (h : Begins c) :
    value? (fuel + 1) (d + 1) ('\x7b' :: c :: cs) = fields? fuel d [] (c :: cs) := by
  obtain ⟨hblank, -, hclose⟩ := h
  rw [value?, skipBlanks_cons rfl]
  simp only [skipBlanks_cons hblank]
  split
  · next heq => exact absurd (List.cons.inj heq).1 hclose
  · rfl

/-- An item that is not read. -/
theorem items?_none (h : value? fuel d cs = none) : items? (fuel + 1) d read cs = none := by
  rw [items?, h]

/-- The last item. -/
theorem items?_last (h : value? fuel d cs = some (v, ']' :: rest)) :
    items? (fuel + 1) d read cs = some (.arr (v :: read).reverse, rest) := by
  rw [items?, h]
  simp only [skipBlanks_cons (show isBlank ']' = false from rfl)]

/-- An item before others. -/
theorem items?_next (h : value? fuel d cs = some (v, ',' :: rest)) :
    items? (fuel + 1) d read cs = items? fuel d (v :: read) rest := by
  rw [items?, h]
  simp only [skipBlanks_cons (show isBlank ',' = false from rfl)]

theorem fields?_none (h : value? fuel d cs = none) :
    fields? (fuel + 1) d dict (quoted k ++ ':' :: cs) = none := by
  rw [quoted_append, fields?, skipBlanks_cons rfl]
  simp only [stringTail?_quoted, skipBlanks_cons (show isBlank ':' = false from rfl), h]

/-- The last field. -/
theorem fields?_last (h : value? fuel d cs = some (v, '\x7d' :: rest)) :
    fields? (fuel + 1) d dict (quoted k ++ ':' :: cs) = some (.obj (Dict.insert dict k v), rest) := by
  rw [quoted_append, fields?, skipBlanks_cons rfl]
  simp only [stringTail?_quoted, skipBlanks_cons (show isBlank ':' = false from rfl), h,
    skipBlanks_cons (show isBlank '\x7d' = false from rfl)]

/-- A field before others. -/
theorem fields?_next (h : value? fuel d cs = some (v, ',' :: rest)) :
    fields? (fuel + 1) d dict (quoted k ++ ':' :: cs) =
      fields? fuel d (Dict.insert dict k v) rest := by
  rw [quoted_append, fields?, skipBlanks_cons rfl]
  simp only [stringTail?_quoted, skipBlanks_cons (show isBlank ':' = false from rfl), h,
    skipBlanks_cons (show isBlank ',' = false from rfl)]

/-! ## Printed values -/

/-- What a printed value is read as within so many levels. -/
def rereadWithin? (d : Nat) (v : Json) : Option Json := if depth v ≤ d then reread? v else none

/-- What printed items are read as within so many levels. -/
def rereadItemsWithin? (d : Nat) (items : List Json) : Option (List Json) :=
  if depthItems items ≤ d then rereadItems? items else none

/-- What printed fields are read as within so many levels. -/
def rereadFieldsWithin? (d : Nat) (fields : List (String × Json)) : Option (List (String × Json)) :=
  if depthFields fields ≤ d then rereadFields? fields else none

theorem rereadItemsWithin?_cons (d : Nat) (v : Json) (items : List Json) :
    rereadItemsWithin? d (v :: items) =
      (rereadWithin? d v).bind fun w => (rereadItemsWithin? d items).map (w :: ·) := by
  rw [rereadItemsWithin?, rereadItemsWithin?, rereadWithin?, depthItems, rereadItems?]
  by_cases hv : depth v ≤ d
  · by_cases hitems : depthItems items ≤ d
    · rw [if_pos (Nat.max_le.2 ⟨hv, hitems⟩), if_pos hv, if_pos hitems]
    · rw [if_neg fun h => hitems (Nat.max_le.1 h).2, if_neg hitems]
      simp
  · rw [if_neg fun h => hv (Nat.max_le.1 h).1, if_neg hv]
    rfl

theorem rereadFieldsWithin?_cons (d : Nat) (k : String) (v : Json) (fields : List (String × Json)) :
    rereadFieldsWithin? d ((k, v) :: fields) =
      (rereadWithin? d v).bind fun w => (rereadFieldsWithin? d fields).map ((k, w) :: ·) := by
  rw [rereadFieldsWithin?, rereadFieldsWithin?, rereadWithin?, depthFields, rereadFields?]
  by_cases hv : depth v ≤ d
  · by_cases hfields : depthFields fields ≤ d
    · rw [if_pos (Nat.max_le.2 ⟨hv, hfields⟩), if_pos hv, if_pos hfields]
    · rw [if_neg fun h => hfields (Nat.max_le.1 h).2, if_neg hfields]
      simp
  · rw [if_neg fun h => hv (Nat.max_le.1 h).1, if_neg hv]
    rfl

theorem rereadWithin?_arr (d : Nat) (items : List Json) :
    rereadWithin? (d + 1) (.arr items) = (rereadItemsWithin? d items).map .arr := by
  rw [rereadWithin?, rereadItemsWithin?, depth, reread?]
  by_cases h : depthItems items ≤ d
  · rw [if_pos (Nat.succ_le_succ h), if_pos h]
  · rw [if_neg fun hle => h (Nat.le_of_succ_le_succ hle), if_neg h]
    rfl

theorem rereadWithin?_obj (d : Nat) (fields : List (String × Json)) :
    rereadWithin? (d + 1) (.obj fields) =
      (rereadFieldsWithin? d fields).map fun fields => .obj (Dict.ofList fields) := by
  rw [rereadWithin?, rereadFieldsWithin?, depth, reread?]
  by_cases h : depthFields fields ≤ d
  · rw [if_pos (Nat.succ_le_succ h), if_pos h]
  · rw [if_neg fun hle => h (Nat.le_of_succ_le_succ hle), if_neg h]
    rfl

theorem ends_comma : Ends (',' :: rest) := ends_cons rfl (by decide) (by decide) (by decide)

theorem ends_bracket : Ends (']' :: rest) := ends_cons rfl (by decide) (by decide) (by decide)

theorem ends_brace : Ends ('\x7d' :: rest) := ends_cons rfl (by decide) (by decide) (by decide)

end

mutual

/-- A printed value is read as what it is reread as, if it is not nested too deeply, and what follows
is left. -/
theorem value?_compact : ∀ (v : Json) (fuel d : Nat) (rest : List Char),
    2 * (compactChars v).length ≤ fuel → Ends rest →
      value? fuel d (compactChars v ++ rest) = (rereadWithin? d v).map fun w => (w, rest)
  | .null, fuel + 1, d, rest, _, _ => by
    rw [value?, compactChars, List.cons_append, skipBlanks_cons rfl]
    rfl
  | .bool true, fuel + 1, d, rest, _, _ => by
    rw [value?, compactChars, List.cons_append, skipBlanks_cons rfl]
    rfl
  | .bool false, fuel + 1, d, rest, _, _ => by
    rw [value?, compactChars, List.cons_append, skipBlanks_cons rfl]
    rfl
  | .num n, fuel + 1, d, rest, _, hrest => by
    obtain ⟨c, cs, hcons, hc⟩ := head?_numberChars n
    obtain ⟨m, hread, hvalue⟩ := numeral?_numberChars n hrest
    rw [compactChars, hcons, List.cons_append, value?_number hc, ← List.cons_append, ← hcons, hread]
    simp [rereadWithin?, depth, reread?, hvalue]
    rfl
  | .str s, fuel + 1, d, rest, _, _ => by
    rw [compactChars, value?_quoted]
    rfl
  | .arr items, fuel + 1, 0, rest, _, _ => by
    rw [compactChars, List.cons_append, List.cons_append, value?_arr_zero]
    rfl
  | .obj fields, fuel + 1, 0, rest, _, _ => by
    rw [compactChars, List.cons_append, List.cons_append, value?_obj_zero]
    rfl
  | .arr [], fuel + 1, d + 1, rest, _, _ => by
    rw [compactChars, compactItems]
    exact value?_arr_nil
  | .obj [], fuel + 1, d + 1, rest, _, _ => by
    rw [compactChars, compactFields]
    exact value?_obj_nil
  | .arr (v :: items), fuel + 1, d + 1, rest, hfuel, _ => by
    have hlength : (compactChars (.arr (v :: items))).length = (compactItems (v :: items)).length + 2 := by
      simp [compactChars]
    obtain ⟨c, cs, hcons, hc⟩ := exists_compactItems v items
    have hread := items?_compact (v :: items) fuel d [] rest (List.cons_ne_nil _ _) (by omega)
    rw [hcons, List.cons_append] at hread
    rw [rereadWithin?_arr, compactChars, hcons, List.append_assoc, List.cons_append,
      List.singleton_append, List.cons_append, value?_arr_cons hc, hread]
    simp
    rfl
  | .obj (f :: fields), fuel + 1, d + 1, rest, hfuel, _ => by
    have hlength : (compactChars (.obj (f :: fields))).length =
        (compactFields (f :: fields)).length + 2 := by
      simp [compactChars]
    obtain ⟨cs, hcons⟩ := exists_compactFields f fields
    have hread := fields?_compact (f :: fields) fuel d [] rest (List.cons_ne_nil _ _) (by omega)
    rw [hcons, List.cons_append] at hread
    rw [rereadWithin?_obj, compactChars, hcons, List.append_assoc, List.cons_append,
      List.singleton_append, List.cons_append, value?_obj_cons begins_quote, hread]
    simp
    rfl
  | v, 0, _, _, hfuel, _ => by
    obtain ⟨c, cs, hcons, -⟩ := exists_compactChars v
    rw [hcons] at hfuel
    simp at hfuel

/-- Printed items are read to the end of their array. -/
theorem items?_compact : ∀ (items : List Json) (fuel d : Nat) (read : List Json)
    (rest : List Char), items ≠ [] → 2 * (compactItems items).length + 1 ≤ fuel →
      items? fuel d read (compactItems items ++ ']' :: rest) =
        (rereadItemsWithin? d items).map fun ws => (.arr (read.reverse ++ ws), rest)
  | [], _, _, _, _, h, _ => absurd rfl h
  | _, 0, _, _, _, _, hfuel => absurd hfuel (Nat.not_succ_le_zero _)
  | [v], fuel + 1, d, read, rest, _, hfuel => by
    rw [compactItems] at hfuel
    have hv := value?_compact v fuel d (']' :: rest) (by omega) ends_bracket
    rw [rereadItemsWithin?_cons, compactItems]
    cases hw : rereadWithin? d v with
    | none =>
      rw [hw] at hv
      rw [items?_none hv]
      rfl
    | some w =>
      rw [hw] at hv
      rw [items?_last hv]
      simp [rereadItemsWithin?, rereadItems?, depthItems]
  | v :: v' :: items, fuel + 1, d, read, rest, _, hfuel => by
    have hlength : (compactItems (v :: v' :: items)).length =
        (compactChars v).length + (compactItems (v' :: items)).length + 1 := by
      simp [compactItems]
      omega
    have hv := value?_compact v fuel d (',' :: (compactItems (v' :: items) ++ ']' :: rest)) (by omega)
      ends_comma
    rw [rereadItemsWithin?_cons, compactItems, List.append_assoc, List.cons_append]
    cases hw : rereadWithin? d v with
    | none =>
      rw [hw] at hv
      rw [items?_none hv]
      rfl
    | some w =>
      rw [hw] at hv
      rw [items?_next hv, items?_compact (v' :: items) _ _ _ _ (List.cons_ne_nil _ _) (by omega)]
      cases rereadItemsWithin? d (v' :: items) with
      | none => rfl
      | some ws => simp

/-- Printed fields are read to the end of their object. -/
theorem fields?_compact : ∀ (fields : List (String × Json)) (fuel d : Nat) (dict : Dict Json)
    (rest : List Char), fields ≠ [] → 2 * (compactFields fields).length + 1 ≤ fuel →
      fields? fuel d dict (compactFields fields ++ '\x7d' :: rest) =
        (rereadFieldsWithin? d fields).map fun fs =>
          (.obj (fs.foldl (fun d e => Dict.insert d e.1 e.2) dict), rest)
  | [], _, _, _, _, h, _ => absurd rfl h
  | _, 0, _, _, _, _, hfuel => absurd hfuel (Nat.not_succ_le_zero _)
  | [(k, v)], fuel + 1, d, dict, rest, _, hfuel => by
    have hlength : (compactChars v).length + 1 ≤ (compactFields [(k, v)]).length := by
      simp [compactFields]
    have hv := value?_compact v fuel d ('\x7d' :: rest) (by omega) ends_brace
    rw [rereadFieldsWithin?_cons, compactFields, List.append_assoc, List.cons_append]
    cases hw : rereadWithin? d v with
    | none =>
      rw [hw] at hv
      rw [fields?_none hv]
      rfl
    | some w =>
      rw [hw] at hv
      rw [fields?_last hv]
      simp [rereadFieldsWithin?, rereadFields?, depthFields]
  | (k, v) :: f :: fields, fuel + 1, d, dict, rest, _, hfuel => by
    have hlength : (compactChars v).length + (compactFields (f :: fields)).length + 2 ≤
        (compactFields ((k, v) :: f :: fields)).length := by
      simp [compactFields]
      omega
    have hv := value?_compact v fuel d (',' :: (compactFields (f :: fields) ++ '\x7d' :: rest)) (by omega)
      ends_comma
    rw [rereadFieldsWithin?_cons, compactFields, List.append_assoc, List.append_assoc,
      List.cons_append, List.cons_append]
    cases hw : rereadWithin? d v with
    | none =>
      rw [hw] at hv
      rw [fields?_none hv]
      rfl
    | some w =>
      rw [hw] at hv
      rw [fields?_next hv, fields?_compact (f :: fields) _ _ _ _ (List.cons_ne_nil _ _) (by omega)]
      cases rereadFieldsWithin? d (f :: fields) with
      | none => rfl
      | some fs => simp

end

/-! ## Texts -/

section
variable {v w : Json}

/-- A printed value is read as what it is reread as, if it is not nested more deeply than can be
read. -/
theorem read?_compact (v : Json) : read? v.compact = rereadWithin? maxDepth v := by
  have hread := value?_compact v (2 * (compactChars v).length + 2) maxDepth [] (by omega) ends_nil
  rw [List.append_nil] at hread
  rw [read?, compact, String.toList_ofList, readChars?, hread]
  cases rereadWithin? maxDepth v with
  | none => rfl
  | some w => rfl

theorem rereadWithin?_eq_some_iff {d : Nat} :
    rereadWithin? d v = some w ↔ depth v ≤ d ∧ reread? v = some w := by
  rw [rereadWithin?]
  split
  · next h => simp [h]
  · next h => simp [h]

/-- A printed value is read back when its numbers and the order of its fields are, and it is not
nested too deeply. -/
theorem read?_compact_eq_some_iff :
    read? v.compact = some w ↔ depth v ≤ maxDepth ∧ reread? v = some w := by
  rw [read?_compact, rereadWithin?_eq_some_iff]

/-- An object with ascending fields that are read back is read back. -/
theorem reread?_obj {fields : Dict Json} (h : Dict.Ascending fields)
    (hfields : rereadFields? fields = some fields) : reread? (.obj fields) = some (.obj fields) := by
  rw [reread?, hfields, Option.map_some, Dict.ofList_of_ascending h]

end

end Taskweave.Json
