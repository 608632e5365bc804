import Taskweave.Execution.Command
import Taskweave.Proofs.Json.Stable
import Taskweave.Proofs.Store.Memory

/-!
# The state of a role

Saving the state of a role puts the document of the state under its key and saves a version of it
(`RoleMemory.afterSave`). The document is two levels deeper than what is in the state and in the context
of the role (`RoleMemory.depth_document_eq`). It is printed however deep it is, but read only as far as
the reader goes, so that a state which has been saved is loaded again exactly if it is not nested more
deeply (`RoleMemory.load_of_find?`).

A document that is nested too deeply stays where it is: every update starts with loading the state, and
is refused from then on (`RoleMemory.readable_iff`). The output of a command can lead to one, since it
may itself be as deep as the reader goes.
-/

namespace Taskweave

namespace RoleMemory

section
variable {m : RoleMemory} {digest : String → String} {now : Instant} {state merged : Dict Json}
  {updates : Json} {s s' : MemoryStore} {e : Error}

/-! ## Documents -/

/-- A document is two levels deeper than what is in the context and in the state. -/
theorem depth_document_eq (m : RoleMemory) (now : Instant) (state : Dict Json) :
    (m.document now state).depth =
      max (Json.depthFields m.context) (Json.depthFields state) + 2 := by
  simp only [document, Json.depth, Json.depthFields]
  omega

/-- The document of a stable context and a stable state is stable. -/
theorem isStable_document (hcontext : (Json.obj m.context).IsStable)
    (hstate : (Json.obj state).IsStable) : (m.document now state).IsStable := by
  rw [document, Json.isStable_obj_iff]
  refine ⟨show ["context", "state", "timestamp"].Pairwise (· < ·) by decide +kernel, ?_⟩
  simp only [List.forall_mem_cons]
  exact ⟨hcontext, hstate, rfl, List.forall_mem_nil _⟩

/-- A document that is deeper than the reader goes is not read. -/
theorem parse_document_of_lt (h : Json.maxDepth < (m.document now state).depth) :
    parse (m.document now state).compact = .error .json := by
  rw [parse, Json.read?_compact, Json.rereadWithin?, if_neg (Nat.not_le.2 h)]

/-- Any other is read as it was written. -/
theorem parse_document (hcontext : (Json.obj m.context).IsStable)
    (hstate : (Json.obj state).IsStable) (h : (m.document now state).depth ≤ Json.maxDepth) :
    parse (m.document now state).compact = .ok (m.document now state) := by
  rw [parse, Json.read?_compact, Json.rereadWithin?, if_pos h, isStable_document hcontext hstate]

/-- What is in the state is two levels less deep than the document, or there is nothing in it. -/
theorem depthFields_stateIn (doc : Json) : Json.depthFields (stateIn doc) + 2 ≤ max doc.depth 2 := by
  rw [stateIn]
  split
  · next state hstate =>
    cases doc with
    | obj fields =>
      have hle := Json.depthFields_le_iff.1 (Nat.le_refl _) _ (Dict.mem_of_find? hstate)
      rw [Json.depth] at hle ⊢
      omega
    | null | bool | num | str | arr => cases hstate
  · exact Nat.le_max_right _ _

/-- What is read is no deeper than the reader goes. -/
theorem depth_of_parse {text : String} {doc : Json} (h : parse text = .ok doc) :
    doc.depth ≤ Json.maxDepth := by
  rw [parse] at h
  split at h
  · next v hread => exact Except.ok.inj h ▸ Json.depth_le_of_read? hread
  · cases h

/-! ## Loading -/

theorem load_eq (m : RoleMemory) (s : MemoryStore) : m.load s =
    match s.find? m.statePath with
    | some text => (parse text).map stateIn
    | none => .ok [] := by
  rw [load, MemoryStore.read_eq]
  cases s.find? m.statePath with
  | none => rfl
  | some text => rfl

/-- The state in a document that is not too deep is loaded; loading it fails otherwise. -/
theorem load_of_find? (hfind : s.find? m.statePath = some (m.document now state).compact)
    (hcontext : (Json.obj m.context).IsStable) (hstate : (Json.obj state).IsStable) :
    m.load s =
      if (m.document now state).depth ≤ Json.maxDepth then .ok state else .error .json := by
  rw [load_eq, hfind]
  by_cases h : (m.document now state).depth ≤ Json.maxDepth
  · simp only [parse_document hcontext hstate h, if_pos h]
    rfl
  · simp only [parse_document_of_lt (Nat.not_le.1 h), if_neg h]
    rfl

/-- The fields of a state that has been loaded are two levels less deep than the reader goes. -/
theorem depthFields_of_load (h : m.load s = .ok state) :
    Json.depthFields state + 2 ≤ Json.maxDepth := by
  rw [load_eq] at h
  cases hfind : s.find? m.statePath with
  | none =>
    simp only [hfind] at h
    rw [← Except.ok.inj h]
    decide
  | some text =>
    simp only [hfind] at h
    cases hparse : parse text with
    | error e =>
      rw [hparse] at h
      cases h
    | ok doc =>
      rw [hparse] at h
      rw [← Except.ok.inj h]
      exact Nat.le_trans (depthFields_stateIn doc)
        (Nat.max_le.2 ⟨depth_of_parse hparse, by decide⟩)

/-! ## Saving -/

/-- The store after the state has been saved. -/
def afterSave (m : RoleMemory) (digest : String → String) (now : Instant) (state : Dict Json)
    (s : MemoryStore) : MemoryStore :=
  let text := (m.document now state).compact
  let written := s.set m.statePath text
  written.withVersion digest now m.statePath text (.obj [("role", .str m.role)])
    (Store.freeKey now m.statePath 0 written)

/-- The state of a role whose key is allowed is saved. -/
theorem save_of_isAllowed (h : Key.isAllowed m.statePath = true) :
    m.save digest now state s = (.ok (), m.afterSave digest now state s) := by
  have hfind : (s.set m.statePath (m.document now state).compact).find? m.statePath =
      some (m.document now state).compact := by
    rw [MemoryStore.find?_set, if_pos rfl]
  rw [save, MemoryStore.write_eq, MemoryStore.put_of_isAllowed h]
  simp only [MemoryStore.saveVersion_of_isAllowed h hfind]
  rfl

/-- That of another role is refused, and nothing changes. -/
theorem save_of_not_isAllowed (h : Key.isAllowed m.statePath = false) :
    m.save digest now state s = (.error (.config (.invalidPath m.statePath)), s) := by
  rw [save, MemoryStore.write_eq, MemoryStore.put_of_not_isAllowed h]

/-- Under the key of the state is then its document. -/
theorem find?_afterSave (m : RoleMemory) (digest : String → String) (now : Instant)
    (state : Dict Json) (s : MemoryStore) :
    (m.afterSave digest now state s).find? m.statePath = some (m.document now state).compact := by
  obtain ⟨n, hn⟩ := MemoryStore.exists_freeKey now m.statePath 0
    (s.set m.statePath (m.document now state).compact)
  have hversion := Key.candidate_version_ne m.statePath now n
  have haccount := Key.account_candidate_version_ne m.statePath now n
  rw [← hn] at hversion haccount
  rw [afterSave, MemoryStore.find?_withVersion_of_ne hversion.symm haccount.symm,
    MemoryStore.find?_set, if_pos rfl]

/-! ## Updates -/

/-- An update that cannot load the state is refused, and nothing changes. -/
theorem update_of_load_error {fields : Dict Json} (h : m.load s = .error e) :
    m.update digest now (.obj fields) s = (.error e, s) := by
  rw [update, h]

/-- Another one puts the fields into the state, if the key of the state is allowed. -/
theorem update_of_load_ok {fields : Dict Json} (hallowed : Key.isAllowed m.statePath = true)
    (h : m.load s = .ok state) : m.update digest now (.obj fields) s =
      (.ok (Dict.merge state fields), m.afterSave digest now (Dict.merge state fields) s) := by
  rw [update, h]
  simp only [save_of_isAllowed hallowed]

/-- What an update that has succeeded has done. -/
theorem update_ok (h : m.update digest now updates s = (.ok merged, s')) :
    ∃ fields state, updates = .obj fields ∧ m.load s = .ok state ∧ merged = Dict.merge state fields ∧
      s' = m.afterSave digest now merged s := by
  cases updates with
  | obj fields =>
    cases hload : m.load s with
    | error e =>
      rw [update_of_load_error hload] at h
      cases h
    | ok state =>
      cases hallowed : Key.isAllowed m.statePath with
      | false =>
        rw [update, hload] at h
        simp only [save_of_not_isAllowed hallowed] at h
        cases h
      | true =>
        rw [update_of_load_ok hallowed hload, Prod.mk.injEq, Except.ok.injEq] at h
        obtain ⟨rfl, rfl⟩ := h
        exact ⟨fields, state, rfl, rfl, rfl, rfl⟩
  | null | bool | num | str | arr => exact absurd (congrArg Prod.fst h) nofun

/-- An update reads back exactly if neither the context nor the state is nested too deeply. -/
theorem load_afterSave (digest : String → String) (now : Instant) (s : MemoryStore)
    (hcontext : (Json.obj m.context).IsStable) (hstate : (Json.obj state).IsStable) :
    m.load (m.afterSave digest now state s) =
      if (Json.obj m.context).depth < Json.maxDepth ∧ (Json.obj state).depth < Json.maxDepth then
        .ok state
      else .error .json := by
  rw [load_of_find? (find?_afterSave m digest now state s) hcontext hstate, depth_document_eq,
    Json.depth, Json.depth]
  refine if_congr ?_ rfl rfl
  omega

/-! ## Results of commands -/

/-- The record of a stable result is stable. -/
theorem isStable_record (a : Assignment) {value : Json} (h : value.IsStable) :
    (CommandExecutor.record a value).IsStable := by
  rw [CommandExecutor.record, Json.isStable_obj_iff]
  refine ⟨show ["last_result", "last_task"].Pairwise (· < ·) by decide +kernel, ?_⟩
  simp only [List.forall_mem_cons]
  exact ⟨h, rfl, List.forall_mem_nil _⟩

/-- A state with the record of a result is as deep as the two are. -/
theorem depthFields_merge_record {n : Nat} (id : TaskId) (value : Json)
    (h : Json.depthFields state ≤ n) :
    Json.depthFields (Dict.merge state [("last_result", value), ("last_task", .str id)]) ≤ n ↔
      value.depth ≤ n := by
  constructor
  · intro hmerged
    have hfind : Dict.find? (Dict.merge state [("last_result", value), ("last_task", .str id)])
        "last_result" = some value := by
      simp [Dict.merge, Dict.find?_insert]
    exact Json.depthFields_le_iff.1 hmerged _ (Dict.mem_of_find? hfind)
  · intro hvalue
    refine Json.depthFields_merge_le h ?_
    simp [Json.depthFields, Json.depth, hvalue]

/-- A result is recorded when the update with its record succeeds. -/
theorem remember_eq_none_iff {x : CommandExecutor} {a : Assignment} {value : Json}
    (hmemory : x.memory = some m) :
    x.remember digest now a (.ok value) s = (none, s') ↔
      ∃ merged, m.update digest now (CommandExecutor.record a value) s = (.ok merged, s') := by
  simp only [CommandExecutor.remember, hmemory]
  split
  · next merged s₁ hupdate => simp [hupdate]
  · next fault s₁ hupdate => simp [hupdate]

/-- A state that an update has returned is loaded again exactly if neither it nor the context of the
role is nested more than one level less deep than the reader goes. Otherwise all later updates are
refused. A result of a command that has been recorded can be loaded exactly if it is nested at least
two levels less deep. -/
theorem readable_iff (m : RoleMemory) (hcontext : (Json.obj m.context).IsStable) :
    (∀ digest now updates (s : MemoryStore) merged s', updates.IsStable →
      (∀ state, m.load s = .ok state → (Json.obj state).IsStable) →
      m.update digest now updates s = (.ok merged, s') →
        (m.load s' = .ok merged ↔
          (Json.obj m.context).depth < Json.maxDepth ∧ (Json.obj merged).depth < Json.maxDepth) ∧
        (m.load s' ≠ .ok merged → ∀ digest now fields,
          m.update digest now (.obj fields) s' = (.error .json, s'))) ∧
    (∀ (x : CommandExecutor) digest now a stdout (s : MemoryStore) state s', x.memory = some m →
      (CommandExecutor.parseOutput stdout).IsStable → m.load s = .ok state →
      (Json.obj state).IsStable → (Json.obj m.context).depth < Json.maxDepth →
      x.remember digest now a (.ok (CommandExecutor.parseOutput stdout)) s = (none, s') →
        ((∃ state', m.load s' = .ok state') ↔
          (CommandExecutor.parseOutput stdout).depth + 2 ≤ Json.maxDepth)) := by
  constructor
  · intro digest now updates s merged s' hupdates hstate hupdate
    obtain ⟨fields, state, rfl, hload, rfl, rfl⟩ := update_ok hupdate
    have hafter := load_afterSave digest now s hcontext ((hstate state hload).merge hupdates)
    split at hafter
    · next h => exact ⟨iff_of_true hafter h, fun hne => absurd hafter hne⟩
    · next h =>
      refine ⟨iff_of_false (fun hok => ?_) h, fun _ _ _ _ => update_of_load_error hafter⟩
      rw [hafter] at hok
      cases hok
  · intro x digest now a stdout s state s' hmemory hvalue hload hstate hdepth hremember
    obtain ⟨merged, hupdate⟩ := (remember_eq_none_iff hmemory).1 hremember
    obtain ⟨fields, loaded, hrecord, hload', rfl, rfl⟩ := update_ok hupdate
    obtain rfl : state = loaded := Except.ok.inj (hload.symm.trans hload')
    obtain rfl : _ = fields := Json.obj.inj hrecord
    have hafter := load_afterSave digest now s hcontext (hstate.merge (isStable_record a hvalue))
    have hmerged : (Json.obj (Dict.merge state [("last_result", CommandExecutor.parseOutput stdout),
        ("last_task", .str a.id)])).depth < Json.maxDepth ↔
          (CommandExecutor.parseOutput stdout).depth + 2 ≤ Json.maxDepth := by
      have hloaded := depthFields_of_load hload
      have hiff := depthFields_merge_record (n := Json.maxDepth - 2) a.id
        (CommandExecutor.parseOutput stdout) (Nat.le_sub_of_add_le hloaded)
      rw [Json.depth]
      omega
    rw [hafter, ← hmerged]
    split
    · next h => exact iff_of_true ⟨_, rfl⟩ h.2
    · next h => exact iff_of_false nofun fun hshallow => h ⟨hdepth, hshallow⟩

end

/-! ## Results with many levels -/

/-- Arrays in each other. -/
def nested : Nat → Json
  | 0 => .null
  | n + 1 => .arr [nested n]

/-- An array is taken from the output as it was printed, if it can be read. -/
theorem parseOutput_arr {items : List Json} (hstable : (Json.arr items).IsStable)
    (hdepth : (Json.arr items).depth ≤ Json.maxDepth) :
    CommandExecutor.parseOutput (Json.arr items).compact = .arr items := by
  have hread : Json.read? (Json.arr items).compact = some (.arr items) :=
    Json.read?_compact_eq_some_iff.2 ⟨hdepth, hstable⟩
  have hchars : (Json.arr items).compact.toList = '[' :: (Json.compactItems items ++ [']']) := by
    rw [Json.compact, String.toList_ofList, Json.compactChars]
    rfl
  have hblank : Text.isBlankText (Json.arr items).compact = false := by
    rw [Text.isBlankText, hchars]
    rfl
  have htrim : Text.trim (Json.arr items).compact = (Json.arr items).compact := by
    have hfront : ('[' :: (Json.compactItems items ++ [']'])).dropWhile Text.isBlank =
        '[' :: (Json.compactItems items ++ [']']) := List.dropWhile_cons_of_neg (by decide)
    have hback : (']' :: ('[' :: Json.compactItems items).reverse).dropWhile Text.isBlank =
        ']' :: ('[' :: Json.compactItems items).reverse := List.dropWhile_cons_of_neg (by decide)
    rw [Text.trim, Text.trimChars, hchars, hfront, ← List.cons_append, List.reverse_append,
      List.reverse_singleton, List.singleton_append, hback, List.reverse_cons, List.reverse_reverse,
      List.cons_append, ← hchars, String.ofList_toList]
  rw [CommandExecutor.parseOutput, hblank, htrim, hread]
  rfl

/-- The executor of a role with a memory. -/
def recorder : CommandExecutor := ⟨"r", "cat", none, none, some (new "r")⟩

/-- A task of that role. -/
def errand : Assignment := ⟨"t", "r", "", []⟩

/-- The store after a result of the task has been recorded in an empty one. -/
def recorded (value : Json) : MemoryStore :=
  (new "r").afterSave (fun _ => "") ⟨0⟩ [("last_result", value), ("last_task", .str errand.id)] .empty

theorem update_recorded (value : Json) :
    (new "r").update (fun _ => "") ⟨0⟩ (CommandExecutor.record errand value) MemoryStore.empty =
      (.ok [("last_result", value), ("last_task", .str errand.id)], recorded value) := by
  have hallowed : Key.isAllowed (new "r").statePath = true := by decide +kernel
  have hload : (new "r").load MemoryStore.empty = .ok [] := rfl
  have hmerge : Dict.merge [] [("last_result", value), ("last_task", .str errand.id)] =
      [("last_result", value), ("last_task", .str errand.id)] :=
    Dict.ofList_of_ascending (show ["last_result", "last_task"].Pairwise (· < ·) by decide +kernel)
  rw [CommandExecutor.record, update_of_load_ok hallowed hload, hmerge]
  rfl

theorem remember_recorded (value : Json) :
    recorder.remember (fun _ => "") ⟨0⟩ errand (.ok value) MemoryStore.empty =
      (none, recorded value) :=
  (remember_eq_none_iff rfl).2 ⟨_, update_recorded value⟩

/-- A result with 125 levels can be loaded after it has been recorded. -/
theorem readable_nested :
    (Json.obj (new "r").context).IsStable ∧
      CommandExecutor.parseOutput (nested 125).compact = nested 125 ∧ (nested 125).IsStable ∧
      recorder.remember (fun _ => "") ⟨0⟩ errand (.ok (nested 125)) MemoryStore.empty =
        (none, recorded (nested 125)) ∧
      ∃ state, (new "r").load (recorded (nested 125)) = .ok state := by
  have hcontext : (Json.obj (new "r").context).IsStable := rfl
  have hstable : (nested 125).IsStable := by decide +kernel
  have houtput : CommandExecutor.parseOutput (nested 125).compact = nested 125 :=
    parseOutput_arr hstable (by decide +kernel)
  have hremember := remember_recorded (nested 125)
  refine ⟨hcontext, houtput, hstable, hremember, ?_⟩
  refine ((readable_iff (new "r") hcontext).2 recorder (fun _ => "") ⟨0⟩ errand (nested 125).compact
    .empty [] _ rfl ?_ rfl hcontext (by decide) ?_).2 ?_
  · exact houtput.symm ▸ hstable
  · exact houtput.symm ▸ hremember
  · rw [houtput]
    decide +kernel

/-- One with 126 levels is read from the output of the command and recorded, and then the state cannot
be loaded any more, though the update has returned it. -/
theorem not_readable_nested :
    CommandExecutor.parseOutput (nested 126).compact = nested 126 ∧ (nested 126).IsStable ∧
      (new "r").update (fun _ => "") ⟨0⟩ (CommandExecutor.record errand (nested 126))
          MemoryStore.empty =
        (.ok [("last_result", nested 126), ("last_task", .str errand.id)], recorded (nested 126)) ∧
      recorder.remember (fun _ => "") ⟨0⟩ errand (.ok (nested 126)) MemoryStore.empty =
        (none, recorded (nested 126)) ∧
      (new "r").load (recorded (nested 126)) = .error .json := by
  have hstate : (Json.obj [("last_result", nested 126), ("last_task", .str errand.id)]).IsStable := by
    decide +kernel
  have hstable : (nested 126).IsStable := by decide +kernel
  refine ⟨parseOutput_arr hstable (by decide +kernel), hstable, update_recorded _,
    remember_recorded _, ?_⟩
  rw [recorded, load_afterSave _ _ _ (show (Json.obj []).IsStable from rfl) hstate,
    if_neg (by decide +kernel)]

end RoleMemory

end Taskweave
