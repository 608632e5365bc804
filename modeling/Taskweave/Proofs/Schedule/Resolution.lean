import Taskweave.Proofs.Schedule.Parts

/-!
# The dependency index resolves exactly

An index keeps what each task waits for and, apart from that, who listed each dependency. A task that
is entered again gets a new list of what it waits for, while it stays among the dependents of all that
it has ever listed; so the two views agree in one direction only, and `DependencyIndex.Sound` is that
direction. It is kept by every change (`DependencyIndex.Sound.applyAll`), and it is enough for a
completion to find all tasks that wait for it by walking one list of dependents
(`DependencyIndex.Sound.resolvesExactly`).

Over the life of an index a task is reported to have nothing left to wait for at most as often as it
is entered: what is reported of it is paid for by an entry, and an entry that has not been reported
yet shows in what the task waits for (`DependencyIndex.Sound.count_reported_le`).
-/

namespace Taskweave.DependencyIndex

/-- A change of an index. -/
inductive Change where
  | insert (task : TaskId) (dependencies : List TaskId) (isCompleted : TaskId → Bool)
  | resolve (completed : TaskId)

/-- The index after a change. -/
def apply (ix : DependencyIndex) : Change → DependencyIndex
  | .insert task dependencies isCompleted => (ix.insert task dependencies isCompleted).2
  | .resolve completed => (ix.resolve completed).2

/-- The index after several changes. -/
def applyAll (ix : DependencyIndex) (changes : List Change) : DependencyIndex :=
  changes.foldl apply ix

/-- The tasks that are entered, each as often as it is. -/
def entered : List Change → List TaskId
  | [] => []
  | .insert task _ _ :: changes => task :: entered changes
  | .resolve _ :: changes => entered changes

/-- The tasks that are reported to have nothing to wait for when they are entered. -/
def readied (ix : DependencyIndex) : List Change → List TaskId
  | [] => []
  | .insert task dependencies isCompleted :: changes =>
    (if (ix.insert task dependencies isCompleted).1 then [task] else []) ++
      (ix.insert task dependencies isCompleted).2.readied changes
  | .resolve completed :: changes => (ix.resolve completed).2.readied changes

/-- The answers to all completions, one after the other. -/
def freed (ix : DependencyIndex) : List Change → List TaskId
  | [] => []
  | .insert task dependencies isCompleted :: changes =>
    (ix.insert task dependencies isCompleted).2.freed changes
  | .resolve completed :: changes =>
    (ix.resolve completed).1 ++ (ix.resolve completed).2.freed changes

/-- Among what the task `t` waits for is `d`. -/
def Awaits (ix : DependencyIndex) (t d : TaskId) : Prop := ∃ ws, ix.remaining? t = some ws ∧ d ∈ ws

/-- The task `t` waits for `d` and for nothing else. -/
def AwaitsOnly (ix : DependencyIndex) (t d : TaskId) : Prop := ∀ d', ix.Awaits t d' ↔ d' = d

/-- Whether a task is known and has something to wait for. -/
def waits (ix : DependencyIndex) (t : TaskId) : Bool :=
  match ix.remaining? t with
  | some ws => !ws.isEmpty
  | none => false

/-- The index once `t` does not wait for `completed` any more. -/
def release (ix : DependencyIndex) (completed t : TaskId) : DependencyIndex :=
  { ix with remaining := Dict.update ix.remaining t fun ws => ws.filter (· != completed) }

/-- A visit to a dependent of `completed`, which is released from waiting for it. A dependent that
did wait for it, and is left with nothing, is noted. -/
def visit (completed : TaskId) (noted : List TaskId × DependencyIndex) (t : TaskId) :
    List TaskId × DependencyIndex :=
  match noted.2.remaining? t with
  | none => noted
  | some ws =>
    (if completed ∈ ws ∧ ws.filter (· != completed) = [] then noted.1 ++ [t] else noted.1,
      noted.2.release completed t)

/-- What keeps the two views of an index together: nothing is listed twice, and whoever waits for a
dependency is among its dependents. -/
structure Sound (ix : DependencyIndex) : Prop where
  nodup_dependents : ∀ d, (ix.dependentsOf d).Nodup
  nodup_remaining : ∀ t ws, ix.remaining? t = some ws → ws.Nodup
  linked : ∀ t d, ix.Awaits t d → t ∈ ix.dependentsOf d

/-- What resolving `completed` does to an index. -/
structure ResolvesExactly (ix : DependencyIndex) (completed : TaskId)
    (answer : List TaskId × DependencyIndex) : Prop where
  nodup : answer.1.Nodup
  mem_iff : ∀ t, t ∈ answer.1 ↔ ix.AwaitsOnly t completed
  /-- Every task waits for what it waited for, less `completed`. -/
  remaining : ∀ t, answer.2.remaining? t =
    (ix.remaining? t).map fun ws => ws.filter (· != completed)
  dependents : ∀ d, answer.2.dependentsOf d = ix.dependentsOf d
  /-- The answer is what the visits to the dependents come to, one after the other. -/
  visited : answer = (ix.dependentsOf completed).foldl (visit completed) ([], ix)

section
variable {ix : DependencyIndex} {task t d completed : TaskId} {dependencies : List TaskId}
  {isCompleted : TaskId → Bool} {ws : List TaskId}

/-! ## What a task waits for -/

theorem awaits_iff (h : ix.remaining? t = some ws) : ix.Awaits t d ↔ d ∈ ws := by
  simp [Awaits, h]

theorem not_awaits (h : ix.remaining? t = none) : ¬ix.Awaits t d := by
  simp [Awaits, h]

/-- A task that is entered waits for those of its dependencies that have not completed. -/
theorem awaits_insert : (ix.insert task dependencies isCompleted).2.Awaits t d ↔
    if t = task then d ∈ dependencies ∧ isCompleted d = false else ix.Awaits t d := by
  rw [Awaits, remaining?_insert]
  by_cases ht : t = task
  · simp [ht, List.mem_eraseDups]
  · simp [ht, Awaits]

/-- Resolving adds nothing to what a task waits for. -/
theorem awaits_resolve (h : (ix.resolve completed).2.Awaits t d) : ix.Awaits t d := by
  obtain ⟨ws, hws, hd⟩ := h
  rw [remaining?_resolve] at hws
  split at hws
  · obtain ⟨ws', hws', rfl⟩ := Option.map_eq_some_iff.1 hws
    exact ⟨ws', hws', (List.mem_filter.1 hd).1⟩
  · exact ⟨ws, hws, hd⟩

/-! ## What every change keeps -/

/-- The index without a task is sound. -/
theorem Sound.empty : Sound .empty :=
  ⟨fun _ => List.nodup_nil, nofun, fun _ _ h => absurd h (not_awaits rfl)⟩

/-- Entering a task, for the first time or again, keeps an index sound. -/
theorem Sound.insert (h : ix.Sound) :
    (ix.insert task dependencies isCompleted).2.Sound := by
  refine ⟨fun d => ?_, fun t ws hws => ?_, fun t d hd => ?_⟩
  · rw [dependentsOf_insert]
    split
    · next hnew =>
      exact List.nodup_append.2 ⟨h.nodup_dependents d, List.nodup_singleton _, fun a ha b hb hab =>
        hnew.2 (List.mem_singleton.1 hb ▸ hab ▸ ha)⟩
    · exact h.nodup_dependents d
  · rw [remaining?_insert] at hws
    split at hws
    · exact Option.some.inj hws ▸ nodup_eraseDups _
    · exact h.nodup_remaining t ws hws
  · rw [awaits_insert] at hd
    rw [dependentsOf_insert]
    split at hd
    · next ht =>
      -- A task that was entered before is among the dependents already.
      subst ht
      by_cases hmem : t ∈ ix.dependentsOf d
      · simp [hmem]
      · simp [hmem, hd.1]
    · have hmem := h.linked t d hd
      split
      · exact List.mem_append_left _ hmem
      · exact hmem

/-- Resolving keeps an index sound. -/
theorem Sound.resolve (h : ix.Sound) : (ix.resolve completed).2.Sound := by
  refine ⟨h.nodup_dependents, fun t ws hws => ?_, fun t d hd => h.linked t d (awaits_resolve hd)⟩
  rw [remaining?_resolve] at hws
  split at hws
  · obtain ⟨ws', hws', rfl⟩ := Option.map_eq_some_iff.1 hws
    exact (h.nodup_remaining t ws' hws').filter _
  · exact h.nodup_remaining t ws hws

/-- Every change keeps an index sound. -/
theorem Sound.apply (h : ix.Sound) (change : Change) : (ix.apply change).Sound := by
  cases change with
  | insert => exact h.insert
  | resolve => exact h.resolve

/-- Changes keep an index sound. -/
theorem Sound.applyAll (h : ix.Sound) (changes : List Change) : (ix.applyAll changes).Sound := by
  induction changes generalizing ix with
  | nil => exact h
  | cons change changes ih => exact ih (h.apply change)

/-! ## Resolving -/

/-- A task waits for nothing else if its list has this one entry. -/
theorem Sound.awaitsOnly_iff (h : ix.Sound) : ix.AwaitsOnly t d ↔ ix.remaining? t = some [d] := by
  constructor
  · intro honly
    obtain ⟨ws, hws, hd⟩ := (honly d).2 rfl
    rw [hws, eq_singleton_of_nodup (h.nodup_remaining t ws hws) (List.ne_nil_of_mem hd) fun d' hd' =>
      (honly d').1 ⟨ws, hws, hd'⟩]
  · intro hws d'
    rw [awaits_iff hws, List.mem_singleton]

/-- A completion answers the tasks that wait for nothing else. -/
theorem Sound.mem_resolve_iff (h : ix.Sound) :
    t ∈ (ix.resolve completed).1 ↔ ix.AwaitsOnly t completed := by
  rw [resolve_fst, List.mem_filter, decide_eq_true_iff, ← h.awaitsOnly_iff]
  exact and_iff_right_of_imp fun honly => h.linked t completed ((honly completed).2 rfl)

/-- A completion is taken out of what every task waits for. -/
theorem Sound.remaining?_resolve_eq (h : ix.Sound) : (ix.resolve completed).2.remaining? t =
    (ix.remaining? t).map fun ws => ws.filter (· != completed) := by
  rw [remaining?_resolve]
  split
  · rfl
  · next hmem =>
    -- A task that is no dependent did not wait for the completion.
    cases hws : ix.remaining? t with
    | none => rfl
    | some ws =>
      have hself : ws.filter (· != completed) = ws := List.filter_eq_self.2 fun d hd => by
        refine bne_iff_ne.2 fun heq => hmem (h.linked t completed ⟨ws, hws, heq ▸ hd⟩)
      rw [Option.map_some, hself]

/-! ## Visiting the dependents -/

theorem remaining?_release : (ix.release completed t).remaining? d =
    if d = t then (ix.remaining? t).map fun ws => ws.filter (· != completed)
    else ix.remaining? d := by
  rw [remaining?, release, Dict.find?_update]
  split
  · next heq => rw [heq, remaining?]
  · rfl

/-- A task that is not known cannot be released. -/
theorem release_of_eq_none (h : ix.remaining? t = none) : ix.release completed t = ix := by
  rw [release, Dict.update_of_find?_eq_none h]

/-- Resolving releases the dependents. -/
theorem foldl_release (ix : DependencyIndex) (ts : List TaskId) :
    ts.foldl (fun ix t => ix.release completed t) ix =
      { ix with
        remaining := ts.foldl
          (fun rs t => Dict.update rs t fun ws => ws.filter (· != completed)) ix.remaining } := by
  induction ts generalizing ix with
  | nil => rfl
  | cons t ts ih => exact ih (ix.release completed t)

/-- Of a list without repetitions nothing is left without an entry if it was the only one. -/
theorem mem_and_filter_eq_nil_iff (h : ws.Nodup) :
    completed ∈ ws ∧ ws.filter (· != completed) = [] ↔ ws = [completed] := by
  constructor
  · rintro ⟨hmem, hnil⟩
    refine eq_singleton_of_nodup h (List.ne_nil_of_mem hmem) fun d hd => ?_
    simpa using List.filter_eq_nil_iff.1 hnil d hd
  · rintro rfl
    simp

/-- Visits to different tasks release them, and note those that wait for `completed` alone. -/
theorem foldl_visit {ts : List TaskId} (hts : ts.Nodup)
    (hws : ∀ t ∈ ts, ∀ ws, ix.remaining? t = some ws → ws.Nodup) (found : List TaskId) :
    ts.foldl (visit completed) (found, ix) =
      (found ++ ts.filter fun t => ix.remaining? t = some [completed],
        ts.foldl (fun ix t => ix.release completed t) ix) := by
  induction ts generalizing ix found with
  | nil => simp
  | cons t ts ih =>
    obtain ⟨ht, hts⟩ := List.nodup_cons.1 hts
    have hvisit : visit completed (found, ix) t =
        (found ++ [t].filter fun t => ix.remaining? t = some [completed], ix.release completed t) := by
      cases hremaining : ix.remaining? t with
      | none => simp [visit, hremaining, release_of_eq_none hremaining]
      | some ws =>
        have hiff : completed ∈ ws ∧ ws.filter (· != completed) = [] ↔ ws = [completed] :=
          mem_and_filter_eq_nil_iff (hws t List.mem_cons_self ws hremaining)
        simp only [visit, hremaining, hiff]
        by_cases honly : ws = [completed]
        · simp [hremaining, honly]
        · simp [hremaining, honly]
    -- A visit leaves what other tasks wait for.
    have hlater : ∀ t' ∈ ts, (ix.release completed t).remaining? t' = ix.remaining? t' :=
      fun t' ht' => by rw [remaining?_release, if_neg fun heq : t' = t => ht (heq ▸ ht')]
    have hcongr : ts.filter (fun t' => (ix.release completed t).remaining? t' = some [completed]) =
        ts.filter fun t' => ix.remaining? t' = some [completed] :=
      List.filter_congr fun t' ht' => by rw [hlater t' ht']
    rw [List.foldl_cons, hvisit, ih hts fun t' ht' ws hfind =>
      hws t' (List.mem_cons_of_mem _ ht') ws ((hlater t' ht').symm.trans hfind), hcongr,
      List.append_assoc, ← List.filter_append]
    rfl

/-- What resolving does to a sound index. -/
theorem Sound.resolvesExactly (h : ix.Sound) (completed : TaskId) :
    ResolvesExactly ix completed (ix.resolve completed) where
  nodup := (h.nodup_dependents completed).filter _
  mem_iff _ := h.mem_resolve_iff
  remaining _ := h.remaining?_resolve_eq
  dependents _ := rfl
  visited := by
    rw [foldl_visit (h.nodup_dependents completed) fun t _ => h.nodup_remaining t, List.nil_append,
      foldl_release]
    rfl

/-! ## Reports -/

/-- A task that is entered has something to wait for unless it is reported to have nothing. -/
theorem waits_insert : (ix.insert task dependencies isCompleted).2.waits t =
    if t = task then !(ix.insert task dependencies isCompleted).1 else ix.waits t := by
  rw [waits, remaining?_insert]
  by_cases ht : t = task
  · rw [if_pos ht, if_pos ht]
    rfl
  · rw [if_neg ht, if_neg ht, waits]

/-- A task that waits for one thing alone has something to wait for. -/
theorem waits_of_eq_singleton (h : ix.remaining? t = some [d]) : ix.waits t = true := by
  simp [waits, h]

/-- A task that a completion leaves something to wait for had something to wait for, and is not
answered. -/
theorem Sound.waits_resolve (h : ix.Sound) (hwaits : (ix.resolve completed).2.waits t = true) :
    ix.waits t = true ∧ t ∉ (ix.resolve completed).1 := by
  rw [waits, h.remaining?_resolve_eq] at hwaits
  cases hws : ix.remaining? t with
  | none => simp [hws] at hwaits
  | some ws =>
    have hleft : ws.filter (· != completed) ≠ [] := by simpa [hws] using hwaits
    refine ⟨?_, fun hmem => hleft ?_⟩
    · have hne : ws ≠ [] := fun hnil => hleft (by rw [hnil]; rfl)
      simpa [waits, hws] using hne
    · have honly := h.awaitsOnly_iff.1 (h.mem_resolve_iff.1 hmem)
      rw [hws] at honly
      simp [Option.some.inj honly]

/-- A completion answers a task at the cost of what it waits for. -/
theorem Sound.count_resolve_le (h : ix.Sound) (completed t : TaskId) :
    (ix.resolve completed).1.count t + ((ix.resolve completed).2.waits t).toNat ≤
      (ix.waits t).toNat := by
  have hcount := List.nodup_iff_count_le_one.1 (h.resolvesExactly completed).nodup t
  by_cases hmem : t ∈ (ix.resolve completed).1
  · have hbefore := waits_of_eq_singleton (h.awaitsOnly_iff.1 (h.mem_resolve_iff.1 hmem))
    have hafter : (ix.resolve completed).2.waits t = false :=
      Bool.eq_false_iff.2 fun hwaits => (h.waits_resolve hwaits).2 hmem
    rw [hbefore, hafter]
    exact hcount
  · rw [List.count_eq_zero.2 hmem, Nat.zero_add]
    exact Bool.toNat_le_toNat fun hwaits => (h.waits_resolve hwaits).1

/-- An entry pays for one report: that the task has nothing to wait for, or the one that its waiting
will lead to. -/
theorem count_readied_le :
    (if (ix.insert task dependencies isCompleted).1 then [task] else []).count t +
        ((ix.insert task dependencies isCompleted).2.waits t).toNat ≤
      (if task == t then 1 else 0) + (ix.waits t).toNat := by
  rw [waits_insert]
  by_cases ht : t = task
  · subst ht
    cases (ix.insert t dependencies isCompleted).1 <;> simp
  · cases (ix.insert task dependencies isCompleted).1 <;> simp [ht, Ne.symm ht]

/-- A task is reported to have nothing left to wait for at most as often as it is entered, and once
more if it waits at first. -/
theorem Sound.count_reported_le (h : ix.Sound) (changes : List Change) (t : TaskId) :
    (ix.readied changes).count t + (ix.freed changes).count t ≤
      (entered changes).count t + (ix.waits t).toNat := by
  induction changes generalizing ix with
  | nil => simp [readied, freed]
  | cons change changes ih =>
    cases change with
    | insert task dependencies isCompleted =>
      have hrest := @ih (ix.insert task dependencies isCompleted).2 h.insert
      have hstep := @count_readied_le ix task t dependencies isCompleted
      simp only [readied, freed, entered, List.count_append, List.count_cons]
      omega
    | resolve completed =>
      have hrest := @ih (ix.resolve completed).2 h.resolve
      have hstep := h.count_resolve_le completed t
      simp only [readied, freed, entered, List.count_append]
      omega

end

/-- Whatever is entered and resolved: the index knows all that wait for a dependency as its dependents,
each once; a completion answers those that wait for nothing else, is taken out of what every task
waits for and changes nothing besides; and no task is reported to have nothing left to wait for more
often than it is entered. So a task that is entered once is answered by one completion at most, and by
none if there was nothing to wait for from the start. -/
theorem applyAll_resolvesExactly (changes : List Change) :
    (∀ t d, (empty.applyAll changes).Awaits t d → t ∈ (empty.applyAll changes).dependentsOf d) ∧
    (∀ d, ((empty.applyAll changes).dependentsOf d).Nodup) ∧
    (∀ completed, ResolvesExactly (empty.applyAll changes) completed
      ((empty.applyAll changes).resolve completed)) ∧
    (∀ t, (empty.readied changes).count t + (empty.freed changes).count t ≤
      (entered changes).count t) ∧
    ((entered changes).Nodup →
      (empty.freed changes).Nodup ∧ ∀ t ∈ empty.readied changes, t ∉ empty.freed changes) := by
  have hsound := Sound.empty.applyAll changes
  have hcount : ∀ t, (empty.readied changes).count t + (empty.freed changes).count t ≤
      (entered changes).count t := Sound.empty.count_reported_le changes
  refine ⟨hsound.linked, hsound.nodup_dependents, hsound.resolvesExactly, hcount, fun honce => ?_⟩
  have hreported : (empty.readied changes ++ empty.freed changes).Nodup :=
    List.nodup_iff_count_le_one.2 fun t => by
      rw [List.count_append]
      exact (hcount t).trans (List.nodup_iff_count_le_one.1 honce t)
  obtain ⟨-, hfreed, hdisjoint⟩ := List.nodup_append.1 hreported
  exact ⟨hfreed, fun t hready hfree => hdisjoint t hready t hfree rfl⟩

/-- Three tasks are entered, one of them with nothing to wait for, and their dependencies complete, one
of them twice. -/
def lifetime : List Change :=
  [.insert "c" ["a", "b", "a"] fun _ => false, .insert "d" ["z"] (· == "z"),
    .insert "b" ["a"] fun _ => false, .resolve "a", .resolve "a", .resolve "b"]

/-- In `lifetime` no task is answered twice, and the one without anything to wait for is not answered;
before the completions, `c` is known to wait for `b`. -/
theorem resolvesExactly_lifetime :
    ((entered lifetime).Nodup ∧ (empty.freed lifetime).Nodup ∧
      "d" ∈ empty.readied lifetime ∧ "d" ∉ empty.freed lifetime) ∧
    (empty.applyAll (lifetime.take 3)).Awaits "c" "b" ∧
      "c" ∈ (empty.applyAll (lifetime.take 3)).dependentsOf "b" := by
  have honce : (entered lifetime).Nodup := by decide
  have hready : "d" ∈ empty.readied lifetime := by decide +kernel
  have hawaits : (empty.applyAll (lifetime.take 3)).Awaits "c" "b" :=
    ⟨["a", "b"], by decide +kernel, by decide⟩
  obtain ⟨hfreed, hnot⟩ := (applyAll_resolvesExactly lifetime).2.2.2.2 honce
  exact ⟨⟨honce, hfreed, hready, hnot "d" hready⟩, hawaits,
    (applyAll_resolvesExactly (lifetime.take 3)).1 "c" "b" hawaits⟩

/-- A task that is entered again is answered again. -/
example :
    empty.freed [.insert "b" ["a"] fun _ => false, .resolve "a", .insert "b" ["a"] fun _ => false,
      .resolve "a"] = ["b", "b"] := by
  decide +kernel

end Taskweave.DependencyIndex
