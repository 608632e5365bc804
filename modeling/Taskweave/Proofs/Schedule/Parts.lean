import Mathlib.Data.List.Nodup
import Taskweave.Proofs.Dict
import Taskweave.Schedule.DependencyIndex
import Taskweave.Schedule.ReadyQueue

/-!
# The parts of a scheduler

The ready queue and the dependency index, each on its own. `ReadyQueue.Sound` says that the queue
holds no task twice and that its set agrees with its order; pushing and taking keep it
(`ReadyQueue.Sound.push`, `ReadyQueue.Sound.drain`). For the index there is one equation of each of
its two views, `DependencyIndex.remaining?` and `DependencyIndex.dependentsOf`, for each of its two
operations.
-/

namespace Taskweave

/-- A list without its repetitions has none. -/
theorem nodup_eraseDups : ∀ xs : List TaskId, xs.eraseDups.Nodup
  | [] => List.nodup_nil
  | x :: xs => by
    rw [List.eraseDups_cons]
    refine List.nodup_cons.2 ⟨fun h => ?_, nodup_eraseDups _⟩
    have := (List.mem_filter.1 (List.mem_eraseDups.1 h)).2
    simp at this
termination_by xs => xs.length
decreasing_by exact Nat.lt_succ_of_le (List.length_filter_le _ xs)

/-- A list that has no repetitions is itself without them. -/
theorem eraseDups_of_nodup : ∀ {xs : List TaskId}, xs.Nodup → xs.eraseDups = xs
  | [], _ => rfl
  | x :: xs, h => by
    obtain ⟨hx, hxs⟩ := List.nodup_cons.1 h
    have hself : xs.filter (fun y => !y == x) = xs :=
      List.filter_eq_self.2 fun y hy => by
        have hne : y ≠ x := fun he => hx (he ▸ hy)
        simp [hne]
    rw [List.eraseDups_cons, hself, eraseDups_of_nodup hxs]

/-- A list whose only entry is `a` is that entry, once, if it is not empty and has no
repetitions. -/
theorem eq_singleton_of_nodup {a : TaskId} : ∀ {xs : List TaskId}, xs.Nodup → xs ≠ [] →
    (∀ b ∈ xs, b = a) → xs = [a]
  | [], _, hne, _ => absurd rfl hne
  | [b], _, _, hall => by rw [hall b (List.mem_singleton_self b)]
  | b :: c :: xs, hnd, _, hall => by
    have hb := hall b List.mem_cons_self
    have hc := hall c (List.mem_cons_of_mem _ List.mem_cons_self)
    exact absurd (hb.trans hc.symm) fun he =>
      (List.nodup_cons.1 hnd).1 (he ▸ List.mem_cons_self)

namespace ReadyQueue

/-- No task waits twice, and the set of the waiting tasks agrees with their order. -/
structure Sound (q : ReadyQueue) : Prop where
  nodup : q.order.Nodup
  mem_members : ∀ id, id ∈ q.members ↔ id ∈ q.order

/-- The queue without a task is sound. -/
theorem Sound.empty : Sound .empty := ⟨List.nodup_nil, fun _ => Iff.rfl⟩

section
variable {q : ReadyQueue} {id : TaskId}

/-- The set answers what the order says. -/
theorem Sound.contains_iff (h : q.Sound) : q.contains id = true ↔ id ∈ q.order := by
  rw [contains, List.contains_iff_mem]
  exact h.mem_members id

/-- A task that does not wait is put at the end. -/
theorem Sound.push_eq (h : q.Sound) (hid : id ∉ q.order) :
    q.push id = ⟨q.order ++ [id], id :: q.members⟩ :=
  if_neg fun hc => hid (h.contains_iff.1 hc)

/-- Pushing a task that does not wait keeps the queue sound. -/
theorem Sound.push (h : q.Sound) (hid : id ∉ q.order) : (q.push id).Sound := by
  rw [h.push_eq hid]
  constructor
  · exact List.nodup_append.2 ⟨h.nodup, List.nodup_singleton id, fun a ha b hb hab =>
      hid (by rw [← List.mem_singleton.1 hb, ← hab]; exact ha)⟩
  · intro x
    simp only [List.mem_cons, List.mem_append, h.mem_members x, List.not_mem_nil, or_false]
    exact Or.comm

/-- Pushing tasks that do not wait puts them at the end, in their order. -/
theorem Sound.pushAll {ids : List TaskId} (h : q.Sound) (hids : ids.Nodup)
    (hnew : ∀ id ∈ ids, id ∉ q.order) :
    (ids.foldl ReadyQueue.push q).Sound ∧
      (ids.foldl ReadyQueue.push q).order = q.order ++ ids := by
  induction ids generalizing q with
  | nil => exact ⟨h, (List.append_nil _).symm⟩
  | cons id ids ih =>
    obtain ⟨hid, hrest⟩ := List.nodup_cons.1 hids
    have hfst : id ∉ q.order := hnew id List.mem_cons_self
    have horder : (q.push id).order = q.order ++ [id] := by rw [h.push_eq hfst]
    obtain ⟨hs, ho⟩ := ih (h.push hfst) hrest fun x hx hmem => by
      rw [horder] at hmem
      rcases List.mem_append.1 hmem with hmem | hmem
      · exact hnew x (List.mem_cons_of_mem _ hx) hmem
      · exact hid (List.mem_singleton.1 hmem ▸ hx)
    refine ⟨hs, ?_⟩
    rw [List.foldl_cons, ho, horder, List.append_assoc, List.singleton_append]

/-- Taking the oldest task keeps the queue sound. -/
theorem Sound.pop {q' : ReadyQueue} (h : q.Sound) (hp : q.pop? = some (id, q')) : q'.Sound := by
  obtain ⟨order, members⟩ := q
  cases order with
  | nil => simp [pop?] at hp
  | cons x rest =>
    simp only [pop?, Option.some.injEq, Prod.mk.injEq] at hp
    obtain ⟨rfl, rfl⟩ := hp
    obtain ⟨hx, hrest⟩ := List.nodup_cons.1 h.nodup
    refine ⟨hrest, fun y => ?_⟩
    have hy : y ∈ members ↔ y ∈ x :: rest := h.mem_members y
    rw [List.mem_filter, hy, List.mem_cons]
    constructor
    · rintro ⟨rfl | hmem, hne⟩
      · simp at hne
      · exact hmem
    · intro hmem
      have hne : y ≠ x := fun he => hx (he ▸ hmem)
      exact ⟨.inr hmem, by simp [hne]⟩

/-- Taking several tasks keeps the queue sound. -/
theorem Sound.popMany (h : q.Sound) (n : Nat) : (q.popMany n).2.Sound := by
  induction n generalizing q with
  | zero => exact h
  | succ n ih =>
    unfold ReadyQueue.popMany
    split
    · exact h
    · next hp => exact ih (h.pop hp)

/-- Draining keeps the queue sound. -/
theorem Sound.drain (h : q.Sound) (limit : Option Nat) : (q.drain limit).2.Sound :=
  h.popMany _

end

end ReadyQueue

namespace DependencyIndex

section
variable {task d : TaskId} {isCompleted : TaskId → Bool}

/-- Entering the edges of a task puts it at the end of the dependents of each dependency, unless it
is among them already. -/
theorem getD_find?_foldl_link (deps : List TaskId) (m : Dict (List TaskId)) :
    (Dict.find? (deps.foldl (link task) m) d).getD [] =
      if d ∈ deps ∧ task ∉ (Dict.find? m d).getD [] then (Dict.find? m d).getD [] ++ [task]
      else (Dict.find? m d).getD [] := by
  induction deps generalizing m with
  | nil => simp
  | cons d' deps ih =>
    rw [List.foldl_cons, ih, link, Dict.find?_insert]
    by_cases hd : d = d'
    · subst hd
      by_cases hmem : task ∈ (Dict.find? m d).getD []
      · simp [hmem]
      · simp [hmem]
    · simp [hd]

/-- The dependents of a task once another is entered. -/
theorem dependentsOf_insert (ix : DependencyIndex) (deps : List TaskId) :
    (ix.insert task deps isCompleted).2.dependentsOf d =
      if d ∈ deps ∧ task ∉ ix.dependentsOf d then ix.dependentsOf d ++ [task]
      else ix.dependentsOf d :=
  getD_find?_foldl_link deps ix.dependents

/-- A task has nothing to wait for when it is entered if all its dependencies have completed. -/
theorem insert_fst (ix : DependencyIndex) (deps : List TaskId) :
    (ix.insert task deps isCompleted).1 = true ↔ ∀ d ∈ deps, isCompleted d = true := by
  rw [insert, List.isEmpty_iff, List.eq_nil_iff_forall_not_mem]
  simp [List.mem_eraseDups]

/-- What a task waits for once another is entered. -/
theorem remaining?_insert (ix : DependencyIndex) (deps : List TaskId) (id : TaskId) :
    (ix.insert task deps isCompleted).2.remaining? id =
      if id = task then some (deps.filter fun d => !isCompleted d).eraseDups
      else ix.remaining? id :=
  Dict.find?_insert _ _ _ _

/-- Rebinding several keys to their values under one idempotent function. -/
theorem find?_foldl_update {α : Type} {g : α → α} (hg : ∀ x, g (g x) = g x) (ids : List TaskId)
    (m : Dict α) (id : TaskId) :
    Dict.find? (ids.foldl (fun m t => Dict.update m t g) m) id =
      if id ∈ ids then (Dict.find? m id).map g else Dict.find? m id := by
  induction ids generalizing m with
  | nil => simp
  | cons t ids ih =>
    rw [List.foldl_cons, ih, Dict.find?_update]
    by_cases ht : id = t
    · subst ht
      cases Dict.find? m id with
      | none => simp
      | some x => simp [hg]
    · simp [ht]

/-- What a task waits for once a dependency has completed. -/
theorem remaining?_resolve (ix : DependencyIndex) (completed id : TaskId) :
    (ix.resolve completed).2.remaining? id =
      if id ∈ ix.dependentsOf completed then
        (ix.remaining? id).map fun waiting => waiting.filter (· != completed)
      else ix.remaining? id :=
  find?_foldl_update (fun waiting => by simp [List.filter_filter]) _ _ _

/-- The tasks that a completion resolves. -/
theorem resolve_fst (ix : DependencyIndex) (completed : TaskId) :
    (ix.resolve completed).1 =
      (ix.dependentsOf completed).filter fun t => ix.remaining? t = some [completed] := rfl

end

end DependencyIndex

end Taskweave
