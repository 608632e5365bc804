import Taskweave.Proofs.Schedule.Records

/-!
# What a cascade does

`Scheduler.sweep` walks the dependents of failed tasks with a stack of pairs of a task and the
dependency it fails for; the same task may be on the stack many times, and dependencies may go round
in cycles. `Scheduler.Swept` says what comes of it, without the walk: which tasks failed, each for a
cause that is on the stack or failed itself, and that no waiting dependent of any of them is left.
`Scheduler.Cascaded` is the same for a cascade from one task (`Scheduler.cascade_cascaded`).
-/

namespace Taskweave.Scheduler

/-- What comes of sweeping `tasks` with a stack: the records `tasks'` and the failed tasks `ids`. -/
structure Swept (index : DependencyIndex) (now : Instant) (tasks : List Task)
    (stack : List (TaskId × TaskId)) (tasks' : List Task) (ids : List TaskId) : Prop where
  outline_eq : outline tasks' = outline tasks
  nodup : ids.Nodup
  /-- Only waiting tasks fail. -/
  waited : ∀ id ∈ ids, isWaiting tasks id = true
  /-- A task fails for a cause that is on the stack with it, or that failed itself. -/
  failed : ∀ id ∈ ids, ∃ cause,
    ((id, cause) ∈ stack ∨ cause ∈ ids ∧ id ∈ index.dependentsOf cause) ∧
      record? tasks' id = (record? tasks id).map (Task.fail now (dependencyFailed cause))
  kept : ∀ id, id ∉ ids → record? tasks' id = record? tasks id
  /-- No task of the stack waits afterwards. -/
  done : ∀ p ∈ stack, isWaiting tasks' p.1 = false
  /-- No dependent of a failed task waits afterwards. -/
  closed : ∀ id ∈ ids, ∀ d ∈ index.dependentsOf id, isWaiting tasks' d = false
  /-- What passes from a task to its dependents passes from the stack to the failed tasks. -/
  traced : ∀ {P : TaskId → Prop}, (∀ p ∈ stack, P p.1) →
    (∀ c, P c → ∀ d ∈ index.dependentsOf c, P d) → ∀ id ∈ ids, P id

section
variable {index : DependencyIndex} {now : Instant} {tasks tasks' : List Task}
  {stack : List (TaskId × TaskId)} {ids : List TaskId} {id cause : TaskId}

/-- A record that is looked up alike waits alike. -/
theorem isWaiting_congr (h : record? tasks' id = record? tasks id) :
    isWaiting tasks' id = isWaiting tasks id := by
  rw [isWaiting, ← record?, h, record?, isWaiting]

/-- A task that was failed does not wait. -/
theorem isWaiting_of_failed {error : String}
    (h : record? tasks' id = (record? tasks id).map (Task.fail now error)) :
    isWaiting tasks' id = false := by
  rw [isWaiting, ← record?, h]
  cases record? tasks id with
  | none => rfl
  | some t => rfl

/-- A task that waits when another was failed is not that one, and waited before. -/
theorem isWaiting_of_modifyTask_fail {error : String} {x : TaskId}
    (h : isWaiting (modifyTask tasks id (Task.fail now error)) x = true) :
    x ≠ id ∧ isWaiting tasks x = true := by
  have hx : record? (modifyTask tasks id (Task.fail now error)) x =
      if x = id then (record? tasks x).map (Task.fail now error) else record? tasks x :=
    record?_modifyTask fun t => Task.profile_fail now t error
  by_cases he : x = id
  · rw [if_pos he] at hx
    rw [isWaiting_of_failed hx] at h
    cases h
  · rw [if_neg he] at hx
    exact ⟨he, by rw [← isWaiting_congr hx]; exact h⟩

/-- The sweep that fails the task on top of the stack and goes on with its dependents. -/
theorem Swept.cons (hw : isWaiting tasks id = true)
    (h : Swept index now (modifyTask tasks id (Task.fail now (dependencyFailed cause)))
      (((index.dependentsOf id).map fun d => (d, id)).reverse ++ stack) tasks' ids) :
    Swept index now tasks ((id, cause) :: stack) tasks' (id :: ids) := by
  have hfind : ∀ x, record? (modifyTask tasks id (Task.fail now (dependencyFailed cause))) x =
      if x = id then (record? tasks x).map (Task.fail now (dependencyFailed cause))
      else record? tasks x := fun x =>
    record?_modifyTask fun t => Task.profile_fail now t _
  have hfresh : id ∉ ids := fun hid => (isWaiting_of_modifyTask_fail (h.waited id hid)).1 rfl
  have hself : record? tasks' id =
      (record? tasks id).map (Task.fail now (dependencyFailed cause)) := by
    rw [h.kept id hfresh, hfind id, if_pos rfl]
  have hdeps : ∀ d ∈ index.dependentsOf id, isWaiting tasks' d = false := fun d hd =>
    h.done (d, id) (List.mem_append_left _ (List.mem_reverse.2 (List.mem_map_of_mem hd)))
  refine ⟨?_, List.nodup_cons.2 ⟨hfresh, h.nodup⟩, ?_, ?_, ?_, ?_, ?_, ?_⟩
  · exact h.outline_eq.trans (outline_modifyTask fun t => Task.profile_fail now t _)
  · intro x hx
    rcases List.mem_cons.1 hx with rfl | hx
    · exact hw
    · exact (isWaiting_of_modifyTask_fail (h.waited x hx)).2
  · intro x hx
    rcases List.mem_cons.1 hx with rfl | hx
    · exact ⟨cause, .inl List.mem_cons_self, hself⟩
    · have hne := (isWaiting_of_modifyTask_fail (h.waited x hx)).1
      obtain ⟨c, hc, hrec⟩ := h.failed x hx
      rw [hfind x, if_neg hne] at hrec
      refine ⟨c, ?_, hrec⟩
      rcases hc with hc | ⟨hc, hd⟩
      · rcases List.mem_append.1 hc with hc | hc
        · obtain ⟨d, hd, he⟩ := List.mem_map.1 (List.mem_reverse.1 hc)
          obtain ⟨rfl, rfl⟩ := Prod.mk.inj he
          exact .inr ⟨List.mem_cons_self, hd⟩
        · exact .inl (List.mem_cons_of_mem _ hc)
      · exact .inr ⟨List.mem_cons_of_mem _ hc, hd⟩
  · intro x hx
    obtain ⟨hne, hx⟩ := not_or.1 (mt List.mem_cons.2 hx)
    rw [h.kept x hx, hfind x, if_neg hne]
  · intro p hp
    rcases List.mem_cons.1 hp with rfl | hp
    · exact isWaiting_of_failed hself
    · exact h.done p (List.mem_append_right _ hp)
  · intro x hx
    rcases List.mem_cons.1 hx with rfl | hx
    · exact hdeps
    · exact h.closed x hx
  · intro P hstack hpass x hx
    have hid : P id := hstack (id, cause) List.mem_cons_self
    rcases List.mem_cons.1 hx with rfl | hx
    · exact hid
    · refine h.traced (fun p hp => ?_) hpass x hx
      rcases List.mem_append.1 hp with hp | hp
      · obtain ⟨d, hd, rfl⟩ := List.mem_map.1 (List.mem_reverse.1 hp)
        exact hpass id hid d hd
      · exact hstack p (List.mem_cons_of_mem _ hp)

/-- The sweep that drops the top of the stack, whose task does not wait. -/
theorem Swept.skip (hw : isWaiting tasks id ≠ true) (h : Swept index now tasks stack tasks' ids) :
    Swept index now tasks ((id, cause) :: stack) tasks' ids := by
  refine ⟨h.outline_eq, h.nodup, h.waited, ?_, h.kept, ?_, h.closed, fun hstack =>
    h.traced fun p hp => hstack p (List.mem_cons_of_mem _ hp)⟩
  · intro x hx
    obtain ⟨c, hc, hrec⟩ := h.failed x hx
    exact ⟨c, hc.imp_left (List.mem_cons_of_mem _), hrec⟩
  · intro p hp
    rcases List.mem_cons.1 hp with rfl | hp
    · have hid : id ∉ ids := fun hid => hw (h.waited id hid)
      rw [isWaiting_congr (h.kept id hid)]
      exact Bool.eq_false_iff.2 hw
    · exact h.done p hp

/-- A sweep does what `Swept` says. -/
theorem sweep_swept (index : DependencyIndex) (now : Instant) (tasks : List Task)
    (stack : List (TaskId × TaskId)) :
    Swept index now tasks stack (sweep index now tasks stack).1 (sweep index now tasks stack).2 := by
  fun_induction sweep index now tasks stack with
  | case1 tasks =>
    exact ⟨rfl, List.nodup_nil, nofun, nofun, fun _ _ => rfl, nofun, nofun, fun _ _ => nofun⟩
  | case2 tasks id cause rest hw failed tasks' ids heq ih =>
    rw [heq] at ih
    exact ih.cons hw
  | case3 tasks id cause rest hw ih => exact ih.skip hw

end

/-- What comes of a cascade from `id` in `s`: the scheduler `s'` and the failed tasks `ids`. -/
structure Cascaded (s : Scheduler) (now : Instant) (id : TaskId) (s' : Scheduler)
    (ids : List TaskId) : Prop where
  frame : s' = { s with tasks := s'.tasks }
  outline_eq : outline s'.tasks = outline s.tasks
  nodup : ids.Nodup
  waited : ∀ x ∈ ids, isWaiting s.tasks x = true
  failed : ∀ x ∈ ids, ∃ cause ∈ id :: ids, x ∈ s.index.dependentsOf cause ∧
    s'.task? x = (s.task? x).map (Task.fail now (dependencyFailed cause))
  kept : ∀ x, x ∉ ids → s'.task? x = s.task? x
  closed : ∀ cause ∈ id :: ids, ∀ x ∈ s.index.dependentsOf cause, isWaiting s'.tasks x = false
  traced : ∀ {P : TaskId → Prop}, P id → (∀ c, P c → ∀ d ∈ s.index.dependentsOf c, P d) →
    ∀ x ∈ ids, P x

/-- A cascade does what `Cascaded` says. -/
theorem cascade_cascaded (s : Scheduler) (now : Instant) (id : TaskId) :
    Cascaded s now id (s.cascade now id).2 (s.cascade now id).1 := by
  have h := sweep_swept s.index now s.tasks ((s.index.dependentsOf id).map fun d => (d, id)).reverse
  have hstack : ∀ x c, (x, c) ∈ ((s.index.dependentsOf id).map fun d => (d, id)).reverse ↔
      x ∈ s.index.dependentsOf id ∧ c = id := by
    intro x c
    rw [List.mem_reverse, List.mem_map]
    constructor
    · rintro ⟨d, hd, he⟩
      obtain ⟨rfl, rfl⟩ := Prod.mk.inj he
      exact ⟨hd, rfl⟩
    · rintro ⟨hx, rfl⟩
      exact ⟨x, hx, rfl⟩
  refine ⟨rfl, h.outline_eq, h.nodup, h.waited, ?_, h.kept, ?_, fun {P} hid hpass =>
    h.traced (fun p hp => ?_) hpass⟩
  · intro x hx
    obtain ⟨c, hc, hrec⟩ := h.failed x hx
    rcases hc with hc | ⟨hc, hd⟩
    · obtain ⟨hd, rfl⟩ := (hstack x c).1 hc
      exact ⟨c, List.mem_cons_self, hd, hrec⟩
    · exact ⟨c, List.mem_cons_of_mem _ hc, hd, hrec⟩
  · intro c hc x hx
    rcases List.mem_cons.1 hc with rfl | hc
    · exact h.done (x, c) ((hstack x c).2 ⟨hx, rfl⟩)
    · exact h.closed c hc x hx
  · exact hpass id hid p.1 ((hstack p.1 p.2).1 hp).1

end Taskweave.Scheduler
