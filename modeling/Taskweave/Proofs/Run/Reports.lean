import Taskweave.Proofs.Run.Requests
import Taskweave.Proofs.Run.Summaries

/-!
# Status reports agree with each other

A snapshot is put together from the records, the tasks in flight and the bound roles, and counts the
records as it goes; a summary is made from the records alone. `Orchestrator.AgreeingReports` says how
the two fit, and how both fit the tasks that were submitted. Each part follows from the invariant of
the orchestrator (`Orchestrator.Tended`): records have distinct names (`Snapshot.perm_tasks`), the
tasks in flight are those in progress, and roles of tasks are bound. The tasks that were submitted
are those of the requests that were accepted (`Orchestrator.admitted`).
-/

namespace Taskweave

open Scheduler

variable {α : Type}

/-! ## Counts -/

namespace StatusCounts

/-- One more task is one more with its status. -/
theorem count_record (c : StatusCounts) (st st' : Status) :
    (c.record st').count st = c.count st + if st' = st then 1 else 0 := by
  cases st' <;> cases st <;> rfl

/-- One more task is one more in all. -/
theorem total_record (c : StatusCounts) (st : Status) : (c.record st).total = c.total + 1 := by
  cases st <;> simp only [record, total] <;> omega

/-- Counting tasks adds to each count the tasks with that status. -/
theorem count_foldl (tasks : List Task) (c : StatusCounts) (st : Status) :
    (tasks.foldl (fun c t => c.record t.status) c).count st =
      c.count st + tasks.countP fun t => t.status == st := by
  induction tasks generalizing c with
  | nil => rfl
  | cons t tasks ih =>
    simp only [List.foldl_cons, ih, count_record, List.countP_cons, beq_iff_eq]
    omega

/-- Counting tasks adds all of them to the total. -/
theorem total_foldl (tasks : List Task) (c : StatusCounts) :
    (tasks.foldl (fun c t => c.record t.status) c).total = c.total + tasks.length := by
  induction tasks generalizing c with
  | nil => rfl
  | cons t tasks ih =>
    rw [List.foldl_cons, ih, total_record, List.length_cons]
    omega

end StatusCounts

/-! ## Snapshots -/

namespace Snapshot

section
variable {s : Scheduler} {roles : List RoleName} {id : TaskId} {t : Task} {st : Status}

/-- A snapshot has the records, each under the name of its task. -/
theorem perm_tasks (h : s.Coherent) (roles : List RoleName) :
    (capture s roles).tasks.Perm (s.tasks.map fun t => (t.id, t)) := by
  refine Dict.perm_ofList ?_
  rw [Dict.keys, List.map_map]
  exact h.distinct

/-- The tasks of a snapshot are in the order of their names. -/
theorem ascending_tasks (s : Scheduler) (roles : List RoleName) :
    Dict.Ascending (capture s roles).tasks := Dict.ascending_ofList _

/-- The records of a snapshot are those of the scheduler. -/
theorem perm_values (h : s.Coherent) (roles : List RoleName) :
    (Dict.values (capture s roles).tasks).Perm s.tasks := by
  have hperm := (perm_tasks h roles).map Prod.snd
  have hsnd : Prod.snd ∘ (fun t : Task => (t.id, t)) = id := rfl
  rwa [List.map_map, hsnd, List.map_id] at hperm

/-- The names of a snapshot are those of the records. -/
theorem perm_keys (h : s.Coherent) (roles : List RoleName) :
    (Dict.keys (capture s roles).tasks).Perm (s.tasks.map (·.id)) := by
  have hperm := (perm_tasks h roles).map Prod.fst
  rwa [List.map_map] at hperm

/-- A record is entered under the name of its task. -/
theorem id_of_mem_tasks (h : s.Coherent) {e : String × Task} (he : e ∈ (capture s roles).tasks) :
    e.2.id = e.1 := by
  obtain ⟨t, -, rfl⟩ := List.mem_map.1 ((perm_tasks h roles).mem_iff.1 he)
  rfl

/-- A snapshot has the record that a task has now. -/
theorem task?_capture (h : s.Coherent) : (capture s roles).task? id = s.task? id := by
  refine Option.ext fun t => ?_
  rw [task?, Dict.find?_eq_some_iff (ascending_tasks s roles).nodup,
    (perm_tasks h roles).mem_iff, List.mem_map]
  constructor
  · rintro ⟨t', ht', heq⟩
    cases heq
    exact record?_of_mem h.distinct ht'
  · intro ht
    obtain ⟨hmem, rfl⟩ := mem_of_record? ht
    exact ⟨t, hmem, rfl⟩

/-- The tasks that are listed with a status are those that have it now. -/
theorem mem_map_withStatus (h : s.Coherent) :
    id ∈ ((capture s roles).withStatus st).map (·.id) ↔ s.status? id = some st := by
  rw [← h.mem_idsWithStatus, idsWithStatus, mem_sortedStrings, withStatus]
  exact (((perm_values h roles).filter _).map _).mem_iff

/-- The tasks with a status are listed in the order of their names, each once. -/
theorem ascending_withStatus (h : s.Coherent) :
    (((capture s roles).withStatus st).map (·.id)).Pairwise (· < ·) := by
  have hids : (Dict.values (capture s roles).tasks).map (·.id) =
      Dict.keys (capture s roles).tasks := by
    rw [Dict.values, List.map_map]
    exact List.map_congr_left fun e he => id_of_mem_tasks h he
  have hsub := (List.filter_sublist (p := fun t : Task => t.status == st)
    (l := Dict.values (capture s roles).tasks)).map (·.id)
  rw [hids] at hsub
  exact (ascending_tasks s roles).sublist hsub

/-- Each count is the number of tasks that are listed with the status. -/
theorem count_capture (h : s.Coherent) :
    (capture s roles).counts.count st = ((capture s roles).withStatus st).length := by
  have hcount : (capture s roles).counts.count st = s.tasks.countP fun t => t.status == st :=
    (StatusCounts.count_foldl s.tasks .zero st).trans (by cases st <;> exact Nat.zero_add _)
  rw [hcount, withStatus, ← List.countP_eq_length_filter]
  exact ((perm_values h roles).countP_eq _).symm

/-- The counts sum to the number of tasks that are listed. -/
theorem total_capture (h : s.Coherent) :
    (capture s roles).counts.total = (capture s roles).tasks.length := by
  rw [(perm_tasks h roles).length_eq, List.length_map]
  exact (StatusCounts.total_foldl s.tasks .zero).trans (Nat.zero_add _)

end

end Snapshot

namespace Orchestrator

/-- What is fixed about the task that a request adds, if it is accepted. -/
def admits (o : Orchestrator α) : Request α → List Task.Profile
  | .submit now id role description dependencies =>
    match o.submit now id role description dependencies with
    | .ok _ => [⟨id, role, description, dependencies.eraseDups, now⟩]
    | .error _ => []
  | .register _ _ | .poll _ | .handle _ _ => []

/-- The tasks that are accepted in a sequence of requests, in their order. -/
def admitted (o : Orchestrator α) : List (Request α) → List Task.Profile
  | [] => []
  | request :: requests => o.admits request ++ (o.perform request).admitted requests

/-- The reports of an orchestrator to which `submitted` have been submitted agree. -/
structure AgreeingReports (o : Orchestrator α) (submitted : List Task.Profile) : Prop where
  /-- Every task is listed once. -/
  listed : (Dict.keys o.snapshot.tasks).Perm (submitted.map (·.id))
  ascending : Dict.Ascending o.snapshot.tasks
  /-- A task is listed under its own name. -/
  named : ∀ e ∈ o.snapshot.tasks, e.2.id = e.1
  /-- The record of a task is the one it has now, with what was submitted. -/
  record : ∀ id, o.snapshot.task? id = o.scheduler.task? id
  fixed : ∀ p ∈ submitted, (o.snapshot.task? p.id).map Task.profile = some p
  count : ∀ st, o.snapshot.counts.count st = (o.snapshot.withStatus st).length
  total : o.snapshot.counts.total = o.snapshot.tasks.length
  inFlight : o.snapshot.inFlight = (o.snapshot.withStatus .inProgress).map (·.id)
  inProgress : ∀ interrupted, (o.summary interrupted).inProgress = o.snapshot.inFlight
  /-- A summary has the tasks that a snapshot lists, but for those that are pending. -/
  lists : ∀ interrupted, ∀ st ≠ .pending,
    (o.summary interrupted).listOf st = (o.snapshot.withStatus st).map (·.id)
  sorted : ∀ st, ((o.snapshot.withStatus st).map (·.id)).Pairwise (· < ·)
  role : ∀ e ∈ o.snapshot.tasks, e.2.role ∈ o.snapshot.roles

section
variable {options : RunOptions} {o : Orchestrator α} {s' : Scheduler} {now : Instant}
  {id : TaskId} {st : Status}

/-! ## What was submitted -/

/-- Starting tasks after an event adds none. -/
theorem Tended.outline_advance (h : Tended options o) (he : OnlyEnds o.scheduler s')
    (now : Instant) :
    outline (s'.advance o.registry o.options now).2.tasks = outline o.scheduler.tasks := by
  rw [(h.advance_eq he now).1, he.coherent.outline_dispatch, he.outline_eq]

/-- A request adds the task it submits, if that is accepted. -/
theorem Tended.outline_perform (h : Tended options o) (request : Request α) :
    outline (o.perform request).scheduler.tasks =
      outline o.scheduler.tasks ++ o.admits request := by
  cases request with
  | register role executor =>
    rw [Orchestrator.perform, admits, List.append_nil]
    cases hr : o.register role executor with
    | ok o' =>
      obtain ⟨registry, -, rfl⟩ := register_eq_ok hr
      rfl
    | error e => rfl
  | submit now id role description deps =>
    rw [Orchestrator.perform, admits]
    cases hs : o.submit now id role description deps with
    | ok r =>
      obtain ⟨t, o'⟩ := r
      obtain ⟨-, s', hsub, rfl⟩ := submit_eq_ok hs
      have hacc := (enters_of_submit hsub).accepted h.coherent
      rw [← hacc.profile_eq]
      exact hacc.outline_eq
    | error e => exact (List.append_nil _).symm
  | poll now =>
    rw [admits, List.append_nil]
    exact h.outline_advance (onlyEnds_noted h.coherent now (.submitted "")) now
  | handle now e =>
    rw [admits, List.append_nil]
    have hadvance := h.outline_advance (onlyEnds_noted h.coherent now e) now
    cases e with
    | submitted | completed => exact hadvance

/-- A sequence of requests adds the tasks that are accepted. -/
theorem Tended.outline_performAll (h : Tended options o) (requests : List (Request α)) :
    outline (o.performAll requests).scheduler.tasks =
      outline o.scheduler.tasks ++ o.admitted requests := by
  induction requests generalizing o with
  | nil => exact (List.append_nil _).symm
  | cons request requests ih =>
    rw [admitted, ← List.append_assoc, ← h.outline_perform request]
    exact ih (h.perform request)

/-! ## Reports -/

/-- The tasks with a status are those that a snapshot lists with it, in the same order. -/
theorem idsWithStatus_eq (h : o.scheduler.Coherent) :
    o.scheduler.idsWithStatus st = (o.snapshot.withStatus st).map (·.id) := by
  refine eq_of_ascending h.ascending_idsWithStatus (Snapshot.ascending_withStatus h) fun id => ?_
  rw [snapshot, Snapshot.mem_map_withStatus h, h.mem_idsWithStatus]

/-- The tasks in flight are listed in order, as those in progress are. -/
theorem inFlight_snapshot (h : o.scheduler.Coherent) :
    o.snapshot.inFlight = (o.snapshot.withStatus .inProgress).map (·.id) := by
  refine eq_of_ascending (ascending_sortedSet _) (Snapshot.ascending_withStatus h) fun id => ?_
  rw [snapshot, Snapshot.mem_map_withStatus h, ← h.mem_inFlight]
  exact mem_sortedSet

/-- The role of a task that is listed is among the roles. -/
theorem Tended.role_mem (h : Tended options o) {e : String × Task}
    (he : e ∈ o.snapshot.tasks) : e.2.role ∈ o.snapshot.roles := by
  obtain ⟨t, ht, rfl⟩ :=
    List.mem_map.1 ((Snapshot.perm_tasks h.coherent o.registry.roles).mem_iff.1 he)
  have hbound := h.bound t.profile (List.mem_map_of_mem ht)
  exact mem_sortedSet.2 (Dict.find?_isSome_iff.1 hbound)

/-- The reports of an orchestrator that is tended agree. -/
theorem Tended.agreeingReports (h : Tended options o) :
    AgreeingReports o (outline o.scheduler.tasks) where
  listed := by
    rw [map_id_outline]
    exact Snapshot.perm_keys h.coherent _
  ascending := Snapshot.ascending_tasks _ _
  named e he := Snapshot.id_of_mem_tasks h.coherent he
  record id := Snapshot.task?_capture h.coherent
  fixed p hp := by
    rw [snapshot, Snapshot.task?_capture h.coherent]
    exact h.coherent.profile?_of_mem hp
  count st := Snapshot.count_capture h.coherent
  total := Snapshot.total_capture h.coherent
  inFlight := inFlight_snapshot h.coherent
  inProgress _ := (idsWithStatus_eq h.coherent).trans (inFlight_snapshot h.coherent).symm
  lists interrupted st hst := by
    cases st with
    | pending => exact absurd rfl hst
    | completed | failed | blocked | inProgress => exact idsWithStatus_eq h.coherent
  sorted st := Snapshot.ascending_withStatus h.coherent
  role e he := h.role_mem he

end

/-- Whatever is asked of a new orchestrator, its reports agree with each other and with what was
submitted. -/
theorem performAll_reports_agree {policy : FailurePolicy} {options : RunOptions}
    {o : Orchestrator α} (h : Orchestrator.new policy options = .ok o)
    (requests : List (Request α)) : AgreeingReports (o.performAll requests) (o.admitted requests) := by
  have htended := Tended.new h
  have houtline := htended.outline_performAll requests
  have hempty : outline o.scheduler.tasks = [] := by
    rw [Orchestrator.new, RunOptions.validate] at h
    split at h
    · cases h
    · cases h
      rfl
  rw [hempty, List.nil_append] at houtline
  exact houtline ▸ (htended.performAll requests).agreeingReports

/-- A task that runs and one that waits for it, submitted after a task that is refused. -/
theorem reports_agree_half_done :
    Orchestrator.new .block ⟨some 1, .ofSeconds 1⟩ =
        .ok (⟨.new .block, .empty, ⟨some 1, .ofSeconds 1⟩⟩ : Orchestrator Unit) ∧
      AgreeingReports
        ((⟨.new .block, .empty, ⟨some 1, .ofSeconds 1⟩⟩ : Orchestrator Unit).performAll
          [.submit ⟨0⟩ "a" "r" "" [], .register "r" (), .submit ⟨1⟩ "b" "r" "" ["a"],
            .submit ⟨2⟩ "a" "r" "" [], .poll ⟨3⟩])
        [⟨"b", "r", "", ["a"], ⟨1⟩⟩, ⟨"a", "r", "", [], ⟨2⟩⟩] := by
  have hnew : Orchestrator.new .block ⟨some 1, .ofSeconds 1⟩ =
      .ok (⟨.new .block, .empty, ⟨some 1, .ofSeconds 1⟩⟩ : Orchestrator Unit) := rfl
  exact ⟨hnew, performAll_reports_agree hnew _⟩

end Orchestrator

end Taskweave
