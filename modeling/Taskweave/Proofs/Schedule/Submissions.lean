import Taskweave.Proofs.Schedule.Consistency
import Taskweave.Proofs.Schedule.Settling

/-!
# Tasks that have only been submitted

As long as nothing but submissions has reached a scheduler, its records are those of the submissions
in their order (`Scheduler.Filled`): no dependency has completed and none has failed, so a task is
pending if it lists no dependency, blocked if it lists one, and waits for all that it lists. The next
task is entered in the same way unless its name is taken (`Scheduler.Filled.submit`). A plan with
these tasks has nothing to settle yet (`Scheduler.Filled.tracks`).
-/

namespace Taskweave

open Scheduler

/-- The record of a task that is submitted before anything has run. -/
def Submission.record (now : Instant) (spec : Submission) : Task :=
  .create now spec.id spec.role spec.description spec.dependencies.eraseDups
    (if spec.dependencies = [] then .pending else .blocked)

namespace Scheduler

/-- The tasks `specs` have been submitted to a scheduler, in this order, and nothing has run. -/
structure Filled (now : Instant) (specs : List Submission) (s : Scheduler) : Prop where
  coherent : s.Coherent
  tasks_eq : s.tasks = specs.map (·.record now)

section
variable {s : Scheduler} {now : Instant} {specs : List Submission} {spec : Submission}
  {id : TaskId} {st : Status} {plan : Plan}

/-! ## Where the tasks stand -/

/-- A task that is submitted before anything has run waits. -/
theorem status_record :
    (spec.record now).status = .pending ∨ (spec.record now).status = .blocked := by
  unfold Submission.record Task.create
  split
  · exact .inl rfl
  · exact .inr rfl

/-- The record of a task that waits fits its status. -/
theorem fits_record : (spec.record now).Fits := by
  unfold Submission.record Task.create
  split
  · exact ⟨rfl, rfl, rfl, rfl⟩
  · exact ⟨rfl, rfl, rfl, rfl⟩

/-- A record is that of one of the submissions. -/
theorem Filled.exists_spec (h : s.Filled now specs) {t : Task} (ht : s.task? id = some t) :
    ∃ spec ∈ specs, spec.id = id ∧ t = spec.record now := by
  obtain ⟨hmem, hid⟩ := mem_of_record? ht
  rw [h.tasks_eq] at hmem
  obtain ⟨spec, hspec, rfl⟩ := List.mem_map.1 hmem
  exact ⟨spec, hspec, hid, rfl⟩

/-- Every submission has its record. -/
theorem Filled.task?_eq (h : s.Filled now specs) (hspec : spec ∈ specs) :
    s.task? spec.id = some (spec.record now) := by
  have hmem : spec.record now ∈ s.tasks := by
    rw [h.tasks_eq]
    exact List.mem_map_of_mem hspec
  exact record?_of_mem h.coherent.distinct hmem

/-- The tasks are those that were submitted. -/
theorem Filled.has_iff (h : s.Filled now specs) :
    s.has id = true ↔ id ∈ specs.map (·.id) := by
  rw [Scheduler.has_iff, h.tasks_eq, List.map_map]
  rfl

/-- Every task waits. -/
theorem Filled.status?_cases (h : s.Filled now specs) (hst : s.status? id = some st) :
    st = .pending ∨ st = .blocked := by
  obtain ⟨t, ht, rfl⟩ := exists_task?_of_status? hst
  obtain ⟨spec, -, -, rfl⟩ := h.exists_spec ht
  exact status_record

/-- No task has completed. -/
theorem Filled.isCompleted_eq (h : s.Filled now specs) : s.isCompleted id = false := by
  rw [← Bool.not_eq_true, isCompleted_iff]
  intro hst
  rcases h.status?_cases hst with he | he <;> cases he

/-- No task has failed. -/
theorem Filled.not_failed (h : s.Filled now specs) : s.status? id ≠ some .failed := by
  intro hst
  rcases h.status?_cases hst with he | he <;> cases he

/-- A task waits for all that it lists. -/
theorem Filled.remaining?_eq (h : s.Filled now specs) (hspec : spec ∈ specs) :
    s.remaining? spec.id = some (sortedStrings spec.dependencies.eraseDups) := by
  have hall : ∀ d ∈ (spec.record now).dependencies, (!s.isCompleted d) = true := fun d _ => by
    rw [h.isCompleted_eq]
    rfl
  rw [h.coherent.remaining?_eq (profile?_of_task? (h.task?_eq hspec)),
    Task.profile_dependencies, List.filter_eq_self.2 hall]
  rfl

/-! ## The next submission -/

/-- Nothing has been submitted to a new scheduler. -/
theorem Filled.new (policy : FailurePolicy) : (Scheduler.new policy).Filled now [] :=
  ⟨.new policy, rfl⟩

/-- A task without a name that is taken is entered as one that waits for all it lists. -/
theorem Filled.fresh_eq (h : s.Filled now specs) (spec : Submission) :
    s.fresh now spec.id spec.role spec.description spec.dependencies = spec.record now := by
  have hready : (s.index.insert spec.id spec.dependencies.eraseDups s.isCompleted).1 = true ↔
      spec.dependencies = [] := by
    rw [DependencyIndex.insert_fst]
    constructor
    · intro hall
      refine List.eq_nil_iff_forall_not_mem.2 fun d hd => ?_
      have hcompleted := hall d (List.mem_eraseDups.2 hd)
      rw [h.isCompleted_eq] at hcompleted
      cases hcompleted
    · rintro hnil d hd
      rw [hnil] at hd
      cases hd
  unfold Scheduler.fresh Submission.record
  simp only [hready]

/-- A task whose name is not taken is accepted, and has the record of one that waits. -/
theorem Filled.submit (h : s.Filled now specs) (hnew : s.has spec.id = false) :
    ∃ s', s.submit now spec.id spec.role spec.description spec.dependencies =
        .ok (spec.record now, s') ∧ s'.Filled now (specs ++ [spec]) ∧ s'.policy = s.policy := by
  have hnone : s.failedDependency? spec.dependencies.eraseDups = none := by
    cases hd : s.failedDependency? spec.dependencies.eraseDups with
    | none => rfl
    | some d => exact absurd (failedDependency?_eq_some hd).2.2 h.not_failed
  have hsubmit : s.submit now spec.id spec.role spec.description spec.dependencies = .ok (_, _) :=
    submit_of_none hnew hnone
  have henters := enters_of_submit hsubmit
  rw [h.fresh_eq] at hsubmit henters
  refine ⟨_, hsubmit, ⟨henters.coherent h.coherent, ?_⟩, henters.policy_eq⟩
  rw [entered, h.tasks_eq, List.map_append]
  rfl

/-! ## Plans -/

/-- Of tasks that wait a plan has nothing to settle. -/
theorem Filled.tracks (h : s.Filled now plan.specs) (hpolicy : s.policy = plan.policy) :
    plan.Tracks s where
  coherent := h.coherent
  policy := hpolicy
  listed id p hp := by
    obtain ⟨t, ht, rfl⟩ := Option.map_eq_some_iff.1 hp
    obtain ⟨spec, hspec, hid, rfl⟩ := h.exists_spec ht
    exact ⟨spec, hspec, hid, rfl⟩
  completes id v hyields := by
    have hcompleted := hyields.isCompleted
    rw [h.isCompleted_eq] at hcompleted
    cases hcompleted
  fails id hfailed := absurd hfailed h.not_failed
  closed _ _ _ _ _ _ hfailed := absurd hfailed h.not_failed
  fits id t ht := by
    obtain ⟨spec, -, -, rfl⟩ := h.exists_spec ht
    exact fits_record

end

end Scheduler

end Taskweave
