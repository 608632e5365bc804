import Taskweave.Proofs.Schedule.Effects

/-!
# Schedulers apart from their dates

Whatever dates something takes the reading of the clock as an argument, and nothing ever looks at a
date again. `Scheduler.undated` is a scheduler without the dates at which its tasks were started and
ended, though not without the fact that they were. From schedulers that are alike in this sense,
starting a task (`Scheduler.startTask_congr`) and the failure of one
(`Scheduler.complete_failure_congr`) lead to schedulers that are alike again, at whatever time they
happen, and starting a task hands out the same.
-/

namespace Taskweave

/-- A record whose starting and ending are dated with its submission. -/
def Task.undated (t : Task) : Task :=
  { t with
    startedAt := t.startedAt.map fun _ => t.createdAt
    completedAt := t.completedAt.map fun _ => t.createdAt }

/-- A scheduler whose records are not dated, except for their submission. -/
def Scheduler.undated (s : Scheduler) : Scheduler := { s with tasks := s.tasks.map Task.undated }

section
variable {t t' : Task} {now now' : Instant} {error : String}

/-- Records that are alike have one name. -/
theorem Task.id_of_undated (h : t.undated = t'.undated) : t.id = t'.id := by
  have hid : t.undated.id = t'.undated.id := by rw [h]
  exact hid

/-- Records that are alike agree in what a task is handed out with, and in the status. -/
theorem Task.undated_inj (h : t.undated = t'.undated) : t.role = t'.role ∧
    t.description = t'.description ∧ t.dependencies = t'.dependencies ∧ t.status = t'.status := by
  simp only [undated, Task.mk.injEq] at h
  exact ⟨h.2.1, h.2.2.1, h.2.2.2.1, h.2.2.2.2.1⟩

/-- Records that are alike are started alike. -/
theorem Task.start_congr (h : t.undated = t'.undated) :
    (t.start now).undated = (t'.start now').undated := by
  have hstart : ∀ (t : Task) now, (t.start now).undated = t.undated.start t.undated.createdAt :=
    fun _ _ => rfl
  rw [hstart, hstart, h]

/-- Records that are alike fail alike. -/
theorem Task.fail_congr (h : t.undated = t'.undated) :
    (t.fail now error).undated = (t'.fail now' error).undated := by
  have hfail : ∀ (t : Task) now,
      (t.fail now error).undated = t.undated.fail t.undated.createdAt error := fun _ _ => rfl
  rw [hfail, hfail, h]

end

namespace Scheduler

section
variable {s s' : Scheduler} {now now' : Instant} {id x : TaskId} {error : String}
  {tasks tasks' : List Task} {f g : Task → Task} {index : DependencyIndex}
  {stack : List (TaskId × TaskId)}

/-! ## Records -/

/-- Among records that are alike, those that are found are alike. -/
theorem record?_congr (h : tasks.map Task.undated = tasks'.map Task.undated) :
    (record? tasks x).map Task.undated = (record? tasks' x).map Task.undated := by
  have hfind : ∀ tasks : List Task,
      record? (tasks.map Task.undated) x = (record? tasks x).map Task.undated :=
    fun tasks => List.find?_map
  rw [← hfind, ← hfind, h]

/-- Among records that are alike, the same tasks wait. -/
theorem isWaiting_congr_undated (h : tasks.map Task.undated = tasks'.map Task.undated) :
    isWaiting tasks x = isWaiting tasks' x := by
  have hwaits : ∀ tasks : List Task, isWaiting tasks x =
      ((record? tasks x).map Task.undated).elim false fun t => t.status.isWaiting :=
    fun tasks => by
      rw [isWaiting, ← record?]
      cases record? tasks x with
      | none => rfl
      | some t => rfl
  rw [hwaits, hwaits, record?_congr h]

/-- Records that are alike stay so when those of one task change alike. -/
theorem modifyTask_congr (h : tasks.map Task.undated = tasks'.map Task.undated)
    (hfg : ∀ t t' : Task, t.undated = t'.undated → (f t).undated = (g t').undated) :
    (modifyTask tasks id f).map Task.undated = (modifyTask tasks' id g).map Task.undated := by
  induction tasks generalizing tasks' with
  | nil =>
    obtain rfl := List.map_eq_nil_iff.1 h.symm
    rfl
  | cons t tasks ih =>
    cases tasks' with
    | nil => cases h
    | cons t' tasks' =>
      obtain ⟨ht, hrest⟩ := List.cons.inj h
      have hid : t.id = t'.id := Task.id_of_undated ht
      rw [modifyTask_cons, modifyTask_cons, List.map_cons, List.map_cons, ih hrest, hid]
      congr 1
      split
      · exact hfg t t' ht
      · exact ht

/-- A sweep goes the same way over records that are alike, at whatever time. -/
theorem sweep_congr : ∀ tasks' : List Task, tasks.map Task.undated = tasks'.map Task.undated →
    (sweep index now tasks stack).1.map Task.undated =
        (sweep index now' tasks' stack).1.map Task.undated ∧
      (sweep index now tasks stack).2 = (sweep index now' tasks' stack).2 := by
  fun_induction sweep index now tasks stack with
  | case1 tasks =>
    intro tasks' h
    rw [sweep]
    exact ⟨h, rfl⟩
  | case2 tasks id cause rest hw failed swept ids heq ih =>
    intro tasks' h
    have hfailed : (modifyTask tasks id (Task.fail now (dependencyFailed cause))).map Task.undated =
        (modifyTask tasks' id (Task.fail now' (dependencyFailed cause))).map Task.undated :=
      modifyTask_congr h fun t t' => Task.fail_congr
    have hnext := ih _ hfailed
    rw [heq] at hnext
    rw [sweep, dif_pos ((isWaiting_congr_undated h).symm.trans hw)]
    exact ⟨hnext.1, congrArg (id :: ·) hnext.2⟩
  | case3 tasks id cause rest hw ih =>
    intro tasks' h
    rw [sweep, dif_neg (by rwa [← isWaiting_congr_undated h])]
    exact ih tasks' h

/-! ## Schedulers -/

/-- In schedulers that are alike, the records are alike. -/
theorem task?_congr (h : s.undated = s'.undated) (x : TaskId) :
    (s.task? x).map Task.undated = (s'.task? x).map Task.undated :=
  record?_congr (congrArg tasks h)

/-- In schedulers that are alike, the same tasks have been submitted. -/
theorem has_congr (h : s.undated = s'.undated) : s.has id = s'.has id := by
  rw [has, has, ← Option.isSome_map (f := Task.undated), task?_congr h, Option.isSome_map]

/-- In schedulers that are alike, the results are the same. -/
theorem resultsOf_congr_undated (h : s.undated = s'.undated) (deps : List TaskId) :
    s.resultsOf deps = s'.resultsOf deps := by
  refine (resultsOf_congr (fun d => ?_) deps)
  have hresult : ∀ s : Scheduler,
      (s.task? d).bind (·.result) = ((s.task? d).map Task.undated).bind (·.result) := fun s => by
    cases s.task? d with
    | none => rfl
    | some t => rfl
  rw [hresult, hresult, task?_congr h]

/-- Schedulers that are alike differ in their records alone. -/
theorem undated_eq_iff : s.undated = s'.undated ↔
    s.tasks.map Task.undated = s'.tasks.map Task.undated ∧ s.index = s'.index ∧
      s.queue = s'.queue ∧ s.inFlight = s'.inFlight ∧ s.policy = s'.policy :=
  Scheduler.mk.injEq .. ▸ Iff.rfl

/-- A task is started alike in schedulers that are alike, and the same is handed out. -/
theorem startTask_congr (h : s.undated = s'.undated) :
    (s.startTask now id).1 = (s'.startTask now' id).1 ∧
      (s.startTask now id).2.undated = (s'.startTask now' id).2.undated := by
  obtain ⟨htasks, hindex, hqueue, hfl, hpolicy⟩ := undated_eq_iff.1 h
  have htask := task?_congr h id
  unfold startTask
  cases ht : s.task? id with
  | none =>
    rw [ht, Option.map_none, eq_comm, Option.map_eq_none_iff] at htask
    rw [htask]
    exact ⟨rfl, h⟩
  | some t =>
    rw [ht, Option.map_some, eq_comm, Option.map_eq_some_iff] at htask
    obtain ⟨t', ht', hundated⟩ := htask
    obtain ⟨hrole, hdescription, hdeps, hstatus⟩ := Task.undated_inj hundated
    rw [ht']
    dsimp only
    rw [hstatus, ← hfl, hrole, hdescription, hdeps, resultsOf_congr_undated h]
    split
    · exact ⟨rfl, h⟩
    · refine ⟨rfl, undated_eq_iff.2 ⟨?_, hindex, hqueue, rfl, hpolicy⟩⟩
      exact modifyTask_congr htasks fun t t' => Task.start_congr

/-- A task leaves the tasks in flight alike in schedulers that are alike. -/
theorem landed_congr (h : s.undated = s'.undated) :
    (s.landed id).undated = (s'.landed id).undated := by
  obtain ⟨htasks, hindex, hqueue, hfl, hpolicy⟩ := undated_eq_iff.1 h
  exact undated_eq_iff.2
    ⟨htasks, hindex, hqueue, congrArg (List.filter (· != id)) hfl, hpolicy⟩

/-- The failure of a task in flight is alike in schedulers that are alike, before it cascades. -/
theorem failedAt_congr (h : s.undated = s'.undated) :
    (s.failedAt now id error).undated = (s'.failedAt now' id error).undated := by
  obtain ⟨htasks, hrest⟩ := undated_eq_iff.1 (landed_congr h)
  exact undated_eq_iff.2 ⟨modifyTask_congr htasks fun t t' => Task.fail_congr, hrest⟩

/-- A failure cascades alike in schedulers that are alike. -/
theorem cascade_congr (h : s.undated = s'.undated) :
    (s.cascade now id).2.undated = (s'.cascade now' id).2.undated := by
  obtain ⟨htasks, hindex, hqueue, hfl, hpolicy⟩ := undated_eq_iff.1 h
  refine undated_eq_iff.2 ⟨?_, hindex, hqueue, hfl, hpolicy⟩
  simp only [cascade, ← hindex]
  exact (sweep_congr s'.tasks htasks).1

/-- The failure of a task is alike in schedulers that are alike, at whatever time. -/
theorem complete_failure_congr (h : s.undated = s'.undated) :
    (s.complete now id (.failure error)).2.undated =
      (s'.complete now' id (.failure error)).2.undated := by
  obtain ⟨-, -, -, hfl, hpolicy⟩ := undated_eq_iff.1 h
  by_cases hmem : id ∈ s.inFlight
  · have hmem' : id ∈ s'.inFlight := hfl ▸ hmem
    cases hhas : s.has id with
    | true =>
      have hhas' : s'.has id = true := (has_congr h).symm.trans hhas
      cases hp : s.policy with
      | block =>
        rw [complete_failure_block hmem hhas hp,
          complete_failure_block hmem' hhas' (hpolicy.symm.trans hp)]
        exact failedAt_congr h
      | cascade =>
        rw [complete_failure_cascade hmem hhas hp,
          complete_failure_cascade hmem' hhas' (hpolicy.symm.trans hp)]
        exact cascade_congr (failedAt_congr h)
    | false =>
      have hhas' : s'.has id = false := (has_congr h).symm.trans hhas
      rw [complete_of_not_has hmem hhas, complete_of_not_has hmem' hhas']
      exact landed_congr h
  · have hmem' : id ∉ s'.inFlight := hfl ▸ hmem
    rw [complete_of_not_mem hmem, complete_of_not_mem hmem']
    exact h

end

end Scheduler

end Taskweave
