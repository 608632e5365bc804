import Mathlib.Data.List.Nodup
import Taskweave.Schedule.Scheduler

/-!
# Records of tasks

A record has a part that is fixed when its task is submitted (`Task.Profile`) and a part that every
operation of the scheduler may change. `Scheduler.outline` is the fixed part of all records, in the
order of submission; starting, ending, failing or unblocking a task leaves it as it is
(`Scheduler.outline_modifyTask`), so what depends on it alone needs no proof for those operations.
The rest of a record is looked up by name: `Scheduler.record?_modifyTask` and
`Scheduler.record?_modifyAll` say what is found afterwards.
-/

namespace Taskweave

/-- What is fixed about a task when it is submitted. -/
structure Task.Profile where
  id : TaskId
  role : RoleName
  description : String
  dependencies : List TaskId
  createdAt : Instant
deriving DecidableEq

namespace Task

/-- The fixed part of a record. -/
def profile (t : Task) : Profile := ⟨t.id, t.role, t.description, t.dependencies, t.createdAt⟩

section
variable (now : Instant) (t : Task) (result : Json) (error : String) (status : Status)

@[simp] theorem profile_id : t.profile.id = t.id := rfl
@[simp] theorem profile_dependencies : t.profile.dependencies = t.dependencies := rfl
@[simp] theorem profile_start : (t.start now).profile = t.profile := rfl
@[simp] theorem profile_complete : (t.complete now result).profile = t.profile := rfl
@[simp] theorem profile_fail : (t.fail now error).profile = t.profile := rfl
@[simp] theorem profile_withStatus : (t.withStatus status).profile = t.profile := rfl
@[simp] theorem status_start : (t.start now).status = .inProgress := rfl
@[simp] theorem status_complete : (t.complete now result).status = .completed := rfl
@[simp] theorem status_fail : (t.fail now error).status = .failed := rfl
@[simp] theorem status_withStatus : (t.withStatus status).status = status := rfl

end

end Task

namespace Scheduler

/-! ## Finding records -/

/-- The record of a task among records. -/
def record? (tasks : List Task) (id : TaskId) : Option Task := tasks.find? fun t => t.id == id

/-- The fixed parts of records, in their order. -/
def outline (tasks : List Task) : List Task.Profile := tasks.map Task.profile

/-- The fixed part of the record of a task. -/
def profile? (s : Scheduler) (id : TaskId) : Option Task.Profile := (s.task? id).map Task.profile

section
variable {s s' : Scheduler} {tasks : List Task} {t : Task} {id x : TaskId} {f : Task → Task}

theorem task?_eq_record? : s.task? id = record? s.tasks id := rfl

/-- A record that is found is one of the records, under its own name. -/
theorem mem_of_record? (h : record? tasks id = some t) : t ∈ tasks ∧ t.id = id :=
  ⟨List.mem_of_find?_eq_some h, by simpa using List.find?_some h⟩

/-- Under distinct names every record is found. -/
theorem record?_of_mem (hnd : (tasks.map (·.id)).Nodup) (h : t ∈ tasks) :
    record? tasks t.id = some t := by
  induction tasks with
  | nil => cases h
  | cons t' tasks ih =>
    obtain ⟨hfresh, hnd⟩ := List.nodup_cons.1 hnd
    rw [record?, List.find?_cons]
    rcases List.mem_cons.1 h with rfl | hmem
    · simp
    · have hne : t'.id ≠ t.id := fun he => hfresh (List.mem_map.2 ⟨t, hmem, he.symm⟩)
      rw [beq_false_of_ne hne]
      exact ih hnd hmem

/-- A record at the end is found unless one before it has the name. -/
theorem record?_append_singleton :
    record? (tasks ++ [t]) id = (record? tasks id).or (if t.id = id then some t else none) := by
  rw [record?, List.find?_append, List.find?_singleton]
  by_cases h : t.id = id
  · simp [h, record?]
  · simp [h, record?]

/-- No record is found if no record has the name. -/
theorem record?_eq_none_iff : record? tasks id = none ↔ id ∉ tasks.map (·.id) := by
  rw [record?, List.find?_eq_none]
  simp

/-- A task is submitted if one of the records has its name. -/
theorem has_iff : s.has id = true ↔ id ∈ s.tasks.map (·.id) := by
  rw [has, Option.isSome_iff_ne_none, task?_eq_record?, Ne, record?_eq_none_iff, not_not]

/-- A task that was not submitted has no record. -/
theorem task?_of_not_has (h : s.has id = false) : s.task? id = none := by
  rw [has] at h
  simpa using h

/-- A task with a status has a record with that status. -/
theorem exists_task?_of_status? {status : Status} (h : s.status? id = some status) :
    ∃ t, s.task? id = some t ∧ t.status = status := Option.map_eq_some_iff.1 h

/-- A task with a status has the status of a change once its record is changed. -/
theorem map_status_of_status? {status status' : Status} (hf : ∀ t, (f t).status = status')
    (h : s.status? id = some status) :
    ((s.task? id).map f).map (·.status) = some status' := by
  obtain ⟨t, ht, -⟩ := exists_task?_of_status? h
  rw [ht]
  exact congrArg some (hf t)

/-- A task has a record if it has a status. -/
theorem has_of_status? {status : Status} (h : s.status? id = some status) : s.has id = true := by
  obtain ⟨t, ht, -⟩ := exists_task?_of_status? h
  rw [has, ht]
  rfl

/-- A task with a record has its status. -/
theorem status?_of_task? (ht : s.task? x = some t) : s.status? x = some t.status := by
  rw [status?, ht]
  rfl

/-- A task with a record has its fixed part. -/
theorem profile?_of_task? (ht : s.task? x = some t) : s.profile? x = some t.profile := by
  rw [profile?, ht]
  rfl

/-- The status of a record that is found. -/
theorem status_of_status? {status : Status} (ht : s.task? x = some t)
    (hs : s.status? x = some status) : t.status = status := by
  rw [status?_of_task? ht] at hs
  exact Option.some.inj hs

/-- The fixed part of a record stands in the outline. -/
theorem profile?_eq_find? : s.profile? id = (outline s.tasks).find? fun p => p.id == id := by
  rw [outline, List.find?_map]
  rfl

/-- The names of the outline are those of the records. -/
theorem map_id_outline : (outline tasks).map (·.id) = tasks.map (·.id) := by
  rw [outline, List.map_map]
  rfl

/-- Schedulers with one outline have the same fixed parts. -/
theorem profile?_congr (h : outline s'.tasks = outline s.tasks) (id : TaskId) :
    s'.profile? id = s.profile? id := by
  rw [profile?_eq_find?, profile?_eq_find?, h]

/-- A waiting task is one that is found with a waiting status. -/
theorem isWaiting_iff :
    isWaiting tasks id = true ↔ ∃ t, record? tasks id = some t ∧ t.status.isWaiting = true := by
  rw [isWaiting, ← record?]
  cases record? tasks id with
  | none => simp
  | some t => simp

/-! ## Changing records -/

/-- Changes the records of several tasks, one after the other. -/
def modifyAll (tasks : List Task) (ids : List TaskId) (f : Task → Task) : List Task :=
  ids.foldl (fun tasks id => modifyTask tasks id f) tasks

/-- Changing a record changes what is found for its task alone. -/
theorem record?_modifyTask (hf : ∀ t, (f t).profile = t.profile) :
    record? (modifyTask tasks id f) x =
      if x = id then (record? tasks x).map f else record? tasks x := by
  have hid : ∀ t, (f t).id = t.id := fun t => congrArg Task.Profile.id (hf t)
  induction tasks with
  | nil => simp [modifyTask, record?]
  | cons t tasks ih =>
    have hname : (if t.id = id then f t else t).id = t.id := by
      split
      · exact hid t
      · rfl
    rw [modifyTask_cons, record?, List.find?_cons, hname]
    by_cases ht : t.id = x
    · subst ht
      by_cases he : t.id = id
      · simp [record?, he]
      · simp [record?, he]
    · rw [beq_false_of_ne ht]
      simpa [record?, ht] using ih

/-- Changing a record leaves the outline as it is. -/
theorem outline_modifyTask (hf : ∀ t, (f t).profile = t.profile) :
    outline (modifyTask tasks id f) = outline tasks := by
  rw [outline, modifyTask, List.map_map]
  refine List.map_congr_left fun t _ => ?_
  simp only [Function.comp]
  split
  · exact hf t
  · rfl

/-- Changing several records changes what is found for their tasks alone. -/
theorem record?_modifyAll {ids : List TaskId} (hf : ∀ t, (f t).profile = t.profile)
    (hids : ids.Nodup) :
    record? (modifyAll tasks ids f) x =
      if x ∈ ids then (record? tasks x).map f else record? tasks x := by
  induction ids generalizing tasks with
  | nil => simp [modifyAll]
  | cons id ids ih =>
    obtain ⟨hid, hrest⟩ := List.nodup_cons.1 hids
    rw [modifyAll, List.foldl_cons, ← modifyAll, ih hrest, record?_modifyTask hf]
    by_cases he : x = id
    · subst he; simp [hid]
    · simp [he]

/-- Changing several records leaves the outline as it is. -/
theorem outline_modifyAll {ids : List TaskId} (hf : ∀ t, (f t).profile = t.profile) :
    outline (modifyAll tasks ids f) = outline tasks := by
  induction ids generalizing tasks with
  | nil => rfl
  | cons id ids ih =>
    rw [modifyAll, List.foldl_cons, ← modifyAll, ih, outline_modifyTask hf]

end

end Scheduler

end Taskweave
