import Taskweave.Error
import Taskweave.Schedule.DependencyIndex
import Taskweave.Schedule.ReadyQueue

/-!
# The scheduler

A `Scheduler` holds every task with its record, the dependency index, the ready queue and the tasks
in flight. Three operations change it:

* `Scheduler.submit` adds a task, queued at once if it waits for nothing;
* `Scheduler.dispatch` starts queued tasks, oldest first, and answers what to hand to executors;
* `Scheduler.complete` records how a task in flight ended, queues the tasks that waited for nothing
  else, or, where failures cascade, fails the tasks that wait for it (`Scheduler.cascade`).

The views are `Scheduler.task?`, `Scheduler.status?`, `Scheduler.queued`, `Scheduler.inFlight` and
`Scheduler.remaining?`.
-/

namespace Taskweave

/-- Tasks, what they wait for, and which of them are queued or in flight. -/
structure Scheduler where
  /-- Every task, in the order of submission. -/
  tasks : List Task
  index : DependencyIndex
  queue : ReadyQueue
  /-- Tasks that were dispatched and have not ended, in the order of dispatch. -/
  inFlight : List TaskId
  policy : FailurePolicy
deriving DecidableEq, Repr, Inhabited

/-- What a completion changed. -/
structure Progress where
  /-- Tasks that became ready, in the order they were queued. -/
  newlyReady : List TaskId
  /-- Tasks that failed. -/
  newlyFailed : List TaskId
  /-- Whether nothing is queued or in flight afterwards. -/
  quiescent : Bool
deriving DecidableEq, Repr

/-- The error of a task that fails because of a dependency. -/
def dependencyFailed (dependency : TaskId) : String := "dependency '" ++ dependency ++ "' failed"

namespace Scheduler

/-- A scheduler without tasks. -/
def new (policy : FailurePolicy) : Scheduler := ⟨[], .empty, .empty, [], policy⟩

/-! ## Views -/

/-- The task with the given name. -/
def task? (s : Scheduler) (id : TaskId) : Option Task := s.tasks.find? fun t => t.id == id

/-- The status of a task. -/
def status? (s : Scheduler) (id : TaskId) : Option Status := (s.task? id).map (·.status)

/-- Whether a task was submitted. -/
def has (s : Scheduler) (id : TaskId) : Bool := (s.task? id).isSome

/-- Whether a task has completed. -/
def isCompleted (s : Scheduler) (id : TaskId) : Bool := s.status? id == some .completed

/-- The queued tasks, oldest first. -/
def queued (s : Scheduler) : List TaskId := s.queue.order

/-- Whether nothing is queued and nothing in flight. -/
def isQuiescent (s : Scheduler) : Bool := s.queue.isEmpty && s.inFlight.isEmpty

/-- Unresolved dependencies of a task, ascending; `none` if it is unknown. -/
def remaining? (s : Scheduler) (id : TaskId) : Option (List TaskId) :=
  (s.index.remaining? id).map sortedStrings

/-- Whether every dependency of a task has completed; `none` if it is unknown. -/
def isSatisfied? (s : Scheduler) (id : TaskId) : Option Bool :=
  (s.task? id).map fun _ => s.index.isResolved id

/-- The tasks with a status, ascending. -/
def idsWithStatus (s : Scheduler) (status : Status) : List TaskId :=
  sortedStrings ((s.tasks.filter fun t => t.status == status).map (·.id))

/-- The results of completed tasks among `dependencies`. -/
def resultsOf (s : Scheduler) (dependencies : List TaskId) : Dict Json :=
  Dict.ofList (dependencies.filterMap fun d =>
    ((s.task? d).bind (·.result)).map fun r => (d, r))

/-! ## Changing records -/

/-- Changes the record of one task. -/
def modifyTask (tasks : List Task) (id : TaskId) (f : Task → Task) : List Task :=
  tasks.map fun t => if t.id = id then f t else t

/-- Whether a task is among `tasks` and waits. -/
def isWaiting (tasks : List Task) (id : TaskId) : Bool :=
  match tasks.find? fun t => t.id == id with
  | some t => t.status.isWaiting
  | none => false

/-- The number of dependents of a task while it waits. -/
def openDegree (index : DependencyIndex) (t : Task) : Nat :=
  if t.status.isWaiting then (index.dependentsOf t.id).length else 0

/-- The number of dependents of the waiting tasks, all counted. -/
def openEdges (index : DependencyIndex) : List Task → Nat
  | [] => 0
  | t :: tasks => openDegree index t + openEdges index tasks

section
variable {index : DependencyIndex} {now : Instant} {error : String} {id : TaskId}

@[simp] theorem openDegree_fail (t : Task) : openDegree index (t.fail now error) = 0 := rfl

@[simp] theorem openEdges_cons (t : Task) (tasks : List Task) :
    openEdges index (t :: tasks) = openDegree index t + openEdges index tasks := rfl

/-- The head of the records changes if it is the task in question. -/
theorem modifyTask_cons (t : Task) (tasks : List Task) (f : Task → Task) :
    modifyTask (t :: tasks) id f = (if t.id = id then f t else t) :: modifyTask tasks id f := rfl

/-- Failing a task opens no edge. -/
theorem openEdges_fail_le : ∀ tasks : List Task,
    openEdges index (modifyTask tasks id (Task.fail now error)) ≤ openEdges index tasks
  | [] => Nat.le_refl _
  | t :: tasks => by
    have ih := openEdges_fail_le tasks
    rw [modifyTask_cons, openEdges_cons, openEdges_cons]
    split
    · rw [openDegree_fail]; omega
    · omega

/-- Failing a waiting task closes the edges to its dependents. -/
theorem openEdges_fail : ∀ {tasks : List Task}, isWaiting tasks id = true →
    openEdges index (modifyTask tasks id (Task.fail now error)) +
      (index.dependentsOf id).length ≤ openEdges index tasks
  | [], h => by simp [isWaiting] at h
  | t :: tasks, h => by
    rw [modifyTask_cons, openEdges_cons, openEdges_cons]
    by_cases hid : t.id = id
    · have hw : t.status.isWaiting = true := by simpa [isWaiting, hid] using h
      have := @openEdges_fail_le index now error id tasks
      rw [if_pos hid, openDegree_fail, openDegree, if_pos hw, hid]
      omega
    · have hw : isWaiting tasks id = true := by simpa [isWaiting, hid] using h
      have := openEdges_fail hw
      rw [if_neg hid]
      omega

end

/-- Fails the waiting tasks among the pairs of a task and the dependency it fails for, and in turn
the waiting dependents of each. The pairs are a stack: the dependents of a task that fails come
before the pairs that are left, the last of them first. Answers the records and the failed tasks,
in order. -/
def sweep (index : DependencyIndex) (now : Instant) (tasks : List Task)
    (stack : List (TaskId × TaskId)) : List Task × List TaskId :=
  match stack with
  | [] => (tasks, [])
  | (id, cause) :: rest =>
    if _h : isWaiting tasks id = true then
      let failed := modifyTask tasks id (Task.fail now (dependencyFailed cause))
      let (tasks', ids) := sweep index now failed
        (((index.dependentsOf id).map fun d => (d, id)).reverse ++ rest)
      (tasks', id :: ids)
    else sweep index now tasks rest
termination_by openEdges index tasks + stack.length
decreasing_by
  · have := @openEdges_fail index now (dependencyFailed cause) id tasks _h
    simp only [List.length_append, List.length_reverse, List.length_map, List.length_cons]
    omega
  · simp only [List.length_cons]; omega

/-- Fails every waiting task that depends on `id`, directly or through others. Answers them in the
order they were failed. -/
def cascade (s : Scheduler) (now : Instant) (id : TaskId) : List TaskId × Scheduler :=
  let (tasks, ids) := sweep s.index now s.tasks
    ((s.index.dependentsOf id).map fun d => (d, id)).reverse
  (ids, { s with tasks })

/-! ## Operations -/

/-- The first failed task among the dependencies, where failures cascade. -/
def failedDependency? (s : Scheduler) (dependencies : List TaskId) : Option TaskId :=
  match s.policy with
  | .block => none
  | .cascade => dependencies.find? fun d => s.status? d == some .failed

/-- Adds a task. It is queued if all its dependencies have completed. Where failures cascade, a task
with a failed dependency fails at once, and so do the tasks that already wait for it. -/
def submit (s : Scheduler) (now : Instant) (id : TaskId) (role : RoleName) (description : String)
    (dependencies : List TaskId) : Except Error (Task × Scheduler) :=
  if s.has id then .error (.duplicateTask id)
  else
    let dependencies := dependencies.eraseDups
    let (ready, index) := s.index.insert id dependencies s.isCompleted
    let task := Task.create now id role description dependencies
      (if ready then .pending else .blocked)
    match s.failedDependency? dependencies with
    | some d =>
      let task := task.fail now (dependencyFailed d)
      .ok (task, (cascade { s with tasks := s.tasks ++ [task], index } now id).2)
    | none =>
      .ok (task,
        { s with
          tasks := s.tasks ++ [task]
          index
          queue := if ready then s.queue.push id else s.queue })

/-- Starts one queued task, already taken off the queue. A task that is not pending stays as it
is. -/
def startTask (s : Scheduler) (now : Instant) (id : TaskId) : Option Assignment × Scheduler :=
  match s.task? id with
  | none => (none, s)
  | some t =>
    if t.status ≠ .pending ∨ s.inFlight.contains id then (none, s)
    else
      (some ⟨id, t.role, t.description, s.resultsOf t.dependencies⟩,
        { s with
          tasks := modifyTask s.tasks id (Task.start now)
          inFlight := s.inFlight ++ [id] })

/-- Starts tasks one after the other. -/
def startAll (s : Scheduler) (now : Instant) : List TaskId → List Assignment × Scheduler
  | [] => ([], s)
  | id :: rest =>
    let (a, s) := s.startTask now id
    let (as, s) := startAll s now rest
    (a.toList ++ as, s)

/-- Starts the oldest queued tasks, at most `limit` of them, or all. -/
def dispatch (s : Scheduler) (now : Instant) (limit : Option Nat) : List Assignment × Scheduler :=
  let (ids, queue) := s.queue.drain limit
  startAll { s with queue } now ids

/-- Makes blocked tasks pending and queues them; others stay as they are. Answers those it
queued. -/
def unblock (s : Scheduler) : List TaskId → List TaskId × Scheduler
  | [] => ([], s)
  | id :: rest =>
    if s.status? id = some .blocked then
      let (ids, s) := unblock
        { s with
          tasks := modifyTask s.tasks id (Task.withStatus .pending)
          queue := s.queue.push id } rest
      (id :: ids, s)
    else unblock s rest

/-- The progress of a step that ended in `s`. -/
def progress (s : Scheduler) (newlyReady newlyFailed : List TaskId) : Progress :=
  ⟨newlyReady, newlyFailed, s.isQuiescent⟩

/-- Records how a task in flight ended. An outcome for any other task is ignored, and so is one for
a task without a record, which is no longer in flight then. -/
def complete (s : Scheduler) (now : Instant) (id : TaskId) (outcome : Outcome) :
    Progress × Scheduler :=
  if !s.inFlight.contains id then (s.progress [] [], s)
  else
    let s := { s with inFlight := s.inFlight.filter (· != id) }
    if !s.has id then (s.progress [] [], s)
    else
      match outcome with
      | .success result =>
        let (resolved, index) := s.index.resolve id
        let (ready, s) := unblock
          { s with tasks := modifyTask s.tasks id (Task.complete now result), index } resolved
        (s.progress ready [], s)
      | .failure error =>
        let s := { s with tasks := modifyTask s.tasks id (Task.fail now error) }
        match s.policy with
        | .block => (s.progress [] [id], s)
        | .cascade =>
          let (failed, s) := s.cascade now id
          (s.progress [] (id :: failed), s)

end Scheduler

end Taskweave
