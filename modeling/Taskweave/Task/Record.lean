import Taskweave.Task.Status
import Taskweave.Time.Instant

/-!
# Tasks

A `Task` is a unit of work with its record: what it is, which tasks it depends on, where it stands
and when it got there. The clock is read by the caller, so every operation that dates something
takes the reading as an argument. `Assignment` is the copy of a task that is handed to an executor,
together with the results of its dependencies.
-/

namespace Taskweave

/-- The name of a task, chosen by whoever submits it. -/
abbrev TaskId := String

/-- The name of a role. -/
abbrev RoleName := String

/-- A task and its record. -/
structure Task where
  id : TaskId
  role : RoleName
  description : String
  /-- Direct dependencies, each once, in the order they were listed. -/
  dependencies : List TaskId
  status : Status
  result : Option Json
  error : Option String
  createdAt : Instant
  startedAt : Option Instant
  completedAt : Option Instant
deriving DecidableEq, Repr, Inhabited

/-- What an execution ended with. -/
inductive Outcome where
  | success (result : Json)
  | failure (error : String)
deriving DecidableEq, Repr

namespace Task

/-- A task that has just been submitted. -/
def create (now : Instant) (id : TaskId) (role : RoleName) (description : String)
    (dependencies : List TaskId) (status : Status) : Task :=
  ⟨id, role, description, dependencies, status, none, none, now, none, none⟩

/-- The task, handed to its executor. -/
def start (now : Instant) (t : Task) : Task :=
  { t with status := .inProgress, startedAt := some now }

/-- The task, ended with a result. -/
def complete (now : Instant) (result : Json) (t : Task) : Task :=
  { t with status := .completed, result := some result, error := none, completedAt := some now }

/-- The task, ended with an error. -/
def fail (now : Instant) (error : String) (t : Task) : Task :=
  { t with status := .failed, result := none, error := some error, completedAt := some now }

/-- The task with another status. -/
def withStatus (status : Status) (t : Task) : Task := { t with status }

/-- Whether the task never changes again. -/
def isTerminal (t : Task) : Bool := t.status.isTerminal

end Task

/-- A task as its executor sees it. -/
structure Assignment where
  id : TaskId
  role : RoleName
  description : String
  dependencyResults : Dict Json
deriving DecidableEq, Repr

end Taskweave
