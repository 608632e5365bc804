import Taskweave.Schedule.Scheduler

/-!
# Snapshots

A `Snapshot` is a copy of every task by name, with the bound roles, the tasks in flight and the
number of tasks in each status. `Snapshot.toJson` is its written form, in which times are RFC 3339
texts.
-/

namespace Taskweave

/-- Number of tasks in each status. -/
structure StatusCounts where
  pending : Nat
  blocked : Nat
  inProgress : Nat
  completed : Nat
  failed : Nat
deriving DecidableEq, Repr

namespace StatusCounts

/-- No tasks. -/
def zero : StatusCounts := ⟨0, 0, 0, 0, 0⟩

/-- Counts one more task. -/
def record (c : StatusCounts) : Status → StatusCounts
  | .pending => { c with pending := c.pending + 1 }
  | .blocked => { c with blocked := c.blocked + 1 }
  | .inProgress => { c with inProgress := c.inProgress + 1 }
  | .completed => { c with completed := c.completed + 1 }
  | .failed => { c with failed := c.failed + 1 }

/-- The count of one status. -/
def count (c : StatusCounts) : Status → Nat
  | .pending => c.pending
  | .blocked => c.blocked
  | .inProgress => c.inProgress
  | .completed => c.completed
  | .failed => c.failed

/-- The number of tasks. -/
def total (c : StatusCounts) : Nat :=
  c.pending + c.blocked + c.inProgress + c.completed + c.failed

/-- The written form. -/
def toJson (c : StatusCounts) : Json :=
  .obj [("pending", .ofNat c.pending), ("blocked", .ofNat c.blocked),
    ("in_progress", .ofNat c.inProgress), ("completed", .ofNat c.completed),
    ("failed", .ofNat c.failed)]

end StatusCounts

/-- A copy of every task, with what surrounds them. -/
structure Snapshot where
  tasks : Dict Task
  /-- Roles with an executor, ascending. -/
  roles : List RoleName
  /-- Tasks in flight, ascending. -/
  inFlight : List TaskId
  counts : StatusCounts
deriving Repr

/-- The written form of a task. -/
def Task.toJson (t : Task) : Json :=
  let time : Option Instant → Json
    | none => .null
    | some i => .str i.rfc3339
  .obj [("id", .str t.id), ("role", .str t.role), ("description", .str t.description),
    ("dependencies", .strings t.dependencies), ("status", .str t.status.name),
    ("result", t.result.getD .null), ("error", .ofString? t.error),
    ("created_at", time (some t.createdAt)), ("started_at", time t.startedAt),
    ("completed_at", time t.completedAt)]

namespace Snapshot

/-- The snapshot of a scheduler whose roles are `roles`. -/
def capture (s : Scheduler) (roles : List RoleName) : Snapshot where
  tasks := Dict.ofList (s.tasks.map fun t => (t.id, t))
  roles := sortedSet roles
  inFlight := sortedSet s.inFlight
  counts := s.tasks.foldl (fun c t => c.record t.status) .zero

/-- The task with the given name. -/
def task? (s : Snapshot) (id : TaskId) : Option Task := Dict.find? s.tasks id

/-- The status of a task. -/
def status? (s : Snapshot) (id : TaskId) : Option Status := (s.task? id).map (·.status)

/-- The tasks with a status, in the order of their names. -/
def withStatus (s : Snapshot) (status : Status) : List Task :=
  (Dict.values s.tasks).filter fun t => t.status == status

/-- The written form. -/
def toJson (s : Snapshot) : Json :=
  .obj [("tasks", .obj (s.tasks.map fun e => (e.1, e.2.toJson))), ("roles", .strings s.roles),
    ("in_flight", .strings s.inFlight), ("counts", s.counts.toJson)]

end Snapshot

end Taskweave
