import Taskweave.Task.Record

/-!
# The dependency index

For each task the dependencies that have not completed yet, and for each dependency the tasks that
listed it. `DependencyIndex.insert` enters a task, `DependencyIndex.resolve` records a completion
and answers which tasks have nothing left to wait for because of it. A dependency that was never
submitted stays unresolved.
-/

namespace Taskweave

/-- What each task waits for, and who waits for each dependency. -/
structure DependencyIndex where
  /-- Unresolved dependencies of each task, each once. -/
  remaining : Dict (List TaskId)
  /-- The tasks that listed a dependency, each once, in the order they were entered. -/
  dependents : Dict (List TaskId)
deriving DecidableEq, Repr, Inhabited

namespace DependencyIndex

/-- The index without a task. -/
def empty : DependencyIndex := ⟨[], []⟩

/-- Unresolved dependencies of a task, `none` if it was never entered. -/
def remaining? (ix : DependencyIndex) (task : TaskId) : Option (List TaskId) :=
  Dict.find? ix.remaining task

/-- The tasks that listed `dependency`. -/
def dependentsOf (ix : DependencyIndex) (dependency : TaskId) : List TaskId :=
  (Dict.find? ix.dependents dependency).getD []

/-- Whether a task is known and has nothing left to wait for. -/
def isResolved (ix : DependencyIndex) (task : TaskId) : Bool :=
  match ix.remaining? task with
  | some rs => rs.isEmpty
  | none => false

/-- Notes that `task` listed `dependency`. -/
def link (task : TaskId) (dependents : Dict (List TaskId)) (dependency : TaskId) :
    Dict (List TaskId) :=
  let known := (Dict.find? dependents dependency).getD []
  Dict.insert dependents dependency (if known.contains task then known else known ++ [task])

/-- Enters a task with the dependencies it lists. Those that `isCompleted` accepts are not waited
for. Answers whether nothing is left to wait for. -/
def insert (ix : DependencyIndex) (task : TaskId) (dependencies : List TaskId)
    (isCompleted : TaskId → Bool) : Bool × DependencyIndex :=
  let waiting := (dependencies.filter fun d => !isCompleted d).eraseDups
  (waiting.isEmpty,
    { remaining := Dict.insert ix.remaining task waiting
      dependents := dependencies.foldl (link task) ix.dependents })

/-- Records a completion. Answers the tasks that waited for nothing else, in the order they were
entered. -/
def resolve (ix : DependencyIndex) (completed : TaskId) : List TaskId × DependencyIndex :=
  let affected := ix.dependentsOf completed
  (affected.filter fun t => ix.remaining? t = some [completed],
    { ix with
      remaining := affected.foldl
        (fun rs t => Dict.update rs t fun waiting => waiting.filter (· != completed)) ix.remaining })

end DependencyIndex

end Taskweave
