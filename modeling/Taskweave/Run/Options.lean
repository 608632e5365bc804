import Taskweave.Error
import Taskweave.Execution.ExecutorError

/-!
# Options, events and summaries of a run

`RunOptions` sets how many tasks may be in flight and how long a run waits before it looks again.
`Event` is what a run reacts to, `RunSummary` where every task stood when it returned.
-/

namespace Taskweave

/-- How a run behaves. -/
structure RunOptions where
  /-- Greatest number of tasks in flight; `none` sets no limit. -/
  maxConcurrency : Option Nat
  /-- How long a run waits for an event before it looks again. -/
  pollInterval : Duration
deriving DecidableEq, Repr, Inhabited

namespace RunOptions

/-- No limit, one second. -/
def default : RunOptions := ⟨none, .ofSeconds 1⟩

/-- Refuses a limit of zero, under which nothing would ever start. -/
def validate (o : RunOptions) : Except Error Unit :=
  if o.maxConcurrency = some 0 then .error (.config .zeroLimit) else .ok ()

/-- Free slots next to tasks in flight; `none` for no limit. -/
def slots (o : RunOptions) (inFlight : Nat) : Option Nat :=
  o.maxConcurrency.map fun limit => limit - inFlight

end RunOptions

/-- What a run reacts to. -/
inductive Event where
  /-- A task was added. -/
  | submitted (id : TaskId)
  /-- An executor is done with a task. -/
  | completed (id : TaskId) (outcome : Outcome)
deriving DecidableEq, Repr

/-- Where every task stood when a run returned, each list ascending. -/
structure RunSummary where
  completed : List TaskId
  failed : List TaskId
  blocked : List TaskId
  /-- Tasks whose executors had not returned; only an interrupted run leaves any. -/
  inProgress : List TaskId
  interrupted : Bool
deriving DecidableEq, Repr

end Taskweave
