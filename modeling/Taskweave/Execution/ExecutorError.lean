import Taskweave.Task.Record
import Taskweave.Time.Duration

/-!
# Executor errors

`ExecutorError` says why an executor produced no result. A task whose executor errs fails with the
text of the error (`ExecutorError.message`), whatever its kind.
-/

namespace Taskweave

/-- Why an executor produced no result. -/
inductive ExecutorError where
  /-- The work itself failed. -/
  | failed (message : String)
  /-- The executor could not take the task on. -/
  | unavailable (reason : String)
  /-- The executor broke down. -/
  | panicked (message : String)
  | timedOut (after : Duration)
deriving DecidableEq, Repr

namespace ExecutorError

/-- The text of an error. -/
def message : ExecutorError → String
  | .failed text => text
  | .unavailable reason => "executor unavailable: " ++ reason
  | .panicked text => "executor panicked: " ++ text
  | .timedOut after => "timed out after " ++ after.text

/-- The error of a task whose role nobody serves. -/
def unbound (role : RoleName) : ExecutorError :=
  .unavailable ("no executor registered for role '" ++ role ++ "'")

end ExecutorError

/-- What an execution gives back. -/
abbrev ExecutionResult := Except ExecutorError Json

/-- How a task ends for its scheduler. -/
def Outcome.ofResult : ExecutionResult → Outcome
  | .ok value => .success value
  | .error e => .failure e.message

end Taskweave
