import Taskweave.Task.Record

/-!
# Workflow drafts

A `Draft` is a workflow as somebody wrote it: settings, roles with the command that serves them, and
tasks with the tasks they come after. Nothing in it has been checked; `Workflow.ofDraft` does that.
-/

namespace Taskweave

/-- The settings of a workflow. -/
structure Settings where
  maxConcurrency : Option Nat
  failurePolicy : FailurePolicy
  /-- How long a run waits before it looks again, as a duration. -/
  pollInterval : String
  /-- The directory for the state of the roles. -/
  workspace : Option String
deriving DecidableEq, Repr

/-- The settings of a workflow that gives none. -/
def Settings.default : Settings := ⟨none, .block, "1s", none⟩

/-- A role that is served by a shell command. -/
structure RoleSpec where
  command : String
  /-- A pattern; a line of output that matches it makes the task fail. -/
  failOnStdout : Option String
  /-- The time a command may take, as a duration. -/
  timeout : Option String
  /-- Values that are kept beside the state of the role. -/
  context : Dict Json
deriving DecidableEq, Repr

/-- A task as it is listed. -/
structure TaskSpec where
  role : RoleName
  description : String
  /-- The tasks that have to complete first. -/
  after : List TaskId
deriving DecidableEq, Repr

/-- A workflow that has not been checked. -/
structure Draft where
  settings : Settings
  roles : Dict RoleSpec
  tasks : Dict TaskSpec
deriving DecidableEq, Repr

end Taskweave
