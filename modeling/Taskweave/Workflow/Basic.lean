import Taskweave.Error
import Taskweave.Run.Options
import Taskweave.Workflow.Draft
import Taskweave.Workflow.Order

/-!
# Workflows

A `Workflow` is a draft that passed every check, with its tasks in dependency order.
`Workflow.ofDraft` makes the checks one after the other, so the first fault in that order is the one
reported: there are tasks, the settings are usable, every role has a command, a readable pattern and
a readable timeout, every task has a declared role, every task comes after other declared tasks, and
no task comes after itself by way of others. Which texts are patterns is a parameter.
-/

namespace Taskweave

/-- A workflow that passed every check. -/
structure Workflow where
  draft : Draft
  /-- The tasks in an order in which each comes after its dependencies. -/
  order : List TaskId
deriving DecidableEq, Repr

namespace Draft

/-- Refuses a workflow without tasks. -/
def checkTasks (d : Draft) : Except ConfigFault Unit :=
  if d.tasks.isEmpty then .error .noTasks else .ok ()

/-- Checks the settings. -/
def checkSettings (d : Draft) : Except ConfigFault Unit :=
  if d.settings.maxConcurrency = some 0 then .error .zeroWorkflowLimit
  else
    match Duration.parse d.settings.pollInterval with
    | .error fault => .error (.pollInterval fault)
    | .ok _ => .ok ()

/-- Checks a duration that may be missing. -/
def checkTimeout (role : RoleName) : Option String → Except ConfigFault Unit
  | none => .ok ()
  | some text =>
    match Duration.parse text with
    | .error fault => .error (.roleTimeout role fault)
    | .ok _ => .ok ()

/-- Checks one role. -/
def checkRole (isPattern : String → Bool) (name : RoleName) (role : RoleSpec) :
    Except ConfigFault Unit :=
  if Text.isBlankText role.command then .error (.emptyCommand name)
  else if (role.failOnStdout.any fun p => !isPattern p) then .error (.invalidPattern name)
  else checkTimeout name role.timeout

/-- Checks every role, in the order of their names. -/
def checkRoles (isPattern : String → Bool) (d : Draft) : Except ConfigFault Unit :=
  d.roles.forM fun e => checkRole isPattern e.1 e.2

/-- Refuses a task whose role is not declared. -/
def checkTaskRoles (d : Draft) : Except ConfigFault Unit :=
  d.tasks.forM fun e =>
    if Dict.has d.roles e.2.role then .ok () else .error (.unknownRole e.1 e.2.role)

/-- Checks the dependencies of one task, in the order they are listed. -/
def checkAfter (d : Draft) (id : TaskId) (task : TaskSpec) : Except ConfigFault Unit :=
  task.after.forM fun dependency =>
    if dependency = id then .error (.selfDependency id)
    else if Dict.has d.tasks dependency then .ok ()
    else .error (.unknownDependency id dependency)

/-- Checks the dependencies of every task, in the order of their names. -/
def checkDependencies (d : Draft) : Except ConfigFault Unit :=
  d.tasks.forM fun e => checkAfter d e.1 e.2

/-- All checks but the one for cycles. -/
def check (isPattern : String → Bool) (d : Draft) : Except ConfigFault Unit := do
  d.checkTasks
  d.checkSettings
  d.checkRoles isPattern
  d.checkTaskRoles
  d.checkDependencies

/-- The tasks that a task comes after. -/
def afterOf (d : Draft) (id : TaskId) : List TaskId :=
  match Dict.find? d.tasks id with
  | some task => task.after
  | none => []

/-- The tasks with what they come after. -/
def graph (d : Draft) : Graph := ⟨Dict.keys d.tasks, d.afterOf⟩

end Draft

namespace Workflow

/-- Checks a draft and puts its tasks in order. -/
def ofDraft (isPattern : String → Bool) (d : Draft) : Except Error Workflow :=
  match d.check isPattern with
  | .error fault => .error (.config fault)
  | .ok () =>
    match d.graph.order? with
    | .error task => .error (.cycle task)
    | .ok order => .ok ⟨d, order⟩

/-- How long a run waits before it looks again. -/
def pollInterval (w : Workflow) : Except Error Duration :=
  match Duration.parse w.draft.settings.pollInterval with
  | .ok d => .ok d
  | .error fault => .error (.config (.duration fault))

end Workflow

/-- The time a command of the role may take. -/
def RoleSpec.timeLimit (role : RoleSpec) : Except Error (Option Duration) :=
  match role.timeout with
  | none => .ok none
  | some text =>
    match Duration.parse text with
    | .ok d => .ok (some d)
    | .error fault => .error (.config (.duration fault))

end Taskweave
