import Taskweave.Run.Dispatch
import Taskweave.Run.Snapshot

/-!
# The orchestrator

An `Orchestrator` is a scheduler with a registry of executors and the options of its runs. It takes
a task only for a role that has an executor, and answers each event with what has to be done. It
waits for nothing and starts nothing itself; `Coordinator` does that.
-/

namespace Taskweave

variable {α : Type}

/-- A scheduler with executors and options. -/
structure Orchestrator (α : Type) where
  scheduler : Scheduler
  registry : Registry α
  options : RunOptions

namespace Orchestrator

/-- An orchestrator without roles and tasks; unusable options are refused. -/
def new (policy : FailurePolicy) (options : RunOptions) : Except Error (Orchestrator α) := do
  options.validate
  return ⟨.new policy, .empty, options⟩

/-- Binds a role to an executor. -/
def register (o : Orchestrator α) (role : RoleName) (executor : α) :
    Except Error (Orchestrator α) := do
  let registry ← o.registry.register role executor
  return { o with registry }

/-- Adds a task of a bound role. -/
def submit (o : Orchestrator α) (now : Instant) (id : TaskId) (role : RoleName)
    (description : String) (dependencies : List TaskId) :
    Except Error (Task × Orchestrator α) :=
  if !o.registry.contains role then .error (.unknownRole role)
  else do
    let (task, scheduler) ← o.scheduler.submit now id role description dependencies
    return (task, { o with scheduler })

/-- Starts what can start. -/
def poll (o : Orchestrator α) (now : Instant) : Reaction α × Orchestrator α :=
  let (reaction, scheduler) := o.scheduler.advance o.registry o.options now
  (reaction, { o with scheduler })

/-- Reacts to an event. -/
def handle (o : Orchestrator α) (now : Instant) : Event → Reaction α × Orchestrator α
  | .submitted _ => o.poll now
  | .completed id outcome =>
    let (reaction, scheduler) := o.scheduler.settle o.registry o.options now id outcome
    (reaction, { o with scheduler })

/-- The snapshot of all tasks. -/
def snapshot (o : Orchestrator α) : Snapshot := .capture o.scheduler o.registry.roles

/-- Where every task stands, for a run that ends now. -/
def summary (o : Orchestrator α) (interrupted : Bool) : RunSummary where
  completed := o.scheduler.idsWithStatus .completed
  failed := o.scheduler.idsWithStatus .failed
  blocked := o.scheduler.idsWithStatus .blocked
  inProgress := o.scheduler.idsWithStatus .inProgress
  interrupted

/-- The bound roles, ascending. -/
def roles (o : Orchestrator α) : List RoleName := o.registry.roles

end Orchestrator

end Taskweave
