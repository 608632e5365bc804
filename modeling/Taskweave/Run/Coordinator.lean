import Taskweave.Execution.Call
import Taskweave.Run.Orchestrator

/-!
# The coordinator

A `Coordinator` is an orchestrator with the executor calls that have not returned and the events
that nobody has received yet. Each function below is one thing that can happen to it:

* `Coordinator.register` and `Coordinator.accept` from outside, at any time;
* `Coordinator.announce` once a task has been accepted, which together is `Coordinator.submit`;
* `Coordinator.begin` starts a run, of which there is one at most;
* `Coordinator.receive` and `Coordinator.wake` are the turns of a run, with an event or without;
* `Coordinator.interrupt` has a run take no further turn;
* `Coordinator.conclude` is the return of a run that takes no further turn;
* `Coordinator.finish` is a call that ends, also between runs.

Whoever submits a task lets go of the orchestrator before the event is sent, and a run lets go of it
after its last turn and takes hold of it again for its summary. Others may come in between, so these
are two things that happen.

Calls and events outlive the run in which they came about: a call that returns after an interruption
leaves an event for the next run.
-/

namespace Taskweave

variable {α : Type}

/-- Another run is under way. -/
def Error.alreadyRunning : Error := .other "run loop already active" []

/-- Whether a run is under way, and how far it has come. -/
inductive RunPhase where
  /-- No run is under way. -/
  | idle
  /-- A run waits for its next turn. -/
  | going
  /-- A run takes no further turn, since nothing is left to do or because it was interrupted. -/
  | leaving (interrupted : Bool)
deriving DecidableEq, Repr

/-- An orchestrator, its executor calls and its events. -/
structure Coordinator (α : Type) where
  core : Orchestrator α
  /-- The calls that have not returned, oldest first. -/
  calls : List (Dispatch α)
  /-- The events that have not been received, oldest first. -/
  events : List Event
  phase : RunPhase

namespace Coordinator

/-- A coordinator without roles and tasks; unusable options are refused. -/
def new (policy : FailurePolicy) (options : RunOptions) : Except Error (Coordinator α) := do
  let core ← Orchestrator.new policy options
  return ⟨core, [], [], .idle⟩

/-- What is shown of a coordinator. -/
def description : String := "Coordinator \x7b .. \x7d"

/-- Binds a role to an executor. -/
def register (c : Coordinator α) (role : RoleName) (executor : α) :
    Except Error (Coordinator α) := do
  let core ← c.core.register role executor
  return { c with core }

/-- Adds a task of a bound role. -/
def accept (c : Coordinator α) (now : Instant) (id : TaskId) (role : RoleName)
    (description : String) (dependencies : List TaskId) :
    Except Error (Task × Coordinator α) := do
  let (task, core) ← c.core.submit now id role description dependencies
  return (task, { c with core })

/-- Lets a run know of a task. -/
def announce (c : Coordinator α) (id : TaskId) : Coordinator α :=
  { c with events := c.events ++ [.submitted id] }

/-- Adds a task of a bound role and lets a run know. -/
def submit (c : Coordinator α) (now : Instant) (id : TaskId) (role : RoleName)
    (description : String) (dependencies : List TaskId) :
    Except Error (Task × Coordinator α) := do
  let (task, c) ← c.accept now id role description dependencies
  return (task, c.announce id)

/-- The task with the given name. -/
def task? (c : Coordinator α) (id : TaskId) : Option Task := c.core.scheduler.task? id

/-- The snapshot of all tasks. -/
def snapshot (c : Coordinator α) : Snapshot := c.core.snapshot

/-- The tasks that a command starts. -/
def started : Command α → List (Dispatch α)
  | .dispatch tasks => tasks
  | .exit => []

/-- Does what a reaction asks for. -/
def carryOut (c : Coordinator α) (reaction : Reaction α) : Coordinator α :=
  { c with
    calls := c.calls ++ reaction.commands.flatMap started
    phase := if reaction.keepRunning then .going else .leaving false }

/-- Starts what can start, as the first turn of a run or as one without an event. -/
def wake (c : Coordinator α) (now : Instant) : Coordinator α :=
  let (reaction, core) := c.core.poll now
  carryOut { c with core } reaction

/-- Starts a run, unless one is under way. -/
def begin (c : Coordinator α) (now : Instant) : Except Error (Coordinator α) :=
  if c.phase = .idle then .ok (c.wake now) else .error .alreadyRunning

/-- Receives the oldest event. -/
def receive (c : Coordinator α) (now : Instant) : Coordinator α :=
  match c.events with
  | [] => c
  | e :: events =>
    let (reaction, core) := c.core.handle now e
    carryOut { c with core, events } reaction

/-- Has a run take no further turn. Its calls go on. -/
def interrupt (c : Coordinator α) : Coordinator α := { c with phase := .leaving true }

/-- Lets a run return that takes no further turn, with a summary of where the tasks stand by now. -/
def conclude (c : Coordinator α) : Option RunSummary × Coordinator α :=
  match c.phase with
  | .leaving interrupted => (some (c.core.summary interrupted), { c with phase := .idle })
  | .idle | .going => (none, c)

/-- Lets the call for a task end. -/
def finish (c : Coordinator α) (id : TaskId) (ending : CallEnd) : Coordinator α :=
  { c with
    calls := c.calls.filter fun call => call.assignment.id != id
    events := c.events ++ [.completed id (.ofResult ending.result)] }

end Coordinator

end Taskweave
