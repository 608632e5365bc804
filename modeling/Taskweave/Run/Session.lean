import Taskweave.CommandLine.Level
import Taskweave.Execution.Command
import Taskweave.Run.Coordinator

/-!
# Sessions

A `Session` is a coordinator whose executors run commands on a host, a store for the memories of the
roles, and a clock. `Session.finish` carries its run to the end: calls begin as soon as they are
started, and when nothing else can happen the clock moves on to the return of the next call, whose
result is then remembered.

The session notes the level of each message that a log would have of it.
-/

namespace Taskweave

/-- A call that has begun. -/
structure OpenCall where
  executor : CommandExecutor
  assignment : Assignment
  result : ExecutionResult
  /-- When it returns. -/
  due : Instant

/-- A coordinator of commands with a store and a clock. -/
structure Session (σ : Type) where
  coordinator : Coordinator CommandExecutor
  store : σ
  clock : Instant
  /-- The calls that have begun and not returned, oldest first. -/
  calls : List OpenCall
  /-- The levels of all messages, the last one first. -/
  log : List LogLevel
  /-- The summary of the run once it is over. -/
  summary : Option RunSummary

namespace Session

variable {σ : Type} [Store σ]

/-- Notes a message. -/
def note (level : LogLevel) (s : Session σ) : Session σ := { s with log := level :: s.log }

/-- The oldest call that has not begun. -/
def nextCall? (s : Session σ) : Option (Dispatch CommandExecutor) :=
  s.coordinator.calls.find? fun call =>
    !s.calls.any fun c => c.assignment.id == call.assignment.id

/-- Lets a call begin. -/
def beginCall (host : Host) (call : Dispatch CommandExecutor) (s : Session σ) : Session σ :=
  let (result, time) := call.executor.execute host call.assignment
  let due : Instant := ⟨s.clock.nanos + time.nanos⟩
  (note .info { s with calls := s.calls ++ [⟨call.executor, call.assignment, result, due⟩] })

/-- The call that returns first; of those that return at one time, the oldest. -/
def firstDue? : List OpenCall → Option OpenCall
  | [] => none
  | c :: cs =>
    match firstDue? cs with
    | some d => if d.due.nanos < c.due.nanos then some d else some c
    | none => some c

/-- Lets a call return. -/
def endCall (digest : String → String) (call : OpenCall) (s : Session σ) : Session σ :=
  let clock : Instant := ⟨max s.clock.nanos call.due.nanos⟩
  let (fault, store) := call.executor.remember digest clock call.assignment call.result s.store
  let s := { s with
    clock, store
    calls := s.calls.filter fun c => c.assignment.id != call.assignment.id
    coordinator := s.coordinator.finish call.assignment.id (.returned call.result) }
  if fault.isSome then s.note .warn else s

/-- Takes over a turn of the run, which returns at once if it takes no further one. -/
def afterTurn (turn : Coordinator CommandExecutor) (s : Session σ) : Session σ :=
  let (summary, coordinator) := turn.conclude
  { s with coordinator, summary }

/-- The level at which an event is noted. -/
def levelOf : Event → LogLevel
  | .submitted _ => .debug
  | .completed _ (.success _) => .info
  | .completed _ (.failure _) => .warn

/-- The next thing that happens, while the run goes on. -/
def advance? (host : Host) (digest : String → String) (s : Session σ) : Option (Session σ) :=
  match s.nextCall? with
  | some call => some (s.beginCall host call)
  | none =>
    if s.summary.isSome then none
    else
      match s.coordinator.events with
      | e :: _ => some ((s.afterTurn (s.coordinator.receive s.clock)).note (levelOf e))
      | [] => (firstDue? s.calls).map fun call => s.endCall digest call

/-- At most `fuel` things that happen. -/
def advances (host : Host) (digest : String → String) : (fuel : Nat) → Session σ → Session σ
  | 0, s => s
  | fuel + 1, s =>
    match s.advance? host digest with
    | none => s
    | some s => advances host digest fuel s

/-- Runs to the end. Every task begins once, returns once, and causes two events. -/
def finish (host : Host) (digest : String → String) (s : Session σ) : Session σ :=
  let s := s.afterTurn (s.coordinator.wake s.clock)
  advances host digest (4 * s.coordinator.core.scheduler.tasks.length + s.coordinator.events.length + 1)
    s

end Session

end Taskweave
