import Taskweave.Rehearsal.Script
import Taskweave.Run.Coordinator

/-!
# The stage

A `Stage` is a coordinator whose executors are actors, with a clock that starts at zero and counts
milliseconds. Calls begin in the order in which they were started, as soon as the clock could move;
a call whose part has no delay ends as it begins. `Stage.settle` lets happen all that takes no time,
`Stage.moveTo` sets the clock and lets the calls return that are due.

The stage keeps a log of the calls to scripted actors and, for each stub, which calls have returned
and how many were open at once.
-/

namespace Taskweave

/-- An entry of the log. -/
inductive LogEntry where
  | started (a : Assignment) (time : Nat)
  | ended (id : TaskId) (time : Nat)
deriving DecidableEq, Repr

/-- What a stub has seen. -/
structure StubRecord where
  /-- The calls that have returned, the last one first. -/
  returned : List Assignment
  /-- The calls that are open. -/
  running : Nat
  /-- The most calls that were open at once. -/
  peak : Nat
deriving DecidableEq, Repr

namespace StubRecord

/-- A stub that has seen nothing. -/
def empty : StubRecord := ⟨[], 0, 0⟩

/-- A call begins. -/
def begin (r : StubRecord) : StubRecord :=
  { r with running := r.running + 1, peak := max r.peak (r.running + 1) }

/-- A call returns. -/
def finish (a : Assignment) (r : StubRecord) : StubRecord :=
  { r with returned := a :: r.returned, running := r.running - 1 }

end StubRecord

/-- A coordinator with actors, and a clock. -/
structure Stage where
  script : Script
  coordinator : Coordinator Actor
  clock : Nat
  /-- The calls that have begun, with the time at which they are due. -/
  begun : Dict Nat
  /-- The log, the last entry first. -/
  log : List LogEntry
  /-- What the stubs have seen, by role. -/
  stubs : Dict StubRecord
  /-- The summary of a run that has ended and has not been asked for. -/
  summary : Option RunSummary

namespace Stage

/-- A stage on which nothing has happened. -/
def new (script : Script) (policy : FailurePolicy) (options : RunOptions) :
    Except Error Stage := do
  let coordinator ← Coordinator.new policy options
  return ⟨script, coordinator, 0, [], [], [], none⟩

/-- The time of the clock. -/
def now (s : Stage) : Instant := ⟨s.clock * 1000000⟩

/-- The executor of a role as a stub. -/
def isStub (s : Stage) (role : RoleName) : Bool :=
  match s.coordinator.core.registry.find? role with
  | some (.stub _) => true
  | _ => false

/-- What the stub of a role has seen. -/
def stubRecord (s : Stage) (role : RoleName) : StubRecord :=
  (Dict.find? s.stubs role).getD .empty

/-- What the stub of a role has seen, where the role has one. -/
def stubRecord? (s : Stage) (role : RoleName) : Option StubRecord :=
  if s.isStub role then some (s.stubRecord role) else none

/-- Notes the return of a call. -/
def noteEnd (s : Stage) (call : Dispatch Actor) : Stage :=
  let a := call.assignment
  match call.executor with
  | .scripted => { s with log := .ended a.id s.clock :: s.log }
  | .stub _ =>
    { s with stubs := Dict.insert s.stubs a.role ((s.stubRecord a.role).finish a) }
  | .offline => s

/-- Notes the beginning of a call. -/
def noteBegin (s : Stage) (call : Dispatch Actor) : Stage :=
  let a := call.assignment
  match call.executor with
  | .scripted => { s with log := .started a s.clock :: s.log }
  | .stub _ => { s with stubs := Dict.insert s.stubs a.role (s.stubRecord a.role).begin }
  | .offline => s

/-- Lets a call return. -/
def finish (s : Stage) (call : Dispatch Actor) : Stage :=
  let s := s.noteEnd call
  let a := call.assignment
  let ending := (call.executor.part s.script a.id).ending
  { s with
    begun := Dict.erase s.begun a.id
    coordinator := s.coordinator.finish a.id (ending.callEnd a) }

/-- Lets a call begin. -/
def beginCall (s : Stage) (call : Dispatch Actor) : Stage :=
  let s := s.noteBegin call
  let a := call.assignment
  let delay := (call.executor.part s.script a.id).delay
  if delay = 0 then s.finish call
  else { s with begun := Dict.insert s.begun a.id (s.clock + delay) }

/-- Keeps the coordinator after a turn of its run, which returns at once if it takes no further
one. -/
def afterTurn (s : Stage) (turn : Coordinator Actor) : Stage :=
  let (summary, coordinator) := turn.conclude
  { s with coordinator, summary }

/-- The oldest call that has not begun. -/
def nextCall? (s : Stage) : Option (Dispatch Actor) :=
  s.coordinator.calls.find? fun call => !Dict.has s.begun call.assignment.id

/-- One thing that happens without time passing, if there is one. -/
def stir? (s : Stage) : Option Stage :=
  match s.nextCall? with
  | some call => some (s.beginCall call)
  | none =>
    if s.coordinator.phase == .going && !s.coordinator.events.isEmpty then
      some (s.afterTurn (s.coordinator.receive s.now))
    else none

/-- At most `fuel` things that happen without time passing. -/
def stirs : (fuel : Nat) → Stage → Stage
  | 0, s => s
  | fuel + 1, s =>
    match s.stir? with
    | none => s
    | some s => stirs fuel s

/-- Everything that happens without time passing. Every task begins once, returns once, and causes
two events at most. -/
def settle (s : Stage) : Stage :=
  stirs (4 * s.coordinator.core.scheduler.tasks.length + s.coordinator.events.length + 1) s

/-- The calls that are due. -/
def dueCalls (s : Stage) : List (Dispatch Actor) :=
  s.coordinator.calls.filter fun call =>
    match Dict.find? s.begun call.assignment.id with
    | some due => due ≤ s.clock
    | none => false

/-- Sets the clock and lets the calls return that are due. -/
def moveTo (s : Stage) (clock : Nat) : Stage :=
  let s := { s with clock }
  s.dueCalls.foldl finish s

/-- The log since it was last cleared, oldest entry first, and the stage with a clear log. -/
def takeLog (s : Stage) : List LogEntry × Stage := (s.log.reverse, { s with log := [] })

end Stage

end Taskweave
