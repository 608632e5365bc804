import Taskweave.Proofs.Run.Turn

/-!
# The protocol of a coordinator

A coordinator, its callers and its executors act in any order: tasks are submitted, runs begin, go
on and end, at rest or by a shutdown, and calls end whenever they do, also between runs. A
`Coordinator.Step` is one of these acts, and `Coordinator.act` performs it where it is possible;
what can be seen of it goes into a journal. The event that announces a task is a step of its own,
since it is sent when the task has been accepted already; so is the return of a run, which has to
wait for the orchestrator once more before it can tell where the tasks stand. `Coordinator.Balanced`
says what the journal and the coordinator have to do with each other between two steps: a task in
flight is either with its executor or in the channel, and nothing that was reported is lost.
-/

namespace Taskweave

open Occurrence Scheduler

variable {α : Type}

namespace Coordinator

/-- What may happen next. -/
inductive Step (α : Type) where
  | register (role : RoleName) (executor : α)
  | submit (now : Instant) (id : TaskId) (role : RoleName) (description : String)
      (dependencies : List TaskId)
  /-- A run is let know of a task that has been submitted. -/
  | announce (id : TaskId)
  /-- A run is started; its first turn starts what can start. -/
  | begin (now : Instant)
  /-- The run receives the oldest event. -/
  | receive (now : Instant)
  /-- The run has waited long enough for an event. -/
  | wake (now : Instant)
  /-- The run is to end, by its own deadline or because somebody asks for it. -/
  | shutdown
  /-- The run that takes no further turn returns. -/
  | conclude
  /-- The call for a task ends. -/
  | finish (id : TaskId) (ending : CallEnd)

/-- What is seen of a step. -/
inductive Entry (α : Type) where
  /-- An executor is called. -/
  | called (call : Dispatch α)
  /-- The call for a task has ended. -/
  | ended (id : TaskId) (ending : CallEnd)
  /-- An event was taken off the channel. -/
  | received (e : Event)
  /-- A run has returned. -/
  | runOver (summary : RunSummary)

/-- What is seen of a turn: the calls that were added. -/
def seen (c turn : Coordinator α) : List (Entry α) :=
  (turn.calls.drop c.calls.length).map .called

/-- Performs a step. One that is refused, or that is not possible at this time, changes nothing: a
second run beside one that has not returned, a turn or a shutdown where no run goes on, a turn with
an event where there is none, a return where no run is about to, the end of a call that is not open,
the announcement of a task that is not there. -/
def act (c : Coordinator α) : Step α → List (Entry α) × Coordinator α
  | .register role executor =>
    match c.register role executor with
    | .ok c' => ([], c')
    | .error _ => ([], c)
  | .submit now id role description dependencies =>
    match c.accept now id role description dependencies with
    | .ok (_, c') => ([], c')
    | .error _ => ([], c)
  | .announce id => if c.core.scheduler.has id then ([], c.announce id) else ([], c)
  | .begin now =>
    match c.begin now with
    | .ok turn => (c.seen turn, turn)
    | .error _ => ([], c)
  | .receive now =>
    match c.phase, c.events with
    | .going, e :: _ => (.received e :: c.seen (c.receive now), c.receive now)
    | _, _ => ([], c)
  | .wake now => if c.phase = .going then (c.seen (c.wake now), c.wake now) else ([], c)
  | .shutdown => if c.phase = .going then ([], c.interrupt) else ([], c)
  | .conclude => (c.conclude.1.toList.map .runOver, c.conclude.2)
  | .finish id ending =>
    if id ∈ c.calls.map (·.assignment.id) then ([.ended id ending], c.finish id ending)
    else ([], c)

/-- The coordinator after a sequence of steps. -/
def after (c : Coordinator α) (steps : List (Step α)) : Coordinator α :=
  steps.foldl (fun c step => (c.act step).2) c

/-- What is seen of a sequence of steps. -/
def journal (c : Coordinator α) : List (Step α) → List (Entry α)
  | [] => []
  | step :: steps => (c.act step).1 ++ (c.act step).2.journal steps

/-! ## Books -/

/-- The calls of executors, in order. -/
def called (journal : List (Entry α)) : List (Dispatch α) :=
  journal.filterMap fun
    | .called call => some call
    | _ => none

/-- The calls that have ended, in order. -/
def ended (journal : List (Entry α)) : List (TaskId × CallEnd) :=
  journal.filterMap fun
    | .ended id ending => some (id, ending)
    | _ => none

/-- The outcomes among events, in order. -/
def outcomes (events : List Event) : List (TaskId × Outcome) :=
  events.filterMap fun
    | .completed id outcome => some (id, outcome)
    | .submitted _ => none

/-- The events that were received, in order. -/
def received (journal : List (Entry α)) : List Event :=
  journal.filterMap fun
    | .received e => some e
    | _ => none

/-- What is reported of calls that have ended. -/
def reports (calls : List (TaskId × CallEnd)) : List (TaskId × Outcome) :=
  calls.map fun (id, ending) => (id, .ofResult ending.result)

/-- What is reported of a call: its value, or the text of its error; a call that panicked or was
stopped counts as one with the error that says so. -/
inductive Reported : CallEnd → Outcome → Prop where
  | value (v : Json) : Reported (.returned (.ok v)) (.success v)
  | error (e : ExecutorError) : Reported (.returned (.error e)) (.failure e.message)
  | panicked (message : Option String) : Reported (.panicked message)
      (.failure (ExecutorError.panicked (message.getD CallEnd.noMessage)).message)
  | stopped (reason : String) : Reported (.stopped reason)
      (.failure (ExecutorError.panicked reason).message)

/-- No completion is lost or counted twice. -/
structure Balanced (options : RunOptions) (journal : List (Entry α)) (c : Coordinator α) :
    Prop where
  inFlight_nodup : c.core.scheduler.inFlight.Nodup
  /-- A task in flight is with its executor, or has one outcome in the channel, and no other task is
  with an executor or has an outcome in the channel. -/
  inFlight : c.core.scheduler.inFlight.Perm
    (c.calls.map (·.assignment.id) ++ (outcomes c.events).map (·.1))
  /-- No task has its executor called twice, over all runs. -/
  called_nodup : ((called journal).map (·.assignment.id)).Nodup
  /-- The open calls are those that were made and have not ended. -/
  called : ((called journal).map (·.assignment.id)).Perm
    (c.calls.map (·.assignment.id) ++ (ended journal).map (·.1))
  /-- What is reported of the calls has been received in that order, or waits in the channel. -/
  reported : reports (ended journal) = outcomes (received journal) ++ outcomes c.events
  /-- An outcome in the channel is that of its call. -/
  carried : ∀ id outcome, .completed id outcome ∈ c.events →
    ∃ ending, .ended id ending ∈ journal ∧ Reported ending outcome
  limit : ∀ m, options.maxConcurrency = some m → c.calls.length ≤ m
  /-- A run that is over without an interruption leaves no open call, no outcome in the channel and
  no task in flight. -/
  rest : ∀ step summary, .runOver summary ∈ (c.act step).1 → summary.interrupted = false →
    (c.act step).2.calls = [] ∧ outcomes (c.act step).2.events = [] ∧
      (c.act step).2.core.scheduler.inFlight = [] ∧ summary.inProgress = []

/-! ## Reading a journal -/

section
variable {J J' : List (Entry α)} {calls : List (Dispatch α)} {summary : RunSummary}
  {events events' : List Event}

@[simp] theorem called_append : called (J ++ J') = called J ++ called J' := List.filterMap_append
@[simp] theorem ended_append : ended (J ++ J') = ended J ++ ended J' := List.filterMap_append
@[simp] theorem received_append : received (J ++ J') = received J ++ received J' :=
  List.filterMap_append
@[simp] theorem outcomes_append :
    outcomes (events ++ events') = outcomes events ++ outcomes events' := List.filterMap_append
@[simp] theorem reports_append {cs cs' : List (TaskId × CallEnd)} :
    reports (cs ++ cs') = reports cs ++ reports cs' := List.map_append

/-- The calls seen in a turn. -/
@[simp] theorem called_turn : called (calls.map .called) = calls := by
  induction calls with
  | nil => rfl
  | cons call calls ih => exact congrArg (call :: ·) ih

/-- No call ends in a turn. -/
@[simp] theorem ended_turn : ended (calls.map .called) = [] := by
  simp [ended]

/-- The event of a turn is not among what the turn starts. -/
@[simp] theorem received_turn : received (calls.map .called) = [] := by
  simp [received]

@[simp] theorem called_runOver : called [(.runOver summary : Entry α)] = [] := rfl
@[simp] theorem ended_runOver : ended [(.runOver summary : Entry α)] = [] := rfl
@[simp] theorem received_runOver : received [(.runOver summary : Entry α)] = [] := rfl

/-- Every call is reported as it ended. -/
theorem reported_ofResult (ending : CallEnd) : Reported ending (.ofResult ending.result) := by
  cases ending with
  | returned result =>
    cases result with
    | ok v => exact .value v
    | error e => exact .error e
  | panicked message => exact .panicked message
  | stopped reason => exact .stopped reason

end

end Coordinator

end Taskweave
