import Taskweave.Execution.Registry
import Taskweave.Run.Options
import Taskweave.Schedule.Scheduler

/-!
# Dispatching

`Scheduler.collect` starts as many ready tasks as there are free slots and pairs each with its
executor. A task whose role has no executor fails at once and gives its slot back, so the slots are
counted again until nothing more can start; every round shortens the queue, which bounds the rounds
(`size_queue_dispatch`, `queue_assign`). `Scheduler.advance` adds whether the run goes on, and
`Scheduler.settle` first records a completion.
-/

namespace Taskweave

variable {α : Type}

/-- A task and the executor that runs it. -/
structure Dispatch (α : Type) where
  assignment : Assignment
  executor : α

/-- What a run has to do. -/
inductive Command (α : Type) where
  /-- Start these tasks on their executors. -/
  | dispatch (tasks : List (Dispatch α))
  /-- Nothing is queued or in flight: the run is over. -/
  | exit

/-- What a run has to do after an event, and whether it goes on. -/
structure Reaction (α : Type) where
  commands : List (Command α)
  keepRunning : Bool

namespace Scheduler

/-- Pairs started tasks with their executors and fails those that have none. -/
def assign (registry : Registry α) (now : Instant) (s : Scheduler) :
    List Assignment → List (Dispatch α) × Scheduler
  | [] => ([], s)
  | a :: rest =>
    match registry.find? a.role with
    | some executor =>
      let (ds, s) := assign registry now s rest
      (⟨a, executor⟩ :: ds, s)
    | none =>
      assign registry now
        (s.complete now a.id (.failure (ExecutorError.unbound a.role).message)).2 rest

section
variable {s : Scheduler} {now : Instant} {id : TaskId}

/-- Starting tasks does not touch the queue. -/
@[simp] theorem queue_startTask : (s.startTask now id).2.queue = s.queue := by
  unfold startTask
  split
  · rfl
  · split <;> rfl

/-- Starting tasks does not touch the queue. -/
@[simp] theorem queue_startAll : ∀ (ids : List TaskId) (s : Scheduler),
    (s.startAll now ids).2.queue = s.queue
  | [], _ => rfl
  | id :: ids, s => by
    have := queue_startAll ids (s.startTask now id).2
    simpa [startAll] using this

/-- Dispatching nothing out of nothing. -/
theorem startAll_nil_of_queue {limit : Option Nat} (h : s.queue.order = []) :
    (s.dispatch now limit).1 = [] := by
  simp [dispatch, h, startAll]

/-- A round that starts a task shortens the queue. -/
theorem size_queue_dispatch {limit : Option Nat} (hl : limit ≠ some 0)
    (h : (s.dispatch now limit).1 ≠ []) :
    (s.dispatch now limit).2.queue.size < s.queue.size := by
  have hq : s.queue.order ≠ [] := fun hq => h (startAll_nil_of_queue hq)
  have hpos : 0 < s.queue.order.length := List.length_pos_iff.mpr hq
  have hn : limit.getD s.queue.size ≠ 0 := by
    cases limit with
    | none => exact Nat.ne_of_gt hpos
    | some n => exact fun h0 => hl (congrArg some h0)
  simp only [dispatch, queue_startAll, ReadyQueue.size, ReadyQueue.order_drain, List.length_drop,
    ReadyQueue.available] at hn ⊢
  omega

/-- A failure leaves the queue as it is. -/
theorem queue_complete_failure {error : String} :
    (s.complete now id (.failure error)).2.queue = s.queue := by
  unfold complete
  split
  · rfl
  · dsimp only
    split
    · rfl
    · split <;> rfl

/-- Pairing tasks with executors leaves the queue as it is. -/
theorem queue_assign {registry : Registry α} : ∀ {as : List Assignment} {s : Scheduler},
    (assign registry now s as).2.queue = s.queue
  | [], _ => rfl
  | a :: as, s => by
    unfold assign
    split
    · exact queue_assign
    · rw [queue_assign, queue_complete_failure]

end

/-- Starts ready tasks while there are free slots, each with its executor. -/
def collect (s : Scheduler) (registry : Registry α) (options : RunOptions) (now : Instant) :
    List (Dispatch α) × Scheduler :=
  if _hl : options.slots s.inFlight.length = some 0 then ([], s)
  else
    let started := s.dispatch now (options.slots s.inFlight.length)
    if _h : started.1 = [] then ([], started.2)
    else
      let assigned := assign registry now started.2 started.1
      let (more, s) := collect assigned.2 registry options now
      (assigned.1 ++ more, s)
termination_by s.queue.size
decreasing_by
  simp only [queue_assign]
  exact size_queue_dispatch _hl _h

/-- Starts what can start and says whether the run goes on. -/
def advance (s : Scheduler) (registry : Registry α) (options : RunOptions) (now : Instant) :
    Reaction α × Scheduler :=
  let (dispatches, s) := s.collect registry options now
  let start := if dispatches.isEmpty then [] else [Command.dispatch dispatches]
  let stop := if s.isQuiescent then [Command.exit] else []
  (⟨start ++ stop, !s.isQuiescent⟩, s)

/-- Records a completion, then goes on as `advance` does. -/
def settle (s : Scheduler) (registry : Registry α) (options : RunOptions) (now : Instant)
    (id : TaskId) (outcome : Outcome) : Reaction α × Scheduler :=
  (s.complete now id outcome).2.advance registry options now

end Scheduler

end Taskweave
