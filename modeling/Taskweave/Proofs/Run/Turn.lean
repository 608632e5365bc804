import Taskweave.Proofs.Run.Saturation
import Taskweave.Proofs.Schedule.History

/-!
# What a turn of a run starts

A turn starts what can start. `Scheduler.Collected` says what comes of it for the books of a run, as
long as every task has a role that is bound: the calls of the turn are the tasks that the scheduler
puts in flight and on its record, in one order, and they fit into the slots. `Coordinator.wake_eq`
puts that into a coordinator; a turn that receives an event is one that takes the event off the
channel and then starts what can start (`Coordinator.receive_eq`). A run returns once it takes no
further turn (`Coordinator.conclude_of_leaving`), and nothing but its phase changes by that.
-/

namespace Taskweave

open Occurrence

variable {α : Type}

namespace Scheduler

/-- What comes of starting what can start in `s`, whose history is `history`: the calls `calls` and
the scheduler `s'`. -/
structure Collected (history : List Occurrence) (options : RunOptions) (s : Scheduler)
    (calls : List (Dispatch α)) (s' : Scheduler) : Prop where
  recorded : Recorded (history ++ (calls.map (·.assignment)).map .handedOut) s'
  inFlight_eq : s'.inFlight = s.inFlight ++ calls.map (·.assignment.id)
  outline_eq : outline s'.tasks = outline s.tasks
  capacity : ∀ m, options.maxConcurrency = some m → s.inFlight.length ≤ m → s'.inFlight.length ≤ m

section
variable {history : List Occurrence} {options : RunOptions} {s : Scheduler}
  {registry : Registry α} {now : Instant}

/-- Starting what can start does what `Collected` says. -/
theorem collected_collect (h : Recorded history s) (hb : s.Bound registry) :
    Collected history options s (s.collect registry options now).1
      (s.collect registry options now).2 := by
  have hc := h.coherent
  obtain ⟨calls, hcollect, hcalls, -⟩ := hc.collect_eq hb options now
  rw [hcollect]
  refine ⟨?_, ?_, hc.outline_dispatch, fun _ hm hfl => hc.capacity_dispatch hm hfl⟩
  · rw [hcalls]
    exact h.dispatch now _
  · have hids := congrArg (List.map (·.id)) hcalls
    rw [List.map_map, hc.map_id_dispatch] at hids
    rw [hc.inFlight_dispatch, ← hids]
    rfl

end

end Scheduler

namespace Coordinator

section
variable {c : Coordinator α} {now : Instant} {e : Event} {rest : List Event}

/-- What can be started in a coordinator: the calls, and the scheduler afterwards. -/
def startable (c : Coordinator α) (now : Instant) : List (Dispatch α) × Scheduler :=
  c.core.scheduler.collect c.core.registry c.core.options now

/-- The coordinator with another scheduler. -/
def withScheduler (c : Coordinator α) (s : Scheduler) : Coordinator α :=
  { c with core := { c.core with scheduler := s } }

/-- The coordinator once an event is taken off the channel, before anything is started. -/
def taken (c : Coordinator α) (now : Instant) (e : Event) (rest : List Event) : Coordinator α :=
  match e with
  | .submitted _ => { c with events := rest }
  | .completed id outcome =>
    { c.withScheduler (c.core.scheduler.complete now id outcome).2 with events := rest }

/-- A reaction has the run go on unless it leaves the scheduler at rest. -/
theorem keepRunning_advance :
    (c.core.scheduler.advance c.core.registry c.core.options now).1.keepRunning =
      !(c.startable now).2.isQuiescent := rfl

/-- A turn starts what can start, and is the last one if it leaves the scheduler at rest. -/
theorem wake_eq : c.wake now =
    { c.withScheduler (c.startable now).2 with
      calls := c.calls ++ (c.startable now).1
      phase := if (c.startable now).2.isQuiescent then .leaving false else .going } := by
  have hturn : c.wake now = carryOut (c.withScheduler (c.startable now).2)
      (c.core.scheduler.advance c.core.registry c.core.options now).1 := rfl
  rw [hturn, carryOut, flatMap_started_advance, keepRunning_advance]
  cases hq : (c.startable now).2.isQuiescent with
  | true => rfl
  | false => rfl

/-- A turn is the last one if it leaves the scheduler at rest. -/
theorem phase_wake : (c.wake now).phase =
    if (c.wake now).core.scheduler.isQuiescent then .leaving false else .going := by
  rw [wake_eq]
  rfl

/-- The last turn of a run leaves the scheduler at rest. -/
theorem isQuiescent_of_leaving (h : (c.wake now).phase = .leaving false) :
    (c.wake now).core.scheduler.isQuiescent = true := by
  rw [phase_wake] at h
  split at h
  · next hq => exact hq
  · cases h

/-- A turn that receives an event takes it off the channel and starts what can start then. -/
theorem receive_eq (h : c.events = e :: rest) : c.receive now = (c.taken now e rest).wake now := by
  rw [receive, h]
  cases e with
  | submitted id => rfl
  | completed id outcome => rfl

/-- A run that takes no further turn returns. -/
theorem conclude_of_leaving {interrupted : Bool} (h : c.phase = .leaving interrupted) :
    c.conclude = (some (c.core.summary interrupted), { c with phase := .idle }) := by
  rw [conclude, h]

/-- A run that goes on does not return. -/
theorem conclude_of_going (h : c.phase = .going) : c.conclude = (none, c) := by
  rw [conclude, h]

@[simp] theorem core_conclude : c.conclude.2.core = c.core := by
  rw [conclude]
  split <;> rfl

@[simp] theorem calls_conclude : c.conclude.2.calls = c.calls := by
  rw [conclude]
  split <;> rfl

@[simp] theorem events_conclude : c.conclude.2.events = c.events := by
  rw [conclude]
  split <;> rfl

end

end Coordinator

end Taskweave
