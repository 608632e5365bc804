import Taskweave.Proofs.Schedule.History

/-!
# The views of a scheduler agree

`Scheduler.Consistent` is `Scheduler.Coherent` as a caller sees it: what the queue, the tasks in
flight and the dependencies that are left say about a task is what its status says, and the
dependencies that are left are measured by what was listed when the task was submitted, which the
history of the run knows. `Scheduler.performAll_consistent` is the statement for every run.
-/

namespace Taskweave

open Scheduler

namespace Scheduler

/-- The views of a scheduler agree with each other, and with the submissions of its history. -/
structure Consistent (s : Scheduler) (history : List Occurrence) : Prop where
  queued_nodup : s.queued.Nodup
  contains_iff : ∀ id, s.queue.contains id = true ↔ id ∈ s.queued
  mem_queued : ∀ id, id ∈ s.queued ↔ s.status? id = some .pending
  inFlight_nodup : s.inFlight.Nodup
  mem_inFlight : ∀ id, id ∈ s.inFlight ↔ s.status? id = some .inProgress
  /-- The tasks are those that were submitted. -/
  has_iff : ∀ id, s.has id = true ↔ ∃ listed t, .submitted listed t ∈ history ∧ t.id = id
  /-- A task waits for those of the dependencies it listed that have not completed, whether they
  were submitted or not. -/
  remaining : ∀ listed t, .submitted listed t ∈ history → ∃ waiting,
    s.remaining? t.id = some waiting ∧ waiting.Nodup ∧
      ∀ d, d ∈ waiting ↔ d ∈ listed ∧ s.status? d ≠ some .completed
  blocked : ∀ id, s.status? id = some .blocked →
    ∃ waiting, s.remaining? id = some waiting ∧ waiting ≠ []
  satisfied : ∀ id, (s.status? id = some .pending ∨ s.status? id = some .inProgress ∨
    s.status? id = some .completed) → s.remaining? id = some []
  quiescent : s.isQuiescent = true ↔
    ∀ id, s.status? id ≠ some .pending ∧ s.status? id ≠ some .inProgress

section
variable {s : Scheduler} {id : TaskId} {p : Task.Profile}

/-- What is left of the dependencies of a task, in terms of its record. -/
theorem Coherent.remaining?_eq (h : s.Coherent) (hp : s.profile? id = some p) :
    s.remaining? id = some (sortedStrings (p.dependencies.filter fun d => !s.isCompleted d)) := by
  rw [remaining?, h.remaining, hp]
  rfl

/-- A task that waits has nothing left to wait for, unless it is blocked. -/
theorem Coherent.remaining?_eq_nil {status : Status} (h : s.Coherent)
    (hs : s.status? id = some status) (hb : status ≠ .blocked) (hf : status ≠ .failed) :
    s.remaining? id = some [] := by
  obtain ⟨p, hp⟩ := exists_profile? hs
  have hnil : (p.dependencies.filter fun d => !s.isCompleted d) = [] :=
    List.filter_eq_nil_iff.2 fun d hd => by simp [h.satisfied hp hs hb hf d hd]
  rw [h.remaining?_eq hp, hnil, sortedStrings, List.mergeSort_nil]

end

end Scheduler

section
variable {s : Scheduler} {history : List Occurrence}

/-- The parts of a scheduler agree, hence its views. -/
theorem Recorded.consistent (h : Recorded history s) : s.Consistent history := by
  have hc := h.coherent
  refine ⟨hc.queue_sound.nodup, fun id => hc.queue_sound.contains_iff, hc.mem_queued,
    hc.inFlight_nodup, hc.mem_inFlight, fun id => h.has_iff, fun listed t ht => ?_,
    fun id hid => ?_, fun id hid => ?_, hc.isQuiescent_iff⟩
  · obtain ⟨hp, hdeps⟩ := h.submitted listed t ht
    refine ⟨_, hc.remaining?_eq hp, nodup_sortedStrings ?_, fun d => ?_⟩
    · exact (hc.deps_nodup _ (id_of_profile? hp).1).filter _
    · rw [mem_sortedStrings, List.mem_filter, Task.profile_dependencies, hdeps,
        List.mem_eraseDups, Bool.not_eq_true', Ne, ← isCompleted_iff, Bool.not_eq_true]
  · obtain ⟨p, hp⟩ := exists_profile? hid
    obtain ⟨d, hd, hopen⟩ := hc.blocked hp hid
    refine ⟨_, hc.remaining?_eq hp, List.ne_nil_of_mem (a := d) ?_⟩
    rw [mem_sortedStrings, List.mem_filter]
    exact ⟨hd, by rw [hopen]; rfl⟩
  · rcases hid with hid | hid | hid
    · exact hc.remaining?_eq_nil hid (by decide) (by decide)
    · exact hc.remaining?_eq_nil hid (by decide) (by decide)
    · exact hc.remaining?_eq_nil hid (by decide) (by decide)

end

/-- Whatever is asked of a scheduler without tasks, its views agree afterwards. -/
theorem performAll_consistent (policy : FailurePolicy) (ops : List Operation) :
    ((Scheduler.new policy).performAll ops).Consistent ((Scheduler.new policy).history ops) :=
  (recorded_history policy ops).consistent

end Taskweave
