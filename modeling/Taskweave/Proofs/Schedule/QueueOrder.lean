import Taskweave.Proofs.Schedule.History

/-!
# Tasks are handed out in the order in which they became ready

A task joins the queue when it is submitted with nothing to wait for, or when a completion reports
it as ready. `Scheduler.enqueued` is what joins the queue in one operation, read off the answer to
the caller, and `Scheduler.enqueues` what joins it in a run. What was in the queue and what joined
it has been handed out, or is in the queue still, all in one order: `Scheduler.Coherent.line_perform`
is that for one operation, and `Scheduler.Coherent.line_performAll` the induction over a run. A
dispatch starts every task that it takes off the queue (`Scheduler.Coherent.drainsWhole`): nothing
that was queued is failed, started or queued again behind the queue's back, which is what
`Scheduler.Coherent` rules out.
-/

namespace Taskweave

open Occurrence

namespace Scheduler

/-- The tasks that join the queue in an operation, as its caller sees it: a task that is answered as
pending, and those that a completion reports as ready, in the order of the report. -/
def enqueued (s : Scheduler) : Operation → List TaskId
  | .submit now id role description dependencies =>
    match s.submit now id role description dependencies with
    | .ok (t, _) => if t.status = .pending then [t.id] else []
    | .error _ => []
  | .dispatch _ _ => []
  | .complete now id outcome => (s.complete now id outcome).1.newlyReady

/-- The tasks that join the queue in a run, in the order in which they do. -/
def enqueues (s : Scheduler) : List Operation → List TaskId
  | [] => []
  | op :: ops => s.enqueued op ++ (s.perform op).enqueues ops

/-- A dispatch hands out every task that it takes off the queue. -/
structure DrainsWhole (s : Scheduler) (now : Instant) (limit : Option Nat) : Prop where
  map_id_eq : (s.dispatch now limit).1.map (·.id) = (s.queue.drain limit).1
  length_eq : (s.dispatch now limit).1.length =
    limit.elim s.queued.length fun n => min n s.queued.length
  /-- When its turn comes, a task that was taken off the queue is started. -/
  starts : ∀ earlier id later, (s.queue.drain limit).1 = earlier ++ id :: later →
    ((({ s with queue := (s.queue.drain limit).2 }).startAll now earlier).2.startTask now id).1
      ≠ none

section
variable {s s' : Scheduler} {now : Instant} {limit : Option Nat} {id : TaskId} {role : RoleName}
  {description : String} {deps : List TaskId} {outcome : Outcome} {t : Task}

/-! ## What joins the queue -/

/-- An accepted task joins the queue if it is answered as pending, and nothing else does. -/
theorem Enters.queued_eq (he : s.Enters now id role description deps t s') (h : s.Coherent) :
    s'.queued = s.queued ++ if t.status = .pending then [t.id] else [] := by
  cases he with
  | fresh hnew =>
    have hid : id ∉ s.queue.order := fun hmem => by
      have hst := (h.mem_queued id).1 hmem
      rw [status?_of_not_has hnew] at hst
      cases hst
    rw [queued, entered]
    dsimp only
    split
    · exact congrArg ReadyQueue.order (h.queue_sound.push_eq hid)
    · exact (List.append_nil _).symm
  | doomed _ _ hc =>
    rw [queued, hc.frame]
    exact (List.append_nil s.queued).symm

/-- The tasks that a completion reports as ready join the queue in the order of the report, and
nothing else does. -/
theorem Coherent.queued_complete (h : s.Coherent) :
    (s.complete now id outcome).2.queued =
      s.queued ++ (s.complete now id outcome).1.newlyReady := by
  by_cases hfl : id ∈ s.inFlight
  · have hrun := (h.mem_inFlight id).1 hfl
    cases outcome with
    | success result =>
      rw [complete_success hfl hrun h.nodup_dependentsOf]
      have hnew : ∀ x ∈ s.released id, x ∉ s.queue.order := fun x hx hmem => by
        have hst := (h.mem_queued x).1 hmem
        rw [(h.mem_released.1 hx).1] at hst
        cases hst
      exact (h.queue_sound.pushAll h.nodup_released hnew).2
    | failure error =>
      cases hp : s.policy with
      | block =>
        rw [complete_failure_block hfl (has_of_status? hrun) hp]
        exact (List.append_nil _).symm
      | cascade =>
        rw [complete_failure_cascade hfl (has_of_status? hrun) hp]
        exact (List.append_nil _).symm
  · rw [complete_of_not_mem hfl]
    exact (List.append_nil _).symm

/-- In one operation, what was queued and what joins the queue is handed out or queued, in one
order. -/
theorem Coherent.line_perform (h : s.Coherent) (op : Operation) :
    s.queued ++ s.enqueued op =
      (assignments (s.occurrences op)).map (·.id) ++ (s.perform op).queued := by
  cases op with
  | submit now id role description deps =>
    cases hs : s.submit now id role description deps with
    | ok r =>
      simp only [enqueued, occurrences, Scheduler.perform, hs]
      exact ((enters_of_submit hs).queued_eq h).symm
    | error e =>
      simp only [enqueued, occurrences, Scheduler.perform, hs]
      exact List.append_nil _
  | dispatch now limit =>
    rw [enqueued, List.append_nil, occurrences, assignments_map_handedOut, h.map_id_dispatch,
      Scheduler.perform, h.dispatch_snd]
    exact taken_append.symm
  | complete now id outcome =>
    have hnone : assignments (s.occurrences (.complete now id outcome)) = [] := by
      rw [occurrences]
      split <;> rfl
    rw [hnone]
    exact h.queued_complete.symm

/-- In a run, what was queued and what joins the queue is handed out or queued in the end, in one
order. -/
theorem Coherent.line_performAll (h : s.Coherent) (ops : List Operation) :
    s.queued ++ s.enqueues ops =
      (assignments (s.history ops)).map (·.id) ++ (s.performAll ops).queued := by
  induction ops generalizing s with
  | nil => exact List.append_nil _
  | cons op ops ih =>
    calc s.queued ++ (s.enqueued op ++ (s.perform op).enqueues ops)
        = (s.queued ++ s.enqueued op) ++ (s.perform op).enqueues ops :=
          (List.append_assoc _ _ _).symm
      _ = (assignments (s.occurrences op)).map (·.id) ++
            ((s.perform op).queued ++ (s.perform op).enqueues ops) := by
          rw [h.line_perform op, List.append_assoc]
      _ = (assignments (s.occurrences op)).map (·.id) ++
            ((assignments ((s.perform op).history ops)).map (·.id) ++
              ((s.perform op).performAll ops).queued) := by
          rw [ih (h.perform op)]
      _ = (assignments (s.history (op :: ops))).map (·.id) ++
            (s.performAll (op :: ops)).queued := by
          rw [Scheduler.history, assignments_append, List.map_append, List.append_assoc]
          rfl

/-! ## What is taken off the queue -/

/-- A task on its way from the queue is started once those before it are. -/
theorem Startable.startTask_ne_none {earlier later : List TaskId}
    (h : s.Startable (earlier ++ id :: later)) :
    ((s.startAll now earlier).2.startTask now id).1 ≠ none := by
  obtain ⟨hnd, hall⟩ := h
  obtain ⟨hearlier, -, hapart⟩ := List.nodup_append.1 hnd
  have hid : id ∉ earlier := fun hmem => hapart id hmem id List.mem_cons_self rfl
  obtain ⟨hst, hfl⟩ := hall id (List.mem_append_right _ List.mem_cons_self)
  have hbefore : s.Startable earlier :=
    ⟨hearlier, fun x hx => hall x (List.mem_append_left _ hx)⟩
  have hst' : (s.started now earlier).status? id = some .pending := by
    rw [status?_started hbefore, if_neg hid, hst]
  have hfl' : id ∉ (s.started now earlier).inFlight := fun hmem =>
    (List.mem_append.1 hmem).elim hfl hid
  rw [startAll_eq hbefore]
  dsimp only
  rw [startTask_eq hst' hfl']
  obtain ⟨t, ht, -⟩ := exists_task?_of_status? hst'
  rw [assignment?, ht]
  exact Option.some_ne_none _

/-- A scheduler whose parts agree hands out every task that it takes off the queue. -/
theorem Coherent.drainsWhole (h : s.Coherent) (now : Instant) (limit : Option Nat) :
    s.DrainsWhole now limit := by
  have hdrain : (s.queue.drain limit).1 = s.taken limit := ReadyQueue.drain_fst s.queue limit
  refine ⟨?_, ?_, fun earlier id later heq => ?_⟩
  · rw [h.map_id_dispatch, hdrain]
  · rw [← List.length_map (·.id), h.map_id_dispatch, length_taken, ReadyQueue.available]
    cases limit with
    | none => exact Nat.min_self _
    | some n => rfl
  · have hstart : (s.unqueued limit).Startable (s.taken limit) := h.startable
    rw [← hdrain, heq] at hstart
    exact hstart.startTask_ne_none

end

end Scheduler

/-- Whatever is asked of a scheduler without tasks, the tasks that joined its queue are those that
were handed out and then those that are queued, in the order in which they joined; and one more
dispatch hands out all that it takes off the queue, as many as its limit lets it. -/
theorem performAll_firstInFirstOut (policy : FailurePolicy) (ops : List Operation) :
    (Scheduler.new policy).enqueues ops =
        (assignments ((Scheduler.new policy).history ops)).map (·.id) ++
          ((Scheduler.new policy).performAll ops).queued ∧
      ∀ now limit, ((Scheduler.new policy).performAll ops).DrainsWhole now limit :=
  have h := Scheduler.Coherent.new policy
  ⟨h.line_performAll ops, fun now limit => (h.performAll ops).drainsWhole now limit⟩

end Taskweave
