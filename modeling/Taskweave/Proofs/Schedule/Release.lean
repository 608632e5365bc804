import Taskweave.Proofs.Schedule.Consistency
import Taskweave.Proofs.Schedule.Downstream
import Taskweave.Proofs.Schedule.QueueOrder

/-!
# Which tasks a success releases

A success walks the dependents of one task in the index and looks at what is left for each. Said
without the index, it releases the blocked tasks for which it was the only dependency that had not
completed (`Scheduler.AwaitsOnly`), in the order in which they were submitted, and it takes the task
out of what every task waits for. The order is that of the records, and the records stand in the
order of the submissions of the run (`Scheduler.Coherent.map_id_performAll`).
`performAll_successReleases` says what an outcome does in every run, whether it is accepted or
ignored.
-/

namespace Taskweave

open Occurrence Scheduler

/-- Sorting and selecting may be done in either order. -/
theorem sortedStrings_filter {xs : List String} (h : xs.Nodup) (p : String → Bool) :
    sortedStrings (xs.filter p) = (sortedStrings xs).filter p := by
  refine eq_of_ascending (ascending_sortedStrings (h.filter p)) ?_ fun x => ?_
  · exact (ascending_sortedStrings h).filter p
  · rw [mem_sortedStrings, List.mem_filter, List.mem_filter, mem_sortedStrings]

namespace Occurrence

/-- The tasks that were submitted, in order. -/
def entries (history : List Occurrence) : List TaskId :=
  history.filterMap fun
    | .submitted _ t => some t.id
    | _ => none

section
variable {history later : List Occurrence}

@[simp] theorem entries_append : entries (history ++ later) = entries history ++ entries later :=
  List.filterMap_append

/-- Handing out tasks submits none. -/
@[simp] theorem entries_map_handedOut (as : List Assignment) :
    entries (as.map .handedOut) = [] := by
  induction as with
  | nil => rfl
  | cons a as ih => exact ih

end

end Occurrence

namespace Scheduler

/-- The task `x` is blocked, and of its dependencies `id` alone has not completed. -/
def AwaitsOnly (s : Scheduler) (id x : TaskId) : Prop :=
  s.status? x = some .blocked ∧
    ∀ d, s.DependsOn x d ∧ s.status? d ≠ some .completed ↔ d = id

/-- What `answer` does when the task `id` in flight in `s` ends with the success `result`. -/
structure SuccessReleases (s : Scheduler) (history : List Occurrence) (now : Instant) (id : TaskId)
    (result : Json) (answer : Progress × Scheduler) : Prop where
  completed : ∃ t, s.task? id = some t ∧ answer.2.task? id = some (t.complete now result)
  newlyFailed_eq : answer.1.newlyFailed = []
  nodup : answer.1.newlyReady.Nodup
  /-- The tasks are listed in the order in which they were submitted. -/
  sublist : answer.1.newlyReady.Sublist (entries history)
  mem_iff : ∀ x, x ∈ answer.1.newlyReady ↔ s.AwaitsOnly id x
  /-- They are the tasks that become pending. -/
  pending_iff : ∀ x, x ∈ answer.1.newlyReady ↔
    s.status? x ≠ some .pending ∧ answer.2.status? x = some .pending
  ready : ∀ x ∈ answer.1.newlyReady, ∃ t, s.task? x = some t ∧
    answer.2.task? x = some (t.withStatus .pending)
  queued_eq : answer.2.queued = s.queued ++ answer.1.newlyReady
  /-- Every task waits for what it waited for, less `id`. -/
  remaining : ∀ x, answer.2.remaining? x =
    (s.remaining? x).map fun waiting => waiting.filter (· != id)
  dependents : ∀ d, answer.2.index.dependentsOf d = s.index.dependentsOf d
  kept : ∀ x, x ≠ id → x ∉ answer.1.newlyReady → answer.2.task? x = s.task? x
  outline_eq : outline answer.2.tasks = outline s.tasks
  inFlight_eq : answer.2.inFlight = s.inFlight.filter (· != id)
  policy_eq : answer.2.policy = s.policy

section
variable {s : Scheduler} {now : Instant} {id x : TaskId} {result : Json} {outcome : Outcome}

/-! ## The order of submission -/

/-- An operation adds the tasks that it submits at the end of the records. -/
theorem Coherent.map_id_perform (h : s.Coherent) (op : Operation) :
    (s.perform op).tasks.map (·.id) = s.tasks.map (·.id) ++ entries (s.occurrences op) := by
  have hsame : ∀ {s' : Scheduler}, outline s'.tasks = outline s.tasks →
      s'.tasks.map (·.id) = s.tasks.map (·.id) ++ [] := fun {s'} hout => by
    rw [← map_id_outline, hout, map_id_outline, List.append_nil]
  cases op with
  | submit now id role description deps =>
    cases hs : s.submit now id role description deps with
    | ok r =>
      simp only [Scheduler.perform, occurrences, hs]
      rw [← map_id_outline, ((enters_of_submit hs).accepted h).outline_eq, List.map_append,
        map_id_outline]
      rfl
    | error e =>
      simp only [Scheduler.perform, occurrences, hs]
      exact hsame rfl
  | dispatch now limit =>
    rw [occurrences, entries_map_handedOut]
    exact hsame h.outline_dispatch
  | complete now id outcome =>
    have hnone : entries (s.occurrences (.complete now id outcome)) = [] := by
      rw [occurrences]
      split <;> rfl
    rw [hnone]
    exact hsame (h.ends now id outcome).outline_eq

/-- The records of a run stand in the order in which their tasks were submitted. -/
theorem Coherent.map_id_performAll (h : s.Coherent) (ops : List Operation) :
    (s.performAll ops).tasks.map (·.id) = s.tasks.map (·.id) ++ entries (s.history ops) := by
  induction ops generalizing s with
  | nil => exact (List.append_nil _).symm
  | cons op ops ih =>
    calc ((s.perform op).performAll ops).tasks.map (·.id)
        = (s.perform op).tasks.map (·.id) ++ entries ((s.perform op).history ops) :=
          ih (h.perform op)
      _ = s.tasks.map (·.id) ++ entries (s.history (op :: ops)) := by
          rw [h.map_id_perform op, Scheduler.history, entries_append, List.append_assoc]

/-! ## The tasks that are released -/

/-- A success releases the blocked tasks that await it alone. -/
theorem Coherent.mem_released_iff (h : s.Coherent) : x ∈ s.released id ↔ s.AwaitsOnly id x := by
  rw [h.mem_released, AwaitsOnly]
  refine and_congr_right fun hb => ?_
  obtain ⟨p, hp⟩ := exists_profile? hb
  have hopen : ∀ d, s.DependsOn x d ∧ s.status? d ≠ some .completed ↔
      d ∈ p.dependencies.filter fun d => !s.isCompleted d := fun d => by
    rw [dependsOn_iff, hp, List.mem_filter, Bool.not_eq_true', ← Bool.not_eq_true, isCompleted_iff]
    simp
  simp only [hopen, hp, Option.some.injEq, exists_eq_left']
  constructor
  · intro heq d
    rw [heq, List.mem_singleton]
  · intro hall
    refine eq_singleton_of_nodup ((h.deps_nodup p (id_of_profile? hp).1).filter _) ?_ fun d hd =>
      (hall d).1 hd
    exact List.ne_nil_of_mem ((hall id).2 rfl)

/-- The tasks that a success releases are among the records, in their order. -/
theorem Coherent.released_sublist (h : s.Coherent) :
    (s.released id).Sublist (s.tasks.map (·.id)) := by
  have hdependents : (s.index.dependentsOf id).Sublist (s.tasks.map (·.id)) := by
    rw [h.dependents, ← map_id_outline]
    exact List.filter_sublist.map _
  exact (List.filter_sublist.trans List.filter_sublist).trans hdependents

/-- The tasks that a success releases are those that become pending. -/
theorem Coherent.mem_released_iff_pending (h : s.Coherent) (hfl : id ∈ s.inFlight) :
    x ∈ s.released id ↔ s.status? x ≠ some .pending ∧
      (s.succeeded now id result).status? x = some .pending := by
  have hself := h.not_mem_released hfl
  rw [h.status?_succeeded hfl]
  by_cases hid : x = id
  · simp [hid, hself]
  · rw [if_neg hid]
    by_cases hx : x ∈ s.released id
    · simp [hx, (h.mem_released_iff.1 hx).1]
    · simp [hx]

/-- A success takes its task out of what every task waits for. -/
theorem Coherent.remaining?_succeeded (h : s.Coherent) (hfl : id ∈ s.inFlight) :
    (s.succeeded now id result).remaining? x =
      (s.remaining? x).map fun waiting => waiting.filter (· != id) := by
  have hprof : (s.succeeded now id result).profile? x = s.profile? x :=
    profile?_congr outline_succeeded x
  cases hp : s.profile? x with
  | none =>
    rw [remaining?, (h.succeeded hfl now result).remaining, hprof, remaining?, h.remaining, hp]
    rfl
  | some p =>
    have hnd : (p.dependencies.filter fun d => !s.isCompleted d).Nodup :=
      (h.deps_nodup p (id_of_profile? hp).1).filter _
    rw [(h.succeeded hfl now result).remaining?_eq (hprof.trans hp), h.remaining?_eq hp,
      Option.map_some, ← sortedStrings_filter hnd, List.filter_filter]
    simp only [h.isCompleted_succeeded hfl, Bool.not_or, bne, Bool.and_comm]

/-! ## Outcomes -/

/-- The progress that is reported says whether the scheduler is at rest. -/
theorem quiescent_complete :
    (s.complete now id outcome).1.quiescent = (s.complete now id outcome).2.isQuiescent := by
  unfold complete
  dsimp only
  split
  · rfl
  · split
    · rfl
    · cases outcome with
      | success result => rfl
      | failure error =>
        dsimp only
        split <;> rfl

/-- A success releases the blocked tasks that await it alone, and changes nothing else. -/
theorem Coherent.successReleases {history : List Occurrence} (h : s.Coherent)
    (hentries : s.tasks.map (·.id) = entries history) (hfl : id ∈ s.inFlight) (now : Instant)
    (result : Json) :
    SuccessReleases s history now id result (s.complete now id (.success result)) := by
  have hrun := (h.mem_inFlight id).1 hfl
  have hself := h.not_mem_released hfl
  have hblocked : ∀ x ∈ s.released id, s.status? x = some .blocked := fun x hx =>
    (h.mem_released_iff.1 hx).1
  have hne : ∀ x ∈ s.released id, x ≠ id := fun x hx he => hself (he ▸ hx)
  have hqueued : (s.complete now id (.success result)).2.queued =
      s.queued ++ (s.complete now id (.success result)).1.newlyReady := h.queued_complete
  rw [complete_success hfl hrun h.nodup_dependentsOf] at hqueued ⊢
  refine ⟨?_, rfl, h.nodup_released, hentries ▸ h.released_sublist, fun x => h.mem_released_iff,
    fun x => h.mem_released_iff_pending hfl, fun x hx => ?_, hqueued,
    fun x => h.remaining?_succeeded hfl, fun d => rfl, fun x hid hx => ?_, outline_succeeded, rfl,
    rfl⟩
  · obtain ⟨t, ht, -⟩ := exists_task?_of_status? hrun
    refine ⟨t, ht, ?_⟩
    rw [h.task?_succeeded, if_neg hself, if_pos rfl, ht]
    rfl
  · have hx : x ∈ s.released id := hx
    obtain ⟨t, ht, -⟩ := exists_task?_of_status? (hblocked x hx)
    refine ⟨t, ht, ?_⟩
    rw [h.task?_succeeded, if_pos hx, if_neg (hne x hx), ht]
    rfl
  · have hx : x ∉ s.released id := hx
    rw [h.task?_succeeded, if_neg hx, if_neg hid]

end

end Scheduler

/-- Whatever is asked of a scheduler without tasks: the success of a task in flight releases the
tasks that `SuccessReleases` names, an outcome for any other task, unknown, waiting or ended,
changes nothing and reports nothing, and every report says whether the scheduler is at rest. -/
theorem performAll_successReleases (policy : FailurePolicy) (ops : List Operation) :
    (∀ now id result, id ∈ ((Scheduler.new policy).performAll ops).inFlight →
      SuccessReleases ((Scheduler.new policy).performAll ops) ((Scheduler.new policy).history ops)
        now id result (((Scheduler.new policy).performAll ops).complete now id (.success result))) ∧
    (∀ now id outcome, id ∉ ((Scheduler.new policy).performAll ops).inFlight →
      ((Scheduler.new policy).performAll ops).complete now id outcome =
        (⟨[], [], ((Scheduler.new policy).performAll ops).isQuiescent⟩,
          (Scheduler.new policy).performAll ops)) ∧
    ∀ now id outcome,
      (((Scheduler.new policy).performAll ops).complete now id outcome).1.quiescent =
        (((Scheduler.new policy).performAll ops).complete now id outcome).2.isQuiescent := by
  have hc := coherent_performAll policy ops
  refine ⟨fun now id result hfl => ?_, fun now id outcome hfl => complete_of_not_mem hfl,
    fun now id outcome => quiescent_complete⟩
  exact hc.successReleases ((Coherent.new policy).map_id_performAll ops) hfl now result

/-- A run with two tasks that await `a` alone, submitted before and after it, one that awaits itself
as well, and one that has failed with another of its dependencies. -/
def awaitedRun : List Operation :=
  [.submit ⟨0⟩ "c" "r" "" ["a", "a"], .submit ⟨0⟩ "a" "r" "" [], .submit ⟨0⟩ "b" "r" "" ["a"],
    .submit ⟨0⟩ "d" "r" "" ["a", "d"], .submit ⟨0⟩ "f" "r" "" [], .submit ⟨0⟩ "e" "r" "" ["f", "a"],
    .dispatch ⟨1⟩ none, .complete ⟨2⟩ "f" (.failure "no")]

/-- In `awaitedRun`, the success of `a` is accepted and an outcome for `f` is ignored. -/
theorem successReleases_awaitedRun :
    ("a" ∈ ((Scheduler.new .cascade).performAll awaitedRun).inFlight ∧
      SuccessReleases ((Scheduler.new .cascade).performAll awaitedRun)
        ((Scheduler.new .cascade).history awaitedRun) ⟨3⟩ "a" .null
        (((Scheduler.new .cascade).performAll awaitedRun).complete ⟨3⟩ "a" (.success .null))) ∧
    "f" ∉ ((Scheduler.new .cascade).performAll awaitedRun).inFlight ∧
      ((Scheduler.new .cascade).performAll awaitedRun).complete ⟨3⟩ "f" (.success .null) =
        (⟨[], [], ((Scheduler.new .cascade).performAll awaitedRun).isQuiescent⟩,
          (Scheduler.new .cascade).performAll awaitedRun) :=
  ⟨⟨by decide, (performAll_successReleases .cascade awaitedRun).1 ⟨3⟩ "a" .null (by decide)⟩,
    by decide,
    (performAll_successReleases .cascade awaitedRun).2.1 ⟨3⟩ "f" (.success .null) (by decide)⟩

end Taskweave
