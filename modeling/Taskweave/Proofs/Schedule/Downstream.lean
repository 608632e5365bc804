import Mathlib.Logic.Relation
import Taskweave.Proofs.Schedule.Failures

/-!
# How far a failure reaches

A task is downstream of another if it depends on it, directly or through a chain of submitted tasks:
`Scheduler.DependsOn` is one link of such a chain. Where failures cascade, the tasks that fail with
a task are the blocked ones downstream of it, and no others (`Scheduler.Cascaded.mem_iff`). That
none is left out is not a matter of the walk alone, which does not go on from a task that had failed
before: it follows because no task waits for a failed one afterwards (`Scheduler.Closes`).

The walk itself is a loop over a stack, `Scheduler.Sweeping.Next` is one turn of it. Dependencies
may go round in cycles and a task may be on the stack many times, yet every turn uses up a pair of
the stack or the edges of a waiting task, so no walk goes on for ever
(`Scheduler.Sweeping.wellFounded_next`), and the walk of `Scheduler.sweep` comes to an empty stack
(`Scheduler.sweep_walks`). `performAll_failureReaches` puts both together for every run.
-/

namespace Taskweave

open Scheduler

namespace Scheduler

/-- One of the dependencies of the task `x` is `d`. -/
def DependsOn (s : Scheduler) (x d : TaskId) : Prop := ∃ t, s.task? x = some t ∧ d ∈ t.dependencies

/-- Where the walk of a sweep stands: the records, the pairs of a task and the dependency it fails
for that are on the stack, and the tasks that it has failed. -/
structure Sweeping where
  tasks : List Task
  stack : List (TaskId × TaskId)
  failed : List TaskId

namespace Sweeping

/-- A turn of the walk. The task on top of the stack fails if it waits, and its dependents are put
on the stack; otherwise it is dropped. -/
inductive Next (index : DependencyIndex) (now : Instant) : Sweeping → Sweeping → Prop where
  | fail {tasks : List Task} {id cause : TaskId} {rest : List (TaskId × TaskId)}
      {failed : List TaskId} : isWaiting tasks id = true →
      Next index now ⟨tasks, (id, cause) :: rest, failed⟩
        ⟨modifyTask tasks id (Task.fail now (dependencyFailed cause)),
          ((index.dependentsOf id).map fun d => (d, id)).reverse ++ rest, failed ++ [id]⟩
  | skip {tasks : List Task} {id cause : TaskId} {rest : List (TaskId × TaskId)}
      {failed : List TaskId} : isWaiting tasks id = false →
      Next index now ⟨tasks, (id, cause) :: rest, failed⟩ ⟨tasks, rest, failed⟩

/-- The walk that sets out from the dependents of `id`. -/
def start (s : Scheduler) (id : TaskId) : Sweeping :=
  ⟨s.tasks, ((s.index.dependentsOf id).map fun d => (d, id)).reverse, []⟩

section
variable {index : DependencyIndex} {now : Instant} {a b : Sweeping}

/-- What is left of a walk: the pairs on the stack, and those that the waiting tasks may add. -/
def left (index : DependencyIndex) (a : Sweeping) : Nat :=
  openEdges index a.tasks + a.stack.length

/-- Every turn of a walk leaves less to do. -/
theorem Next.left_lt (h : Next index now a b) : b.left index < a.left index := by
  cases h with
  | @fail tasks id cause rest failed hw =>
    have hclosed := @openEdges_fail index now (dependencyFailed cause) id tasks hw
    simp only [left, List.length_append, List.length_reverse, List.length_map, List.length_cons]
    omega
  | skip =>
    simp only [left, List.length_cons]
    omega

/-- No walk goes on for ever, whatever the dependencies are. -/
theorem wellFounded_next (index : DependencyIndex) (now : Instant) :
    WellFounded fun b a => Next index now a b :=
  Subrelation.wf Next.left_lt (measure (left index)).wf

end

end Sweeping

/-- The turns of the walk lead to what a sweep answers, with nothing left on the stack. -/
theorem sweep_walks (index : DependencyIndex) (now : Instant) (tasks : List Task)
    (stack : List (TaskId × TaskId)) (failed : List TaskId) :
    Relation.ReflTransGen (Sweeping.Next index now) ⟨tasks, stack, failed⟩
      ⟨(sweep index now tasks stack).1, [], failed ++ (sweep index now tasks stack).2⟩ := by
  fun_induction sweep index now tasks stack generalizing failed with
  | case1 tasks =>
    rw [List.append_nil]
  | case2 tasks id cause rest hw failed' tasks' ids heq ih =>
    have hrest := ih (failed ++ [id])
    rw [heq, List.append_assoc] at hrest
    exact .head (.fail hw) hrest
  | case3 tasks id cause rest hw ih =>
    exact .head (.skip (Bool.eq_false_iff.2 hw)) (ih failed)

section
variable {s s' : Scheduler} {now : Instant} {id x d : TaskId} {ids : List TaskId} {error : String}

/-! ## Dependencies -/

/-- Dependencies are fixed parts of records. -/
theorem dependsOn_iff : s.DependsOn x d ↔ ∃ p, s.profile? x = some p ∧ d ∈ p.dependencies := by
  constructor
  · rintro ⟨t, ht, hd⟩
    exact ⟨t.profile, profile?_of_task? ht, hd⟩
  · rintro ⟨p, hp, hd⟩
    obtain ⟨t, ht, rfl⟩ := Option.map_eq_some_iff.1 hp
    exact ⟨t, ht, hd⟩

/-- Schedulers with one outline have the same dependencies. -/
theorem dependsOn_congr (hout : outline s'.tasks = outline s.tasks) :
    s'.DependsOn = s.DependsOn := by
  funext x d
  rw [dependsOn_iff, dependsOn_iff, profile?_congr hout]

/-- The index knows the dependents of a task. -/
theorem Coherent.mem_dependentsOf_iff (h : s.Coherent) :
    x ∈ s.index.dependentsOf d ↔ s.DependsOn x d := by
  rw [h.mem_dependentsOf, dependsOn_iff]

/-- Where no task waits for a failed one, everything downstream of a failed task has failed. -/
theorem failed_of_transGen (hclosed : ∀ d, s.Closes d) (hx : Relation.TransGen s.DependsOn x id)
    (hid : s.status? id = some .failed) : s.status? x = some .failed := by
  induction hx using Relation.TransGen.head_induction_on with
  | single hdep =>
    obtain ⟨p, hp, hmem⟩ := dependsOn_iff.1 hdep
    exact hclosed _ _ p hp hmem hid
  | head hdep _ ih =>
    obtain ⟨p, hp, hmem⟩ := dependsOn_iff.1 hdep
    exact hclosed _ _ p hp hmem ih

/-! ## Cascades -/

/-- From `s` to `s'` the blocked tasks `ids` fail, each for a dependency that has failed, and
nothing else changes. -/
structure Inherits (s : Scheduler) (now : Instant) (s' : Scheduler) (ids : List TaskId) : Prop where
  frame : s' = { s with tasks := s'.tasks }
  outline_eq : outline s'.tasks = outline s.tasks
  nodup : ids.Nodup
  blocked : ∀ x ∈ ids, s.status? x = some .blocked
  cause : ∀ x ∈ ids, ∃ t d, s.task? x = some t ∧ d ∈ t.dependencies ∧
    s'.status? d = some .failed ∧ s'.task? x = some (t.fail now (dependencyFailed d))
  kept : ∀ x, x ∉ ids → s'.task? x = s.task? x

/-- Where nothing happens, no task inherits a failure. -/
theorem Inherits.nil (s : Scheduler) (now : Instant) : s.Inherits now s [] :=
  ⟨rfl, rfl, List.nodup_nil, nofun, nofun, fun _ _ => rfl⟩

/-- The tasks that fail are those that had failed, and those that inherit a failure. -/
theorem Inherits.failed_iff (h : s.Inherits now s' ids) :
    s'.status? x = some .failed ↔ s.status? x = some .failed ∨ x ∈ ids := by
  by_cases hx : x ∈ ids
  · obtain ⟨t, d, -, -, -, hrec⟩ := h.cause x hx
    rw [status?_of_task? hrec]
    exact ⟨fun _ => .inr hx, fun _ => rfl⟩
  · rw [Scheduler.status?, h.kept x hx, Scheduler.status?]
    exact ⟨.inl, fun hor => hor.resolve_right hx⟩

/-- In a cascade from a failed task, tasks inherit a failure. -/
theorem Cascaded.inherits (h : s.Coherent) (hc : Cascaded s now id s' ids)
    (hid : s.status? id = some .failed) : s.Inherits now s' ids where
  frame := hc.frame
  outline_eq := hc.outline_eq
  nodup := hc.nodup
  blocked _ hx := hc.blocked h (isCompleted_of_failed hid) hx
  cause _ hx := hc.exists_cause h hid hx
  kept := hc.kept

/-- The tasks that fail in a cascade are downstream of the one it starts from. -/
theorem Cascaded.transGen (h : s.Coherent) (hc : Cascaded s now id s' ids) (hx : x ∈ ids) :
    Relation.TransGen s.DependsOn x id := by
  have hreach : ∀ y ∈ ids, Relation.ReflTransGen s.DependsOn y id :=
    hc.traced .refl fun c hcid y hy => hcid.head (h.mem_dependentsOf_iff.1 hy)
  obtain ⟨cause, hcause, hdep, -⟩ := hc.failed x hx
  refine .head' (h.mem_dependentsOf_iff.1 hdep) ?_
  rcases List.mem_cons.1 hcause with rfl | hcause
  · exact .refl
  · exact hreach cause hcause

/-- A cascade fails the blocked tasks downstream of the one it starts from, and no others. -/
theorem Cascaded.mem_iff (h : s.Coherent) (hc : Cascaded s now id s' ids)
    (hid : s.status? id = some .failed) (hclosed : ∀ d, s'.Closes d) :
    x ∈ ids ↔ s.status? x = some .blocked ∧ Relation.TransGen s.DependsOn x id := by
  have hinherits := hc.inherits h hid
  constructor
  · intro hx
    exact ⟨hinherits.blocked x hx, hc.transGen h hx⟩
  · rintro ⟨hb, hreach⟩
    rw [← dependsOn_congr hc.outline_eq] at hreach
    have hfailed := failed_of_transGen hclosed hreach (hinherits.failed_iff.2 (.inl hid))
    refine (hinherits.failed_iff.1 hfailed).resolve_left fun hx => ?_
    rw [hb] at hx
    cases hx

/-! ## A task in flight that fails -/

/-- What `answer` does when the task `id` in flight in `s` fails with `error`. -/
structure FailureReaches (s : Scheduler) (now : Instant) (id : TaskId) (error : String)
    (answer : Progress × Scheduler) : Prop where
  failed : ∃ t, s.task? id = some t ∧ answer.2.task? id = some (t.fail now error)
  newlyReady_eq : answer.1.newlyReady = []
  /-- The task comes first. Where failures cascade, the others are those that the walk from it has
  failed when its stack is empty. -/
  newlyFailed_eq : ∃ others, answer.1.newlyFailed = id :: others ∧
    (s.policy = .cascade → Relation.ReflTransGen (Sweeping.Next s.index now)
      (.start (s.failedAt now id error) id) ⟨answer.2.tasks, [], others⟩)
  terminates : WellFounded fun b a => Sweeping.Next s.index now a b
  nodup : answer.1.newlyFailed.Nodup
  /-- The tasks that are listed are those that had not failed and have failed now. -/
  mem_iff : ∀ x, x ∈ answer.1.newlyFailed ↔
    s.status? x ≠ some .failed ∧ answer.2.status? x = some .failed
  block : s.policy = .block → answer.1.newlyFailed = [id]
  cascade : s.policy = .cascade → ∀ x, x ∈ answer.1.newlyFailed ↔
    x = id ∨ s.status? x = some .blocked ∧ Relation.TransGen s.DependsOn x id
  /-- The other tasks name a dependency that has failed. -/
  cause : ∀ x ∈ answer.1.newlyFailed, x ≠ id → ∃ t d, s.task? x = some t ∧ d ∈ t.dependencies ∧
    answer.2.status? d = some .failed ∧ answer.2.task? x = some (t.fail now (dependencyFailed d))
  kept : ∀ x, x ∉ answer.1.newlyFailed → answer.2.task? x = s.task? x
  outline_eq : outline answer.2.tasks = outline s.tasks
  /-- What the tasks wait for and the queue stay as they are, and `id` alone leaves the tasks in
  flight. -/
  frame : answer.2 = { s with
    tasks := answer.2.tasks
    inFlight := s.inFlight.filter (· != id) }
  quiescent_eq : answer.1.quiescent = answer.2.isQuiescent

/-- The failure of a task in flight blocks no task and unblocks none. -/
theorem Coherent.blocked_failedAt_iff (h : s.Coherent) (hfl : id ∈ s.inFlight) :
    (s.failedAt now id error).status? x = some .blocked ↔ s.status? x = some .blocked := by
  rw [h.status?_failedAt hfl]
  split
  · next hx =>
    rw [hx, (h.mem_inFlight id).1 hfl]
    exact ⟨nofun, nofun⟩
  · rfl

/-- The task in flight that fails is not among those that inherit its failure. -/
theorem Coherent.ne_of_inherits (h : s.Coherent) (hfl : id ∈ s.inFlight)
    (hinherits : (s.failedAt now id error).Inherits now s' ids) (hx : x ∈ ids) : x ≠ id := by
  intro he
  have hb := (h.blocked_failedAt_iff hfl).1 (hinherits.blocked x hx)
  rw [he, (h.mem_inFlight id).1 hfl] at hb
  cases hb

/-- The tasks that fail with a task in flight and that task are those that had not failed and have
failed now. -/
theorem Coherent.newlyFailed_iff (h : s.Coherent) (hfl : id ∈ s.inFlight)
    (hinherits : (s.failedAt now id error).Inherits now s' ids) :
    x ∈ id :: ids ↔ s.status? x ≠ some .failed ∧ s'.status? x = some .failed := by
  have hrun := (h.mem_inFlight id).1 hfl
  rw [hinherits.failed_iff, h.status?_failedAt hfl, List.mem_cons]
  by_cases hx : x = id
  · simp [hx, hrun]
  · rw [if_neg hx]
    constructor
    · rintro (he | hx)
      · contradiction
      · refine ⟨fun hf => ?_, .inr hx⟩
        rw [(h.blocked_failedAt_iff hfl).1 (hinherits.blocked x hx)] at hf
        cases hf
    · rintro ⟨hnot, hf | hx⟩
      · contradiction
      · exact .inr hx

/-- What comes of the failure of a task in flight, from what comes of it once its own record says
so. -/
theorem Coherent.failureReaches (h : s.Coherent) (hfl : id ∈ s.inFlight)
    (hinherits : (s.failedAt now id error).Inherits now s' ids)
    (hblock : s.policy = .block → ids = [])
    (hwalk : s.policy = .cascade → Relation.ReflTransGen (Sweeping.Next s.index now)
      (.start (s.failedAt now id error) id) ⟨s'.tasks, [], ids⟩)
    (hmem : s.policy = .cascade → ∀ x, x ∈ ids ↔ (s.failedAt now id error).status? x =
      some .blocked ∧ Relation.TransGen (s.failedAt now id error).DependsOn x id) :
    FailureReaches s now id error (s'.progress [] (id :: ids), s') := by
  have hself : id ∉ ids := fun hid => h.ne_of_inherits hfl hinherits hid rfl
  have htask : ∀ x, x ≠ id → (s.failedAt now id error).task? x = s.task? x := fun x hx => by
    rw [task?_failedAt, if_neg hx]
  have hout : outline (s.failedAt now id error).tasks = outline s.tasks :=
    outline_modifyTask fun t => Task.profile_fail now t error
  refine ⟨?_, rfl, ⟨ids, rfl, hwalk⟩, Sweeping.wellFounded_next _ now,
    List.nodup_cons.2 ⟨hself, hinherits.nodup⟩, fun x => h.newlyFailed_iff hfl hinherits,
    fun hp => congrArg (id :: ·) (hblock hp), fun hp x => ?_, fun x hx hxid => ?_,
    fun x hx => ?_, hinherits.outline_eq.trans hout, hinherits.frame, rfl⟩
  · obtain ⟨t, ht, -⟩ := exists_task?_of_status? ((h.mem_inFlight id).1 hfl)
    refine ⟨t, ht, ?_⟩
    rw [hinherits.kept id hself, task?_failedAt, if_pos rfl, ht]
    rfl
  · show x ∈ id :: ids ↔ _
    rw [List.mem_cons, hmem hp, h.blocked_failedAt_iff hfl, dependsOn_congr hout]
  · obtain ⟨t, d, ht, hcause⟩ := hinherits.cause x ((List.mem_cons.1 hx).resolve_left hxid)
    rw [htask x hxid] at ht
    exact ⟨t, d, ht, hcause⟩
  · obtain ⟨hxid, hx⟩ := not_or.1 (mt List.mem_cons.2 hx)
    rw [hinherits.kept x hx, htask x hxid]

/-- The failure of a task in flight reports and fails the blocked tasks downstream of it, or none
where failures block. -/
theorem Followed.failureReaches (h : s.Followed) (hfl : id ∈ s.inFlight) (now : Instant)
    (error : String) :
    FailureReaches s now id error (s.complete now id (.failure error)) := by
  have hc := h.coherent
  have hhas : s.has id = true := has_of_status? ((hc.mem_inFlight id).1 hfl)
  cases hp : s.policy with
  | block =>
    rw [complete_failure_block hfl hhas hp]
    refine hc.failureReaches hfl (.nil _ now) (fun _ => rfl) (fun hp' => ?_) fun hp' => ?_
    · rw [hp] at hp'
      cases hp'
    · rw [hp] at hp'
      cases hp'
  | cascade =>
    have hcas := cascade_cascaded (s.failedAt now id error) now id
    have hfailed := hc.failedAt hfl now error
    have hid : (s.failedAt now id error).status? id = some .failed := hc.failed_failedAt hfl
    have hclosed : ∀ d, ((s.failedAt now id error).cascade now id).2.Closes d := fun d =>
      (Ends.cascaded hfl hp hcas).closes hc hp (h.closed hp)
    rw [complete_failure_cascade hfl hhas hp]
    refine hc.failureReaches hfl (hcas.inherits hfailed hid) (fun hp' => ?_)
      (fun _ => sweep_walks _ now _ _ []) fun _ x => hcas.mem_iff hfailed hid hclosed
    rw [hp] at hp'
    cases hp'

end

end Scheduler

/-- Whatever is asked of a scheduler without tasks: when a task in flight fails, whatever the tasks
depend on, its failure reaches the blocked tasks downstream of it, or to none, as
`FailureReaches` says. -/
theorem performAll_failureReaches (policy : FailurePolicy) (ops : List Operation) (now : Instant)
    (id : TaskId) (error : String)
    (hfl : id ∈ ((Scheduler.new policy).performAll ops).inFlight) :
    FailureReaches ((Scheduler.new policy).performAll ops) now id error
      (((Scheduler.new policy).performAll ops).complete now id (.failure error)) :=
  ((Followed.new policy).performAll ops).failureReaches hfl now error

/-- A failure in front of a task that depends on itself and on one that depends on it, where another
task in flight has nothing to do with it. -/
theorem failureReaches_cyclic_run :
    "a" ∈ ((Scheduler.new .cascade).performAll
        [.submit ⟨0⟩ "c" "r" "" ["b", "c"], .submit ⟨0⟩ "b" "r" "" ["a", "c"],
          .submit ⟨0⟩ "a" "r" "" [], .submit ⟨0⟩ "d" "r" "" [], .dispatch ⟨1⟩ none]).inFlight ∧
      FailureReaches
        ((Scheduler.new .cascade).performAll
          [.submit ⟨0⟩ "c" "r" "" ["b", "c"], .submit ⟨0⟩ "b" "r" "" ["a", "c"],
            .submit ⟨0⟩ "a" "r" "" [], .submit ⟨0⟩ "d" "r" "" [], .dispatch ⟨1⟩ none])
        ⟨2⟩ "a" "no"
        (((Scheduler.new .cascade).performAll
          [.submit ⟨0⟩ "c" "r" "" ["b", "c"], .submit ⟨0⟩ "b" "r" "" ["a", "c"],
            .submit ⟨0⟩ "a" "r" "" [], .submit ⟨0⟩ "d" "r" "" [],
            .dispatch ⟨1⟩ none]).complete ⟨2⟩ "a" (.failure "no")) :=
  ⟨by decide, performAll_failureReaches .cascade _ ⟨2⟩ "a" "no" (by decide)⟩

end Taskweave
