import Taskweave.Proofs.Run.Independence
import Taskweave.Proofs.Run.Saturation
import Taskweave.Proofs.Schedule.Undated

/-!
# Starting tasks one by one

`Scheduler.collect` drains a whole batch of tasks, pairs them with their executors, fails those that
have none and counts the free slots again. `Scheduler.oneByOne` is the loop without batches: while
there is room it takes one task off the queue, and that task is dispatched or fails before the next
one is looked at. A batch is as good as its tasks one by one
(`Scheduler.Coherent.oneByOne_eq_batch`), by induction on its size: the first task may fail before
the others are started, because its failure does not touch them
(`Scheduler.Coherent.dispatch_complete_failure`). Over the rounds of `Scheduler.collect` this adds
up to `Scheduler.Coherent.collect_eq_oneByOne`. A task that is dispatched stays in flight
(`Scheduler.Coherent.inFlight_oneByOne`), and the clock of the loop, which is read twice for each
task, matters to nothing but dates (`Scheduler.oneByOne_congr`).
-/

namespace Taskweave

variable {α : Type}

namespace ReadyQueue

/-- No task is taken off an empty queue. -/
theorem pop?_eq_none_iff {q : ReadyQueue} : q.pop? = none ↔ q.order = [] := by
  rw [pop?]
  cases q.order with
  | nil => simp
  | cons id rest => simp

/-- Taking a task shortens the queue. -/
theorem size_pop {q q' : ReadyQueue} {id : TaskId} (h : q.pop? = some (id, q')) :
    q.size = q'.size + 1 := by
  obtain ⟨order, members⟩ := q
  cases order with
  | nil => cases h
  | cons x rest =>
    cases h
    rfl

/-- The task that is taken is the oldest. -/
theorem order_pop {q q' : ReadyQueue} {id : TaskId} (h : q.pop? = some (id, q')) :
    q.order = id :: q'.order := by
  obtain ⟨order, members⟩ := q
  cases order with
  | nil => cases h
  | cons x rest =>
    cases h
    rfl

end ReadyQueue

namespace Scheduler

/-- The scheduler with another queue. -/
def withQueue (s : Scheduler) (queue : ReadyQueue) : Scheduler := { s with queue }

/-- Starts a task that was taken off the queue. It is dispatched if its role has an executor, and
fails at once otherwise. The clock is read when it starts, and when it fails. -/
def takeNext (s : Scheduler) (registry : Registry α) (clock : Nat → Instant) (id : TaskId) :
    List (Dispatch α) × Scheduler :=
  match s.startTask (clock 0) id with
  | (none, s) => ([], s)
  | (some a, s) =>
    match registry.find? a.role with
    | some executor => ([⟨a, executor⟩], s)
    | none =>
      ([], (s.complete (clock 1) a.id (.failure (ExecutorError.unbound a.role).message)).2)

/-- Taking a task does not touch the rest of the queue. -/
theorem queue_takeNext {s : Scheduler} {registry : Registry α} {clock : Nat → Instant}
    {id : TaskId} : (s.takeNext registry clock id).2.queue = s.queue := by
  have hstart : (s.startTask (clock 0) id).2.queue = s.queue := queue_startTask
  unfold takeNext
  split
  · next heq => rw [← hstart, heq]
  · next heq =>
    split
    · rw [← hstart, heq]
    · rw [queue_complete_failure, ← hstart, heq]

/-- While fewer tasks are in flight than the limit allows, takes the oldest task off the queue and
dispatches it or fails it. -/
def oneByOne (s : Scheduler) (registry : Registry α) (options : RunOptions)
    (clock : Nat → Instant) : List (Dispatch α) × Scheduler :=
  if ∀ m ∈ options.maxConcurrency, s.inFlight.length < m then
    match _h : s.queue.pop? with
    | none => ([], s)
    | some (id, queue) =>
      let taken := (s.withQueue queue).takeNext registry clock id
      let (more, s) := taken.2.oneByOne registry options fun n => clock (n + 2)
      (taken.1 ++ more, s)
  else ([], s)
termination_by s.queue.size
decreasing_by
  rw [queue_takeNext, ReadyQueue.size_pop _h]
  exact Nat.lt_succ_self queue.size

section
variable {s : Scheduler} {registry : Registry α} {options : RunOptions} {now : Instant}
  {clock : Nat → Instant} {id : TaskId} {q : ReadyQueue} {limit : Option Nat} {a : Assignment}
  {as : List Assignment} {k : Nat}

/-! ## The first task of a batch -/

/-- Starting a task does not look at the queue. -/
theorem startTask_withQueue : (s.withQueue q).startTask now id =
    ((s.startTask now id).1, (s.startTask now id).2.withQueue q) := by
  have htask : (s.withQueue q).task? id = s.task? id := rfl
  have hfl : (s.withQueue q).inFlight = s.inFlight := rfl
  unfold startTask
  rw [htask, hfl]
  cases s.task? id with
  | none => rfl
  | some t =>
    dsimp only
    by_cases hskip : t.status ≠ .pending ∨ s.inFlight.contains id = true
    · rw [if_pos hskip, if_pos hskip]
    · rw [if_neg hskip, if_neg hskip]
      rfl

/-- A batch is its first task and the batch of the others. -/
theorem dispatch_succ (hq : s.queue.pop? = some (id, q)) :
    s.dispatch now (some (k + 1)) =
      (((s.withQueue q).startTask now id).1.toList ++
          (((s.withQueue q).startTask now id).2.dispatch now (some k)).1,
        (((s.withQueue q).startTask now id).2.dispatch now (some k)).2) := by
  have havailable : s.queue.available (some (k + 1)) = q.available (some k) + 1 := by
    rw [ReadyQueue.available, ReadyQueue.available, ReadyQueue.size_pop hq, Option.getD_some,
      Option.getD_some]
    omega
  have hdrain : s.queue.drain (some (k + 1)) =
      (id :: (q.drain (some k)).1, (q.drain (some k)).2) := by
    rw [ReadyQueue.drain, havailable, ReadyQueue.popMany, hq]
    rfl
  have hbatch : s.dispatch now (some (k + 1)) =
      (s.withQueue (q.drain (some k)).2).startAll now (id :: (q.drain (some k)).1) := by
    rw [dispatch, hdrain]
    rfl
  have hrest : ((s.startTask now id).2.withQueue q).dispatch now (some k) =
      ((s.startTask now id).2.withQueue (q.drain (some k)).2).startAll now
        (q.drain (some k)).1 := rfl
  rw [hbatch, startAll, startTask_withQueue, startTask_withQueue]
  dsimp only
  rw [hrest]

/-- The oldest queued task is started when it is taken. -/
theorem Coherent.startTask_pop (h : s.Coherent) (hq : s.queue.pop? = some (id, q))
    (now : Instant) : ∃ a s₁, (s.withQueue q).startTask now id = (some a, s₁) ∧ a.id = id ∧
      s₁.Coherent ∧ s₁.inFlight = s.inFlight ++ [id] ∧ s₁.queue = q := by
  have hmem : id ∈ s.queued := by
    rw [queued, ReadyQueue.order_pop hq]
    exact List.mem_cons_self
  have hst : (s.withQueue q).status? id = some .pending := (h.mem_queued id).1 hmem
  have hfl : id ∉ s.inFlight := fun hfl => by
    have hrun : (s.withQueue q).status? id = some .inProgress := (h.mem_inFlight id).1 hfl
    rw [hst] at hrun
    cases hrun
  have heq : (s.withQueue q).startTask now id =
      ((s.withQueue q).assignment? id, (s.withQueue q).started now [id]) := startTask_eq hst hfl
  obtain ⟨t, ht, -⟩ := exists_task?_of_status? hst
  have hone : (s.dispatch now (some 1)).2 = (s.withQueue q).started now [id] := by
    rw [dispatch_succ hq, heq]
    exact congrArg Prod.snd (dispatch_of_available_eq_zero (Nat.zero_min _))
  refine ⟨⟨id, t.role, t.description, (s.withQueue q).resultsOf t.dependencies⟩,
    (s.withQueue q).started now [id], ?_, rfl, ?_, rfl, rfl⟩
  · rw [heq, assignment?, ht]
    rfl
  · rw [← hone]
    exact h.dispatched now (some 1)

/-- A batch takes what is available. -/
theorem dispatch_available :
    s.dispatch now limit = s.dispatch now (some (s.queue.available limit)) := by
  have havailable : s.queue.available (some (s.queue.available limit)) = s.queue.available limit :=
    Nat.min_eq_left (Nat.min_le_right _ _)
  rw [dispatch, dispatch, ReadyQueue.drain, ReadyQueue.drain, havailable]

/-! ## The loops agree -/

/-- A batch: starts the oldest tasks, at most `k` of them, pairs them with their executors and fails
those that have none. -/
def batch (s : Scheduler) (registry : Registry α) (now : Instant) (k : Nat) :
    List (Dispatch α) × Scheduler :=
  assign registry now (s.dispatch now (some k)).2 (s.dispatch now (some k)).1

/-- Pairing tasks with executors keeps the parts in agreement. -/
theorem Coherent.assign (h : s.Coherent) : (assign registry now s as).2.Coherent := by
  induction as generalizing s with
  | nil => exact h
  | cons a as ih =>
    unfold Scheduler.assign
    split
    · exact ih h
    · exact ih ((h.ends now a.id _).coherent h)

/-- A task that is started is dispatched if its role has an executor. -/
theorem takeNext_bound {s₁ : Scheduler} {executor : α}
    (hstart : s.startTask (clock 0) id = (some a, s₁))
    (hfind : registry.find? a.role = some executor) :
    s.takeNext registry clock id = ([⟨a, executor⟩], s₁) := by
  simp only [takeNext, hstart, hfind]

/-- A task that is started fails if its role has no executor. -/
theorem takeNext_unbound {s₁ : Scheduler} (hstart : s.startTask (clock 0) id = (some a, s₁))
    (hfind : registry.find? a.role = none) :
    s.takeNext registry clock id =
      ([], (s₁.complete (clock 1) a.id (.failure (ExecutorError.unbound a.role).message)).2) := by
  simp only [takeNext, hstart, hfind]

/-- A task that is taken stays in flight if it is dispatched, and is in flight no more otherwise. -/
theorem Coherent.takeNext_pop (h : s.Coherent) (hq : s.queue.pop? = some (id, q))
    (registry : Registry α) (clock : Nat → Instant) :
    ((s.withQueue q).takeNext registry clock id).2.Coherent ∧
      ((s.withQueue q).takeNext registry clock id).2.inFlight = s.inFlight ++
        ((s.withQueue q).takeNext registry clock id).1.map (·.assignment.id) := by
  obtain ⟨a, s₁, hstart, rfl, hc, hfl, -⟩ := h.startTask_pop hq (clock 0)
  cases hfind : registry.find? a.role with
  | some executor =>
    rw [takeNext_bound hstart hfind]
    exact ⟨hc, hfl⟩
  | none =>
    rw [takeNext_unbound hstart hfind]
    have hends := hc.ends (clock 1) a.id (.failure (ExecutorError.unbound a.role).message)
    have hnd : (s.inFlight ++ [a.id]).Nodup := hfl ▸ hc.inFlight_nodup
    refine ⟨hends.coherent hc, ?_⟩
    rw [hends.inFlight_eq, hfl, List.filter_append, List.filter_eq_self.2 fun x hx => ?_]
    · simp
    · have hne : x ≠ a.id :=
        (List.nodup_append.1 hnd).2.2 x hx a.id (List.mem_singleton.2 rfl)
      simpa using hne

/-- A batch is its first task, dispatched or failed, and then the batch of the others: if the first
task fails, it may do so before the others are started. -/
theorem Coherent.batch_succ (h : s.Coherent) (hq : s.queue.pop? = some (id, q)) :
    s.batch registry now (k + 1) =
      (((s.withQueue q).takeNext registry (fun _ => now) id).1 ++
          (((s.withQueue q).takeNext registry (fun _ => now) id).2.batch registry now k).1,
        (((s.withQueue q).takeNext registry (fun _ => now) id).2.batch registry now k).2) := by
  obtain ⟨a, s₁, hstart, rfl, hc, hfl, -⟩ := h.startTask_pop hq now
  have hbatch : s.batch registry now (k + 1) =
      Scheduler.assign registry now (s₁.dispatch now (some k)).2
        (a :: (s₁.dispatch now (some k)).1) := by
    rw [batch, dispatch_succ hq, hstart]
    rfl
  rw [hbatch, Scheduler.assign]
  cases hfind : registry.find? a.role with
  | some executor =>
    have htaken : (s.withQueue q).takeNext registry (fun _ => now) a.id = ([⟨a, executor⟩], s₁) :=
      takeNext_bound hstart hfind
    rw [htaken]
    rfl
  | none =>
    have htaken : (s.withQueue q).takeNext registry (fun _ => now) a.id =
        ([], (s₁.complete now a.id (.failure (ExecutorError.unbound a.role).message)).2) :=
      takeNext_unbound hstart hfind
    have hmem : a.id ∈ s₁.inFlight := by
      rw [hfl]
      exact List.mem_append_right _ List.mem_cons_self
    rw [htaken, batch, hc.dispatch_complete_failure hmem]
    rfl

/-- Nothing is available when nothing is queued. -/
theorem available_of_queued_eq_nil (h : s.queued = []) : s.queue.available limit = 0 := by
  rw [ReadyQueue.available, ReadyQueue.size, ← queued, h, List.length_nil, Nat.min_zero]

/-- A batch of nothing. -/
theorem batch_of_available_eq_zero (h : s.queue.available (some k) = 0) :
    s.batch registry now k = ([], s) := by
  rw [batch, dispatch_of_available_eq_zero h]
  rfl

/-- The loop ends when there is no room. -/
theorem oneByOne_of_full (h : ¬∀ m ∈ options.maxConcurrency, s.inFlight.length < m) :
    s.oneByOne registry options clock = ([], s) := by
  rw [oneByOne, if_neg h]

/-- The loop ends when nothing is queued. -/
theorem oneByOne_of_pop_eq_none (h : s.queue.pop? = none) :
    s.oneByOne registry options clock = ([], s) := by
  rw [oneByOne]
  split
  · split
    · rfl
    · next hq =>
      rw [h] at hq
      cases hq
  · rfl

/-- A turn of the loop. -/
theorem oneByOne_of_pop (hroom : ∀ m ∈ options.maxConcurrency, s.inFlight.length < m)
    (h : s.queue.pop? = some (id, q)) :
    s.oneByOne registry options clock =
      (((s.withQueue q).takeNext registry clock id).1 ++
          (((s.withQueue q).takeNext registry clock id).2.oneByOne registry options
            fun n => clock (n + 2)).1,
        (((s.withQueue q).takeNext registry clock id).2.oneByOne registry options
          fun n => clock (n + 2)).2) := by
  rw [oneByOne, if_pos hroom]
  split
  · next hq =>
    rw [h] at hq
    cases hq
  · next hq =>
    rw [h] at hq
    cases hq
    rfl

/-- A turn dispatches at most one task. -/
theorem length_takeNext_le : (s.takeNext registry clock id).1.length ≤ 1 := by
  unfold takeNext
  split
  · exact Nat.zero_le 1
  · split
    · exact Nat.le_refl 1
    · exact Nat.zero_le 1

/-- As long as there is room for it, a batch is as good as its tasks one by one. -/
theorem Coherent.oneByOne_eq_batch (h : s.Coherent)
    (hroom : ∀ m ∈ options.maxConcurrency, s.inFlight.length + k ≤ m) :
    s.oneByOne registry options (fun _ => now) =
      ((s.batch registry now k).1 ++
          ((s.batch registry now k).2.oneByOne registry options fun _ => now).1,
        ((s.batch registry now k).2.oneByOne registry options fun _ => now).2) := by
  induction k generalizing s with
  | zero =>
    rw [batch_of_available_eq_zero (Nat.zero_min _)]
    rfl
  | succ k ih =>
    cases hq : s.queue.pop? with
    | none =>
      have hempty : s.queued = [] := ReadyQueue.pop?_eq_none_iff.1 hq
      rw [batch_of_available_eq_zero (available_of_queued_eq_nil hempty)]
      rfl
    | some r =>
      obtain ⟨id, q⟩ := r
      have hone : ∀ m ∈ options.maxConcurrency, s.inFlight.length < m := fun m hm => by
        have := hroom m hm
        omega
      obtain ⟨hc, hfl⟩ := h.takeNext_pop hq registry fun _ => now
      have hle : ((s.withQueue q).takeNext registry (fun _ => now) id).1.length ≤ 1 :=
        length_takeNext_le
      have hrest := ih hc fun m hm => by
        have := hroom m hm
        rw [hfl, List.length_append, List.length_map]
        omega
      rw [oneByOne_of_pop hone hq, hrest, h.batch_succ hq, List.append_assoc]

/-- The rounds of `Scheduler.collect` come to what the loop does one by one. -/
theorem Coherent.collect_eq_oneByOne (h : s.Coherent) (registry : Registry α)
    (options : RunOptions) (now : Instant) :
    s.collect registry options now = s.oneByOne registry options fun _ => now := by
  fun_induction collect s registry options now with
  | case1 s hslots =>
    refine (oneByOne_of_full fun hall => ?_).symm
    rw [RunOptions.slots, Option.map_eq_some_iff] at hslots
    obtain ⟨m, hm, hzero⟩ := hslots
    have := hall m hm
    omega
  | case2 s hslots started hnil =>
    have hqueued : s.queued = [] := by
      by_contra hne
      exact h.dispatch_ne_nil hne hslots hnil
    have hsame : started = ([], s) :=
      dispatch_of_available_eq_zero (available_of_queued_eq_nil hqueued)
    rw [hsame, oneByOne_of_pop_eq_none (ReadyQueue.pop?_eq_none_iff.2 hqueued)]
  | case3 s hslots started hne assigned more s' heq ih =>
    -- The round is a batch of all that is available, and there is room for it.
    have hbatch : s.batch registry now (s.queue.available (options.slots s.inFlight.length)) =
        assigned := by
      rw [batch, ← dispatch_available]
    have hroom : ∀ m ∈ options.maxConcurrency,
        s.inFlight.length + s.queue.available (options.slots s.inFlight.length) ≤ m :=
      fun m hm => by
        rw [RunOptions.slots, hm, Option.map_some, ReadyQueue.available, Option.getD_some]
        have hfree : m - s.inFlight.length ≠ 0 := fun hzero => by
          rw [RunOptions.slots, hm, Option.map_some, hzero] at hslots
          exact hslots rfl
        omega
    have hrest := ih (h.dispatched now _).assign
    rw [heq] at hrest
    rw [h.oneByOne_eq_batch hroom, hbatch, ← hrest]

/-- The tasks that the loop dispatches are in flight at the end, next to those that were. -/
theorem Coherent.inFlight_oneByOne (h : s.Coherent) (registry : Registry α) (options : RunOptions)
    (clock : Nat → Instant) :
    (s.oneByOne registry options clock).2.Coherent ∧
      (s.oneByOne registry options clock).2.inFlight =
        s.inFlight ++ (s.oneByOne registry options clock).1.map (·.assignment.id) := by
  fun_induction oneByOne s registry options clock with
  | case1 s clock hroom hq => exact ⟨h, (List.append_nil _).symm⟩
  | case2 s clock hroom id q hq taken more s' heq ih =>
    obtain ⟨hc, hfl⟩ := h.takeNext_pop hq registry clock
    have hrest := ih hc
    rw [heq] at hrest
    refine ⟨hrest.1, hrest.2.trans ?_⟩
    rw [hfl, List.map_append, List.append_assoc]
  | case3 s clock hfull => exact ⟨h, (List.append_nil _).symm⟩

/-! ## The clock -/

/-- A task is taken alike in schedulers that are alike, whatever the clock says. -/
theorem takeNext_congr {s' : Scheduler} {clock' : Nat → Instant} (h : s.undated = s'.undated) :
    (s.takeNext registry clock id).1 = (s'.takeNext registry clock' id).1 ∧
      (s.takeNext registry clock id).2.undated = (s'.takeNext registry clock' id).2.undated := by
  obtain ⟨hassigned, hafter⟩ : (s.startTask (clock 0) id).1 = (s'.startTask (clock' 0) id).1 ∧
      (s.startTask (clock 0) id).2.undated = (s'.startTask (clock' 0) id).2.undated :=
    startTask_congr h
  unfold takeNext
  cases hs : s.startTask (clock 0) id with
  | mk started s₁ =>
    cases hs' : s'.startTask (clock' 0) id with
    | mk started' s₁' =>
      rw [hs, hs'] at hassigned hafter
      obtain rfl : started = started' := hassigned
      cases started with
      | none => exact ⟨rfl, hafter⟩
      | some a =>
        dsimp only
        cases registry.find? a.role with
        | some executor => exact ⟨rfl, hafter⟩
        | none => exact ⟨rfl, complete_failure_congr hafter⟩

/-- The loop dispatches the same and leads to schedulers that are alike, whatever the clock says. -/
theorem oneByOne_congr (s' : Scheduler) (clock' : Nat → Instant) (h : s.undated = s'.undated) :
    (s.oneByOne registry options clock).1 = (s'.oneByOne registry options clock').1 ∧
      (s.oneByOne registry options clock).2.undated =
        (s'.oneByOne registry options clock').2.undated := by
  fun_induction oneByOne s registry options clock generalizing s' clock' with
  | case1 s clock hroom hq =>
    obtain ⟨-, -, hqueue, -, -⟩ := undated_eq_iff.1 h
    rw [oneByOne_of_pop_eq_none (hqueue ▸ hq)]
    exact ⟨rfl, h⟩
  | case2 s clock hroom id q hq taken more s₁ heq ih =>
    obtain ⟨htasks, hindex, hqueue, hfl, hpolicy⟩ := undated_eq_iff.1 h
    have hwith : (s.withQueue q).undated = (s'.withQueue q).undated :=
      undated_eq_iff.2 ⟨htasks, hindex, rfl, hfl, hpolicy⟩
    obtain ⟨hcalls, hafter⟩ : taken.1 = ((s'.withQueue q).takeNext registry clock' id).1 ∧
        taken.2.undated = ((s'.withQueue q).takeNext registry clock' id).2.undated :=
      takeNext_congr hwith
    obtain ⟨hmore, hend⟩ := ih _ (fun n => clock' (n + 2)) hafter
    rw [heq] at hmore hend
    rw [oneByOne_of_pop (hfl ▸ hroom) (hqueue ▸ hq), hcalls, ← hmore]
    exact ⟨rfl, hend⟩
  | case3 s clock hfull =>
    obtain ⟨-, -, -, hfl, -⟩ := undated_eq_iff.1 h
    rw [oneByOne_of_full (hfl ▸ hfull)]
    exact ⟨rfl, h⟩

end

end Scheduler

end Taskweave
