import Mathlib.Logic.Relation
import Taskweave.Proofs.Run.OneByOne

/-!
# Filling the free slots, moment by moment

`Scheduler.collect` answers what comes of its rounds. `Filling` is where they stand in between, and
`Filling.Next` the next thing that happens: a batch is taken off the queue, a task of it is started,
or paired with its executor, or fails for want of one. Whatever the limit and the registry are, what
is left to do shrinks with every step (`Filling.Next.left_lt`), so the rounds end, and they end with
what `Scheduler.collect` answers (`Filling.collect_steps`). A batch is not larger than the number of
free slots, which bounds the tasks in flight at every moment (`Filling.Within.steps`).
`performAll_fillsOneByOne` adds that for every run the rounds come to what starting the tasks one by
one does.
-/

namespace Taskweave

open Scheduler

variable {α : Type}

/-- Where the rounds of `Scheduler.collect` stand: the calls that have been found and the scheduler,
and what is left of a batch. -/
inductive Filling (α : Type) where
  /-- The free slots are counted next. -/
  | counting (calls : List (Dispatch α)) (s : Scheduler)
  /-- The tasks `ids` are started next, the others of the batch are `started`. -/
  | starting (calls : List (Dispatch α)) (ids : List TaskId) (started : List Assignment)
      (s : Scheduler)
  /-- The tasks `started` are paired with executors next. -/
  | pairing (calls : List (Dispatch α)) (started : List Assignment) (s : Scheduler)

namespace Filling

/-- The calls that have been found. -/
def calls : Filling α → List (Dispatch α)
  | .counting calls _ | .starting calls _ _ _ | .pairing calls _ _ => calls

/-- The scheduler at this moment. -/
def scheduler : Filling α → Scheduler
  | .counting _ s | .starting _ _ _ s | .pairing _ _ s => s

/-- One step of the rounds. When no slot is free, or a batch has started nothing, the rounds are
over. -/
inductive Next (registry : Registry α) (options : RunOptions) (now : Instant) :
    Filling α → Filling α → Prop where
  /-- A batch is taken off the queue. -/
  | take {calls : List (Dispatch α)} {s : Scheduler} :
      options.slots s.inFlight.length ≠ some 0 →
      Next registry options now (.counting calls s)
        (.starting calls (s.queue.drain (options.slots s.inFlight.length)).1 []
          (s.withQueue (s.queue.drain (options.slots s.inFlight.length)).2))
  | start {calls : List (Dispatch α)} {id : TaskId} {ids : List TaskId}
      {started : List Assignment} {s : Scheduler} :
      Next registry options now (.starting calls (id :: ids) started s)
        (.starting calls ids (started ++ (s.startTask now id).1.toList) (s.startTask now id).2)
  /-- The batch has been started. -/
  | close {calls : List (Dispatch α)} {a : Assignment} {started : List Assignment}
      {s : Scheduler} :
      Next registry options now (.starting calls [] (a :: started) s)
        (.pairing calls (a :: started) s)
  | bound {calls : List (Dispatch α)} {a : Assignment} {started : List Assignment}
      {s : Scheduler} {executor : α} : registry.find? a.role = some executor →
      Next registry options now (.pairing calls (a :: started) s)
        (.pairing (calls ++ [⟨a, executor⟩]) started s)
  | unbound {calls : List (Dispatch α)} {a : Assignment} {started : List Assignment}
      {s : Scheduler} : registry.find? a.role = none →
      Next registry options now (.pairing calls (a :: started) s)
        (.pairing calls started
          (s.complete now a.id (.failure (ExecutorError.unbound a.role).message)).2)
  /-- The batch has been paired. -/
  | again {calls : List (Dispatch α)} {s : Scheduler} :
      Next registry options now (.pairing calls [] s) (.counting calls s)

/-- What is left to do: a queued task may still have to be counted, taken, started and paired. -/
def left : Filling α → Nat
  | .counting _ s => 5 * s.queue.size + 1
  | .starting _ ids started s => 5 * s.queue.size + 5 * ids.length + 4 * started.length
  | .pairing _ started s => 5 * s.queue.size + started.length + 2

/-- At most `limit` tasks are in flight, those of a batch that are still to be started included. -/
def Within (limit : Nat) : Filling α → Prop
  | .counting _ s | .pairing _ _ s => s.inFlight.length ≤ limit
  | .starting _ ids _ s => s.inFlight.length + ids.length ≤ limit

section
variable {registry : Registry α} {options : RunOptions} {now : Instant} {a b : Filling α}
  {limit m : Nat} {s : Scheduler} {found : List (Dispatch α)} {id : TaskId} {outcome : Outcome}

/-! ## Termination -/

/-- There is one way to go on. -/
theorem Next.eq {c : Filling α} (h : Next registry options now a b)
    (h' : Next registry options now a c) : b = c := by
  cases h with
  | take | start | close | again =>
    cases h'
    rfl
  | bound hfind =>
    cases h' with
    | bound hfind' =>
      rw [hfind] at hfind'
      cases hfind'
      rfl
    | unbound hfind' =>
      rw [hfind] at hfind'
      cases hfind'
  | unbound hfind =>
    cases h' with
    | bound hfind' =>
      rw [hfind] at hfind'
      cases hfind'
    | unbound => rfl

/-- Every step leaves less to do. -/
theorem Next.left_lt (h : Next registry options now a b) : b.left < a.left := by
  cases h with
  | @take calls s _ =>
    have htaken : (s.queue.drain (options.slots s.inFlight.length)).1.length +
        (s.queue.drain (options.slots s.inFlight.length)).2.size = s.queue.size := by
      rw [ReadyQueue.size, ReadyQueue.size, ReadyQueue.drain_fst, ReadyQueue.order_drain,
        ← List.length_append, List.take_append_drop]
    simp only [left, withQueue, List.length_nil]
    omega
  | @start calls id ids started s =>
    have hle : (s.startTask now id).1.toList.length ≤ 1 := Option.length_toList_le
    simp only [left, queue_startTask, List.length_append, List.length_cons]
    omega
  | close =>
    simp only [left, List.length_cons, List.length_nil]
    omega
  | bound =>
    simp only [left, List.length_cons]
    omega
  | unbound =>
    simp only [left, queue_complete_failure, List.length_cons]
    omega
  | again =>
    simp only [left, List.length_nil]
    omega

/-- The rounds do not go on for ever. -/
theorem wellFounded_next (registry : Registry α) (options : RunOptions) (now : Instant) :
    WellFounded fun b a => Next registry options now a b :=
  Subrelation.wf Next.left_lt (measure left).wf

/-! ## The rounds -/

/-- The tasks of a batch are started one after the other. -/
theorem startAll_steps (ids : List TaskId) (started : List Assignment) (s : Scheduler) :
    Relation.ReflTransGen (Next registry options now) (.starting found ids started s)
      (.starting found [] (started ++ (s.startAll now ids).1) (s.startAll now ids).2) := by
  induction ids generalizing started s with
  | nil =>
    rw [startAll, List.append_nil]
  | cons id ids ih =>
    have hrest := ih (started ++ (s.startTask now id).1.toList) (s.startTask now id).2
    rw [List.append_assoc] at hrest
    exact .head .start hrest

/-- The tasks of a batch are paired one after the other. -/
theorem assign_steps (started : List Assignment) (found : List (Dispatch α)) (s : Scheduler) :
    Relation.ReflTransGen (Next registry options now) (.pairing found started s)
      (.pairing (found ++ (assign registry now s started).1) []
        (assign registry now s started).2) := by
  induction started generalizing found s with
  | nil =>
    rw [assign, List.append_nil]
  | cons a started ih =>
    rw [assign]
    cases hfind : registry.find? a.role with
    | some executor =>
      have hrest := ih (found ++ [⟨a, executor⟩]) s
      rw [List.append_assoc] at hrest
      exact .head (.bound hfind) hrest
    | none => exact .head (.unbound hfind) (ih found _)

/-- A round starts what a dispatch into the free slots hands out. -/
theorem dispatch_steps (found : List (Dispatch α)) (registry : Registry α) (now : Instant)
    (hslots : options.slots s.inFlight.length ≠ some 0) :
    Relation.ReflTransGen (Next registry options now) (.counting found s)
      (.starting found [] (s.dispatch now (options.slots s.inFlight.length)).1
        (s.dispatch now (options.slots s.inFlight.length)).2) :=
  .head (.take hslots) (startAll_steps _ [] _)

/-- The rounds end with what `Scheduler.collect` answers. -/
theorem collect_steps (found : List (Dispatch α)) (s : Scheduler) (registry : Registry α)
    (options : RunOptions) (now : Instant) :
    ∃ last, Relation.ReflTransGen (Next registry options now) (.counting found s) last ∧
      (∀ b, ¬Next registry options now last b) ∧
      last.calls = found ++ (s.collect registry options now).1 ∧
      last.scheduler = (s.collect registry options now).2 := by
  fun_induction collect s registry options now generalizing found with
  | case1 s hslots =>
    refine ⟨_, .refl, fun b hb => ?_, (List.append_nil found).symm, rfl⟩
    cases hb with
    | take hfree => exact hfree hslots
  | case2 s hslots started hnil =>
    have hsteps := dispatch_steps found registry now hslots
    rw [hnil] at hsteps
    refine ⟨_, hsteps, fun b hb => ?_, (List.append_nil found).symm, rfl⟩
    cases hb
  | case3 s hslots started hne assigned more s' heq ih =>
    obtain ⟨last, hlast, hend, hcalls, hscheduler⟩ := ih (found ++ assigned.1)
    have hbatch := dispatch_steps found registry now hslots
    have hpairing : Relation.ReflTransGen (Next registry options now)
        (.pairing found started.1 started.2) (.pairing (found ++ assigned.1) [] assigned.2) :=
      assign_steps started.1 found started.2
    have hclose : Next registry options now (.starting found [] started.1 started.2)
        (.pairing found started.1 started.2) := by
      cases hs : started.1 with
      | nil => exact absurd hs hne
      | cons a as => exact .close
    refine ⟨last, ((hbatch.tail hclose).trans (hpairing.tail .again)).trans hlast, hend, ?_, ?_⟩
    · rw [hcalls, heq, List.append_assoc]
    · rw [hscheduler, heq]

/-! ## Capacity -/

/-- Starting a task puts one more in flight at most. -/
theorem length_inFlight_startTask_le :
    (s.startTask now id).2.inFlight.length ≤ s.inFlight.length + 1 := by
  unfold startTask
  split
  · exact Nat.le_succ _
  · split
    · exact Nat.le_succ _
    · exact Nat.le_of_eq List.length_append

/-- A failure puts no task in flight. -/
theorem length_inFlight_complete_le {error : String} :
    (s.complete now id (.failure error)).2.inFlight.length ≤ s.inFlight.length := by
  by_cases hfl : id ∈ s.inFlight
  · have hle : (s.inFlight.filter (· != id)).length ≤ s.inFlight.length :=
      List.length_filter_le _ _
    cases hhas : s.has id with
    | false =>
      rw [complete_of_not_has hfl hhas]
      exact hle
    | true =>
      cases hp : s.policy with
      | block =>
        rw [complete_failure_block hfl hhas hp]
        exact hle
      | cascade =>
        rw [complete_failure_cascade hfl hhas hp]
        exact hle
  · rw [complete_of_not_mem hfl]

/-- A step keeps to the limit. -/
theorem Within.next (h : a.Within limit) (hm : options.maxConcurrency = some m) (hle : m ≤ limit)
    (hn : Next registry options now a b) : b.Within limit := by
  cases hn with
  | @take calls s hslots =>
    have hfl : s.inFlight.length ≤ limit := h
    have hfree : s.queue.available (options.slots s.inFlight.length) ≤ m - s.inFlight.length := by
      rw [RunOptions.slots, hm]
      exact Nat.min_le_left _ _
    show s.inFlight.length + (s.queue.drain (options.slots s.inFlight.length)).1.length ≤ limit
    rw [ReadyQueue.drain_fst, List.length_take]
    omega
  | @start calls id ids started s =>
    have hfl : s.inFlight.length + (ids.length + 1) ≤ limit := h
    have hone : (s.startTask now id).2.inFlight.length ≤ s.inFlight.length + 1 :=
      length_inFlight_startTask_le
    show (s.startTask now id).2.inFlight.length + ids.length ≤ limit
    omega
  | close => exact h
  | bound => exact h
  | unbound => exact Nat.le_trans length_inFlight_complete_le h
  | again => exact h

/-- The limit bounds the tasks in flight. -/
theorem Within.length_le (h : a.Within limit) : a.scheduler.inFlight.length ≤ limit := by
  cases a with
  | counting | pairing => exact h
  | starting => exact Nat.le_of_add_right_le h

/-- At no moment are more tasks in flight than the limit allows, or than there were. -/
theorem Within.steps (hm : options.maxConcurrency = some m)
    (h : Relation.ReflTransGen (Next registry options now) (.counting found s) a) :
    a.Within (max m s.inFlight.length) := by
  induction h with
  | refl => exact Nat.le_max_right _ _
  | tail _ hn ih => exact ih.next hm (Nat.le_max_left _ _) hn

end

end Filling

namespace Scheduler

/-- What the reaction `answer`, which starts in `s` what can start, has to do with starting the
tasks one by one. -/
structure FillsOneByOne (s : Scheduler) (registry : Registry α) (options : RunOptions)
    (now : Instant) (answer : Reaction α × Scheduler) : Prop where
  /-- The calls are those of the loop, whatever its clock says. -/
  calls_eq : ∀ clock, answer.1.commands.flatMap Coordinator.started =
    (s.oneByOne registry options clock).1
  /-- So is the scheduler, apart from the dates. -/
  undated_eq : ∀ clock, answer.2.undated = (s.oneByOne registry options clock).2.undated
  /-- Nor do the dates differ if the clock stands still. -/
  scheduler_eq : answer.2 = (s.oneByOne registry options fun _ => now).2
  terminates : WellFounded fun b a => Filling.Next registry options now a b
  deterministic : ∀ a b c, Filling.Next registry options now a b →
    Filling.Next registry options now a c → b = c
  /-- The rounds come to an end with the answer. -/
  ends : ∃ last, Relation.ReflTransGen (Filling.Next registry options now) (.counting [] s) last ∧
    (∀ b, ¬Filling.Next registry options now last b) ∧
    last.calls = answer.1.commands.flatMap Coordinator.started ∧ last.scheduler = answer.2
  capacity : ∀ m, options.maxConcurrency = some m → ∀ moment,
    Relation.ReflTransGen (Filling.Next registry options now) (.counting [] s) moment →
      moment.scheduler.inFlight.length ≤ max m s.inFlight.length
  /-- What is dispatched is in flight in the end. -/
  running : ∀ call ∈ answer.1.commands.flatMap Coordinator.started,
    answer.2.status? call.assignment.id = some .inProgress

/-- A reaction starts what starting the tasks one by one does. -/
theorem Coherent.fillsOneByOne {s : Scheduler} (h : s.Coherent) (registry : Registry α)
    (options : RunOptions) (now : Instant) :
    s.FillsOneByOne registry options now (s.advance registry options now) := by
  have hcollect := h.collect_eq_oneByOne registry options now
  have hcalls : (s.advance registry options now).1.commands.flatMap Coordinator.started =
      (s.collect registry options now).1 := Coordinator.flatMap_started_advance
  have hafter : (s.advance registry options now).2 = (s.collect registry options now).2 := rfl
  obtain ⟨last, hlast, hend, hfound, hscheduler⟩ :=
    Filling.collect_steps [] s registry options now
  obtain ⟨hcoherent, hfl⟩ := h.inFlight_oneByOne registry options fun _ => now
  refine ⟨fun clock => ?_, fun clock => ?_, ?_, Filling.wellFounded_next registry options now,
    fun a b c => Filling.Next.eq, ⟨last, hlast, hend, ?_, hscheduler⟩,
    fun m hm moment hmoment => (Filling.Within.steps hm hmoment).length_le, fun call hcall => ?_⟩
  · rw [hcalls, hcollect]
    exact (oneByOne_congr s clock rfl).1
  · rw [hafter, hcollect]
    exact (oneByOne_congr s clock rfl).2
  · rw [hafter, hcollect]
  · rw [hcalls, hfound, List.nil_append]
  · rw [hcalls, hcollect] at hcall
    rw [hafter, hcollect, ← hcoherent.mem_inFlight, hfl]
    exact List.mem_append_right _ (List.mem_map_of_mem hcall)

end Scheduler

/-- Whatever is asked of a scheduler without tasks, whichever roles have executors and whatever the
limit is: a reaction starts what the loop that takes the tasks one by one does, as `FillsOneByOne`
says. -/
theorem performAll_fillsOneByOne (policy : FailurePolicy) (ops : List Operation)
    (registry : Registry α) (options : RunOptions) (now : Instant) :
    ((Scheduler.new policy).performAll ops).FillsOneByOne registry options now
      (((Scheduler.new policy).performAll ops).advance registry options now) :=
  (coherent_performAll policy ops).fillsOneByOne registry options now

end Taskweave
