import Taskweave.Proofs.Schedule.Lifecycle
import Taskweave.Run.Coordinator

/-!
# One round starts all that can start

`Scheduler.collect` starts tasks in rounds, because a task whose role has no executor fails at once
and gives its slot back. As long as every task has a role that is bound (`Scheduler.Bound`) no slot
comes back, and a single dispatch into the free slots does it all: it leaves nothing queued, or no
slot free (`Scheduler.Coherent.available_dispatch`), and what it hands out are the calls, each with
the executor of its role (`Scheduler.Coherent.collect_eq`). A second reaction therefore finds
nothing to do (`Scheduler.advance_of_available_eq_zero`). Roles are bound before tasks of them are
taken and stay bound, so `Scheduler.Bound` lasts.
-/

namespace Taskweave

variable {α : Type}

namespace Scheduler

/-- Every task has a role that is bound. -/
def Bound (registry : Registry α) (s : Scheduler) : Prop :=
  ∀ p ∈ outline s.tasks, registry.contains p.role = true

section
variable {options : RunOptions} {s s' : Scheduler} {registry registry' : Registry α}
  {now : Instant} {limit : Option Nat} {id : TaskId} {role : RoleName} {description : String}
  {deps : List TaskId} {t : Task}

/-! ## Roles -/

/-- Roles stay bound when no task is added. -/
theorem Bound.of_outline_eq (h : s.Bound registry) (hout : outline s'.tasks = outline s.tasks) :
    s'.Bound registry := by
  rw [Bound, hout]
  exact h

/-- Roles stay bound when a task of a bound role is added. -/
theorem Bound.accepted (h : s.Bound registry) (hacc : Accepted s now id role description deps t s')
    (hrole : registry.contains role = true) : s'.Bound registry := by
  intro p hp
  rw [hacc.outline_eq, List.mem_append, List.mem_singleton] at hp
  rcases hp with hp | rfl
  · exact h p hp
  · rw [hacc.profile_eq]
    exact hrole

/-- A role that is bound stays bound when another one is bound. -/
theorem contains_of_register {executor : α} {bound : RoleName}
    (h : registry.contains bound = true) (hr : registry.register role executor = .ok registry') :
    registry'.contains bound = true := by
  rw [Registry.register] at hr
  split at hr
  · cases hr
  · cases hr
    rw [Registry.contains, Dict.has] at h ⊢
    rw [Dict.find?_insert]
    split
    · rfl
    · exact h

/-- Roles stay bound when another one is bound. -/
theorem Bound.register {executor : α} (h : s.Bound registry)
    (hr : registry.register role executor = .ok registry') : s.Bound registry' := fun p hp =>
  contains_of_register (h p hp) hr

/-- Tasks of bound roles are all handed over to the executors of their roles. -/
theorem assign_eq {as : List Assignment} (h : ∀ a ∈ as, registry.contains a.role = true) :
    ∃ calls, assign registry now s as = (calls, s) ∧ calls.map (·.assignment) = as ∧
      ∀ call ∈ calls, registry.find? call.assignment.role = some call.executor := by
  induction as with
  | nil => exact ⟨[], rfl, rfl, List.forall_mem_nil _⟩
  | cons a as ih =>
    obtain ⟨calls, hcalls, hmap, hfinds⟩ := ih fun b hb => h b (List.mem_cons_of_mem a hb)
    obtain ⟨executor, hfind⟩ := Option.isSome_iff_exists.1 (h a List.mem_cons_self)
    refine ⟨⟨a, executor⟩ :: calls, ?_, congrArg (a :: ·) hmap, fun call hcall => ?_⟩
    · rw [assign, Registry.find?, hfind]
      dsimp only
      rw [hcalls]
    · rcases List.mem_cons.1 hcall with rfl | hcall
      · exact hfind
      · exact hfinds call hcall

/-- What is handed out has a bound role. -/
theorem Coherent.bound_dispatch (h : s.Coherent) (hb : s.Bound registry) :
    ∀ a ∈ (s.dispatch now limit).1, registry.contains a.role = true := by
  intro a ha
  obtain ⟨x, -, hassign⟩ := h.mem_dispatch.1 ha
  obtain ⟨t, ht, rfl⟩ := assignment?_eq_some hassign
  exact hb t.profile (List.mem_map_of_mem (mem_of_record? ht).1)

/-! ## Slots -/

/-- The number of tasks in flight after a dispatch. -/
theorem Coherent.length_inFlight_dispatch (h : s.Coherent) :
    (s.dispatch now limit).2.inFlight.length = s.inFlight.length + s.queue.available limit := by
  rw [h.inFlight_dispatch, List.length_append, length_taken]

/-- The number of queued tasks after a dispatch. -/
theorem Coherent.size_dispatch (h : s.Coherent) :
    (s.dispatch now limit).2.queue.size = s.queue.size - s.queue.available limit := by
  have hqueue : (s.dispatch now limit).2.queue = (s.queue.drain limit).2 := by
    rw [h.dispatch_snd]
    rfl
  rw [hqueue, ReadyQueue.size, ReadyQueue.order_drain, List.length_drop]
  rfl

/-- A dispatch into the free slots takes no more than there are. -/
theorem Coherent.capacity_dispatch {m : Nat} (h : s.Coherent)
    (hm : options.maxConcurrency = some m) (hfl : s.inFlight.length ≤ m) :
    (s.dispatch now (options.slots s.inFlight.length)).2.inFlight.length ≤ m := by
  rw [h.length_inFlight_dispatch, RunOptions.slots, hm, ReadyQueue.available]
  simp only [Option.map_some, Option.getD_some]
  omega

/-- A dispatch into the free slots leaves nothing queued, or no slot free. -/
theorem Coherent.available_dispatch (h : s.Coherent) :
    (s.dispatch now (options.slots s.inFlight.length)).2.queue.available
      (options.slots (s.dispatch now (options.slots s.inFlight.length)).2.inFlight.length) = 0 := by
  rw [h.length_inFlight_dispatch, ReadyQueue.available, h.size_dispatch, ReadyQueue.available]
  cases hm : options.maxConcurrency with
  | none =>
    simp only [RunOptions.slots, hm, Option.map_none, Option.getD_none]
    omega
  | some m =>
    simp only [RunOptions.slots, hm, Option.map_some, Option.getD_some]
    omega

/-- When there is nothing to take, nothing is queued or every slot is taken. -/
theorem queued_eq_nil_or_of_available
    (hnone : s.queue.available (options.slots s.inFlight.length) = 0)
    (hcap : ∀ m, options.maxConcurrency = some m → s.inFlight.length ≤ m) :
    s.queued = [] ∨ options.maxConcurrency = some s.inFlight.length := by
  rw [ReadyQueue.available] at hnone
  cases hm : options.maxConcurrency with
  | none =>
    rw [RunOptions.slots, hm, Option.map_none, Option.getD_none, Nat.min_self] at hnone
    exact .inl (List.length_eq_zero_iff.1 hnone)
  | some m =>
    have hle := hcap m hm
    rw [RunOptions.slots, hm, Option.map_some, Option.getD_some] at hnone
    by_cases hq : s.queue.size = 0
    · exact .inl (List.length_eq_zero_iff.1 hq)
    · exact .inr (congrArg some (by omega))

/-! ## Rounds -/

/-- When there is nothing to take, nothing is started. -/
theorem collect_of_available_eq_zero
    (hnone : s.queue.available (options.slots s.inFlight.length) = 0) :
    s.collect registry options now = ([], s) := by
  rw [collect]
  split
  · rfl
  · rw [dispatch_of_available_eq_zero hnone]
    rfl

/-- While roles are bound, what can start is what one dispatch into the free slots hands out. -/
theorem Coherent.collect_eq (h : s.Coherent) (hb : s.Bound registry) (options : RunOptions)
    (now : Instant) :
    ∃ calls, s.collect registry options now =
        (calls, (s.dispatch now (options.slots s.inFlight.length)).2) ∧
      calls.map (·.assignment) = (s.dispatch now (options.slots s.inFlight.length)).1 ∧
      ∀ call ∈ calls, registry.find? call.assignment.role = some call.executor := by
  rw [collect]
  split
  · next hslots =>
    have hnone : s.queue.available (options.slots s.inFlight.length) = 0 := by
      rw [hslots, ReadyQueue.available]
      exact Nat.zero_min _
    rw [dispatch_of_available_eq_zero hnone]
    exact ⟨[], rfl, rfl, List.forall_mem_nil _⟩
  · dsimp only
    split
    · next hnil => exact ⟨[], rfl, hnil.symm, List.forall_mem_nil _⟩
    · obtain ⟨calls, hassigned, hmap, hfinds⟩ := assign_eq (h.bound_dispatch hb)
      rw [hassigned]
      dsimp only
      rw [collect_of_available_eq_zero h.available_dispatch, List.append_nil]
      exact ⟨calls, rfl, hmap, hfinds⟩

/-! ## Reactions -/

/-- A reaction asks to exit when it leaves the scheduler at rest. -/
theorem exit_mem_advance :
    .exit ∈ (s.advance registry options now).1.commands ↔
      (s.advance registry options now).2.isQuiescent = true := by
  have hstart : Command.exit ∉ (if (s.collect registry options now).1.isEmpty then []
      else [Command.dispatch (s.collect registry options now).1]) := by
    split <;> simp
  have hstop : Command.exit ∈ (if (s.collect registry options now).2.isQuiescent then
      [(Command.exit : Command α)] else []) ↔
        (s.collect registry options now).2.isQuiescent = true := by
    split <;> simp [*]
  rw [advance]
  dsimp only
  rw [List.mem_append, hstop]
  exact ⟨fun hor => hor.resolve_left hstart, .inr⟩

/-- When there is nothing to take, a reaction changes nothing and starts nothing. -/
theorem advance_of_available_eq_zero (registry : Registry α) (now : Instant)
    (hnone : s.queue.available (options.slots s.inFlight.length) = 0) :
    (s.advance registry options now).2 = s ∧
      ∀ tasks, .dispatch tasks ∉ (s.advance registry options now).1.commands := by
  rw [advance, collect_of_available_eq_zero hnone]
  refine ⟨rfl, fun tasks hmem => ?_⟩
  have hstop : Command.dispatch tasks ∈ (if s.isQuiescent then
      [(Command.exit : Command α)] else []) := hmem
  split at hstop
  · cases List.mem_singleton.1 hstop
  · cases hstop

end

end Scheduler

namespace Orchestrator

section
variable {o o' : Orchestrator α} {now : Instant} {id : TaskId} {role : RoleName}
  {description : String} {deps : List TaskId} {t : Task}

/-- What binding a role changes. -/
theorem register_eq_ok {executor : α} (hr : o.register role executor = .ok o') :
    ∃ registry, o.registry.register role executor = .ok registry ∧
      o' = { o with registry := registry } := by
  rw [Orchestrator.register] at hr
  cases hreg : o.registry.register role executor with
  | error e =>
    rw [hreg] at hr
    cases hr
  | ok registry =>
    rw [hreg] at hr
    cases hr
    exact ⟨registry, rfl, rfl⟩

/-- What a submission needs, and what it changes. -/
theorem submit_eq_ok (hs : o.submit now id role description deps = .ok (t, o')) :
    o.registry.contains role = true ∧ ∃ s',
      o.scheduler.submit now id role description deps = .ok (t, s') ∧
        o' = { o with scheduler := s' } := by
  rw [Orchestrator.submit] at hs
  cases hrole : o.registry.contains role with
  | false =>
    rw [hrole] at hs
    cases hs
  | true =>
    rw [hrole] at hs
    cases hsub : o.scheduler.submit now id role description deps with
    | error e =>
      rw [hsub] at hs
      cases hs
    | ok r =>
      rw [hsub] at hs
      cases hs
      exact ⟨rfl, r.2, rfl, rfl⟩

end

end Orchestrator

namespace Coordinator

/-- What a reaction starts are the calls of its dispatches. -/
theorem flatMap_started_advance {s : Scheduler} {registry : Registry α} {options : RunOptions}
    {now : Instant} :
    (s.advance registry options now).1.commands.flatMap started =
      (s.collect registry options now).1 := by
  rw [Scheduler.advance]
  dsimp only
  rw [List.flatMap_append]
  have hstop : (if (s.collect registry options now).2.isQuiescent = true then
      [(Command.exit : Command α)] else []).flatMap started = [] := by
    split <;> rfl
  rw [hstop, List.append_nil]
  split
  · next hnil => exact (List.isEmpty_iff.1 hnil).symm
  · exact List.append_nil _

end Coordinator

end Taskweave
