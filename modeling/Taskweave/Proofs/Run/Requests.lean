import Taskweave.Proofs.Run.Saturation
import Taskweave.Proofs.Schedule.Failures

/-!
# An orchestrator leaves no slot free in vain

Roles are bound, tasks are submitted, and the orchestrator is asked what to do next, in any order
and with whatever events: an outcome may be for a task that is not in flight, or not known at all. A
`Orchestrator.Request` is one of these. An orchestrator reacts in two steps: it puts the event on
record (`Orchestrator.noted`), which frees a slot at most, and then starts what can start, which is
one dispatch into the free slots. `Orchestrator.Reacts` says what a caller can rely on in a single
reaction, `Orchestrator.Conserves` in an orchestrator; `Orchestrator.Tended` is the invariant.
-/

namespace Taskweave

open Scheduler

variable {α : Type}

namespace Orchestrator

/-- What can be asked of an orchestrator. -/
inductive Request (α : Type) where
  | register (role : RoleName) (executor : α)
  | submit (now : Instant) (id : TaskId) (role : RoleName) (description : String)
      (dependencies : List TaskId)
  | poll (now : Instant)
  | handle (now : Instant) (e : Event)

/-- The orchestrator after a request; one that is refused changes nothing. -/
def perform (o : Orchestrator α) : Request α → Orchestrator α
  | .register role executor =>
    match o.register role executor with
    | .ok o' => o'
    | .error _ => o
  | .submit now id role description dependencies =>
    match o.submit now id role description dependencies with
    | .ok (_, o') => o'
    | .error _ => o
  | .poll now => (o.poll now).2
  | .handle now e => (o.handle now e).2

/-- The orchestrator after a sequence of requests. -/
def performAll (o : Orchestrator α) (requests : List (Request α)) : Orchestrator α :=
  requests.foldl perform o

/-- The scheduler once an event is on record, before anything is started. -/
def noted (o : Orchestrator α) (now : Instant) : Event → Scheduler
  | .submitted _ => o.scheduler
  | .completed id outcome => (o.scheduler.complete now id outcome).2

/-- The tasks that a reaction asks to start. -/
def calls (r : Reaction α) : List (Dispatch α) := r.commands.flatMap Coordinator.started

/-- A reaction of `o`, whose scheduler is `noted` once the event is on record. -/
structure Reacts (o : Orchestrator α) (noted : Scheduler)
    (answer : Reaction α × Orchestrator α) : Prop where
  /-- Nothing is queued, or every slot is taken. -/
  saturated : answer.2.scheduler.queued = [] ∨
    o.options.maxConcurrency = some answer.2.scheduler.inFlight.length
  /-- Asked once more, the orchestrator changes nothing and starts nothing. -/
  settled : ∀ now, (answer.2.poll now).2 = answer.2 ∧
    ∀ tasks, .dispatch tasks ∉ (answer.2.poll now).1.commands
  stops_iff : answer.1.keepRunning = false ↔ answer.2.scheduler.isQuiescent = true
  exits_iff : .exit ∈ answer.1.commands ↔ answer.2.scheduler.isQuiescent = true
  /-- The run does not wait while nothing executes. -/
  active : answer.1.keepRunning = true → answer.2.scheduler.inFlight ≠ []
  calls_nodup : ((calls answer.1).map (·.assignment.id)).Nodup
  /-- The tasks to start are those that are in progress since this reaction. -/
  mem_calls_iff : ∀ id, id ∈ (calls answer.1).map (·.assignment.id) ↔
    answer.2.scheduler.status? id = some .inProgress ∧
      o.scheduler.status? id ≠ some .inProgress
  /-- A task is started with the executor of its role. -/
  executor_eq : ∀ call ∈ calls answer.1, ∃ t,
    answer.2.scheduler.task? call.assignment.id = some t ∧
      o.registry.find? t.role = some call.executor
  /-- No task fails for want of an executor, nor otherwise but by the event. -/
  failed_iff : ∀ id, answer.2.scheduler.status? id = some .failed ↔
    noted.status? id = some .failed

/-- No slot of an orchestrator is left free in vain, whatever it is asked next. -/
structure Conserves (options : RunOptions) (o : Orchestrator α) : Prop where
  options_eq : o.options = options
  capacity : ∀ m, options.maxConcurrency = some m → o.scheduler.inFlight.length ≤ m
  bound : ∀ id t, o.scheduler.task? id = some t → o.registry.contains t.role = true
  poll : ∀ now, o.Reacts o.scheduler (o.poll now)
  handle : ∀ now e, o.Reacts (o.noted now e) (o.handle now e)

/-! ## Reactions -/

/-- An orchestrator whose tasks can all be run, and of which no more run than may. -/
structure Tended (options : RunOptions) (o : Orchestrator α) : Prop where
  options_eq : o.options = options
  positive : options.maxConcurrency ≠ some 0
  coherent : o.scheduler.Coherent
  bound : o.scheduler.Bound o.registry
  capacity : ∀ m, options.maxConcurrency = some m → o.scheduler.inFlight.length ≤ m

/-- From `s` to `s'` nothing happens but that tasks in progress end. -/
structure OnlyEnds (s s' : Scheduler) : Prop where
  coherent : s'.Coherent
  outline_eq : outline s'.tasks = outline s.tasks
  inFlight_sublist : s'.inFlight.Sublist s.inFlight
  /-- No task in progress goes back to wait. -/
  not_pending : ∀ {id}, s.status? id = some .inProgress → s'.status? id ≠ some .pending

section
variable {options : RunOptions} {o o' : Orchestrator α} {s s' : Scheduler} {now : Instant}
  {limit : Option Nat} {e : Event} {id : TaskId}

/-- An event does nothing to the record but that a task in progress may end. -/
theorem onlyEnds_noted (h : o.scheduler.Coherent) (now : Instant) (e : Event) :
    OnlyEnds o.scheduler (o.noted now e) := by
  cases e with
  | submitted id =>
    refine ⟨h, rfl, List.Sublist.refl _, fun {id} hrun hp => ?_⟩
    rw [noted, hrun] at hp
    cases hp
  | completed x outcome =>
    have hends := h.ends now x outcome
    refine ⟨hends.coherent h, hends.outline_eq, ?_, fun {id} hrun hp => ?_⟩
    · rw [noted, hends.inFlight_eq]
      exact List.filter_sublist
    · obtain ⟨t, ht, hst⟩ := exists_task?_of_status? hrun
      obtain ⟨t', ht', hmove⟩ := hends.move h ht
      have hst' : t'.status = .pending := status_of_status? ht' hp
      rcases hmove.leads with rfl | hleads
      · rw [hst] at hst'
        cases hst'
      · rw [hst, hst'] at hleads
        cases hleads

/-- What a dispatch takes off the queue after an event is what is in progress since then. -/
theorem OnlyEnds.mem_taken_iff (h : OnlyEnds s s') (hs : s.Coherent) :
    id ∈ s'.taken limit ↔ (s'.dispatch now limit).2.status? id = some .inProgress ∧
      s.status? id ≠ some .inProgress := by
  rw [h.coherent.status?_dispatch]
  constructor
  · intro hid
    rw [if_pos hid]
    exact ⟨rfl, fun hrun => h.not_pending hrun (h.coherent.startable.2 id hid).1⟩
  · rintro ⟨hst, hnot⟩
    by_contra hid
    rw [if_neg hid, ← h.coherent.mem_inFlight] at hst
    exact hnot ((hs.mem_inFlight id).1 (h.inFlight_sublist.subset hst))

/-- After an event, what is started is what one dispatch into the free slots hands out. -/
theorem Tended.advance_eq (h : Tended options o) (he : OnlyEnds o.scheduler s') (now : Instant) :
    (s'.advance o.registry o.options now).2 =
        (s'.dispatch now (o.options.slots s'.inFlight.length)).2 ∧
      (calls (s'.advance o.registry o.options now).1).map (·.assignment) =
        (s'.dispatch now (o.options.slots s'.inFlight.length)).1 ∧
      ∀ call ∈ calls (s'.advance o.registry o.options now).1,
        o.registry.find? call.assignment.role = some call.executor := by
  obtain ⟨tasks, hcollect, htasks, hfinds⟩ :=
    he.coherent.collect_eq (h.bound.of_outline_eq he.outline_eq) o.options now
  have hcalls : calls (s'.advance o.registry o.options now).1 = tasks := by
    rw [calls, Coordinator.flatMap_started_advance, hcollect]
  have hscheduler : (s'.advance o.registry o.options now).2 =
      (s'.collect o.registry o.options now).2 := rfl
  rw [hcalls, hscheduler, hcollect]
  exact ⟨rfl, htasks, hfinds⟩

/-- After an event, the tasks to start are those that one dispatch takes off the queue. -/
theorem Tended.map_id_calls (h : Tended options o) (he : OnlyEnds o.scheduler s')
    (now : Instant) :
    (calls (s'.advance o.registry o.options now).1).map (·.assignment.id) =
      s'.taken (o.options.slots s'.inFlight.length) := by
  obtain ⟨-, htasks, -⟩ := h.advance_eq he now
  have hids := congrArg (List.map (·.id)) htasks
  rw [List.map_map, he.coherent.map_id_dispatch] at hids
  exact hids

/-- After an event, a task is started with the executor of its role. -/
theorem Tended.find?_role (h : Tended options o) (he : OnlyEnds o.scheduler s') {call : Dispatch α}
    (hcall : call ∈ calls (s'.advance o.registry o.options now).1) :
    ∃ t, (s'.advance o.registry o.options now).2.task? call.assignment.id = some t ∧
      o.registry.find? t.role = some call.executor := by
  obtain ⟨hscheduler, htasks, hfinds⟩ := h.advance_eq he now
  have hmem : call.assignment ∈ (s'.dispatch now (o.options.slots s'.inFlight.length)).1 := by
    rw [← htasks]
    exact List.mem_map_of_mem hcall
  obtain ⟨x, hx, hassign⟩ := he.coherent.mem_dispatch.1 hmem
  obtain ⟨t, ht, heq⟩ := assignment?_eq_some hassign
  have hfind := hfinds call hcall
  rw [heq] at hfind ⊢
  refine ⟨t.start now, ?_, hfind⟩
  rw [hscheduler, he.coherent.dispatch_snd, task?_started he.coherent.startable.1, if_pos hx]
  exact congrArg (Option.map (Task.start now)) ht

/-- After an event, no more tasks run than may. -/
theorem Tended.capacity_advance (h : Tended options o) (he : OnlyEnds o.scheduler s')
    (now : Instant) {m : Nat} (hm : options.maxConcurrency = some m) :
    (s'.advance o.registry o.options now).2.inFlight.length ≤ m := by
  rw [(h.advance_eq he now).1]
  have hle : s'.inFlight.length ≤ m := he.inFlight_sublist.length_le.trans (h.capacity m hm)
  exact he.coherent.capacity_dispatch (by rw [h.options_eq, hm]) hle

/-- Starting what can start after an event leaves nothing to take. -/
theorem Tended.available_advance (h : Tended options o) (he : OnlyEnds o.scheduler s')
    (now : Instant) : (s'.advance o.registry o.options now).2.queue.available
      (o.options.slots (s'.advance o.registry o.options now).2.inFlight.length) = 0 := by
  rw [(h.advance_eq he now).1]
  exact he.coherent.available_dispatch

/-- An orchestrator that is tended reacts to an event as `Reacts` says. -/
theorem Tended.reacts (h : Tended options o) (he : OnlyEnds o.scheduler s') (now : Instant) :
    o.Reacts s' ((s'.advance o.registry o.options now).1,
      { o with scheduler := (s'.advance o.registry o.options now).2 }) := by
  have hscheduler := (h.advance_eq he now).1
  have hnone := h.available_advance he now
  have hids := h.map_id_calls he now
  have hsat := queued_eq_nil_or_of_available hnone fun m hm =>
    h.capacity_advance he now (h.options_eq ▸ hm)
  have hgoes : (s'.advance o.registry o.options now).1.keepRunning =
      !(s'.advance o.registry o.options now).2.isQuiescent := rfl
  refine ⟨hsat, fun now' => ?_, ?_, exit_mem_advance, fun hrun hfl => ?_, ?_, fun id => ?_,
    fun call hcall => h.find?_role he hcall, fun id => ?_⟩
  · obtain ⟨hsame, hquiet⟩ := advance_of_available_eq_zero o.registry now' hnone
    refine ⟨?_, hquiet⟩
    rw [poll]
    dsimp only
    rw [hsame]
  · rw [hgoes, Bool.not_eq_false']
  · -- With nothing in flight, a full orchestrator would have a limit of zero.
    rw [hgoes, Bool.not_eq_true'] at hrun
    rcases hsat with hqueue | hfull
    · rw [isQuiescent_eq_true.2 ⟨hqueue, hfl⟩] at hrun
      cases hrun
    · rw [hfl, h.options_eq] at hfull
      exact h.positive hfull
  · rw [hids]
    exact he.coherent.startable.1
  · rw [hids, hscheduler]
    exact he.mem_taken_iff h.coherent
  · rw [hscheduler]
    exact he.coherent.failed_dispatch_iff

/-! ## Sequences of requests -/

/-- An orchestrator stays tended when it reacts to an event. -/
theorem Tended.advance (h : Tended options o) (he : OnlyEnds o.scheduler s') (now : Instant) :
    Tended options { o with scheduler := (s'.advance o.registry o.options now).2 } where
  options_eq := h.options_eq
  positive := h.positive
  coherent := by
    rw [(h.advance_eq he now).1]
    exact he.coherent.dispatched now _
  bound := by
    have hbound := h.bound.of_outline_eq he.outline_eq
    refine hbound.of_outline_eq ?_
    rw [(h.advance_eq he now).1]
    exact he.coherent.outline_dispatch
  capacity _ hm := h.capacity_advance he now hm

/-- An orchestrator stays tended when another role is bound. -/
theorem Tended.register {role : RoleName} {executor : α} (h : Tended options o)
    (hr : o.register role executor = .ok o') : Tended options o' := by
  obtain ⟨registry, hreg, rfl⟩ := register_eq_ok hr
  exact ⟨h.options_eq, h.positive, h.coherent, h.bound.register hreg, h.capacity⟩

/-- An orchestrator stays tended when a task is added, since it has a bound role. -/
theorem Tended.submit {role : RoleName} {description : String} {deps : List TaskId} {t : Task}
    (h : Tended options o) (hs : o.submit now id role description deps = .ok (t, o')) :
    Tended options o' := by
  obtain ⟨hrole, s', hsub, rfl⟩ := submit_eq_ok hs
  have henters := enters_of_submit hsub
  have hacc := henters.accepted h.coherent
  refine ⟨h.options_eq, h.positive, henters.coherent h.coherent, h.bound.accepted hacc hrole,
    fun m hm => ?_⟩
  show s'.inFlight.length ≤ m
  rw [hacc.inFlight_eq]
  exact h.capacity m hm

/-- An orchestrator stays tended whatever is asked of it. -/
theorem Tended.perform (h : Tended options o) (request : Request α) :
    Tended options (o.perform request) := by
  cases request with
  | register role executor =>
    cases hr : o.register role executor with
    | ok o' => simpa only [Orchestrator.perform, hr] using h.register hr
    | error e => simpa only [Orchestrator.perform, hr] using h
  | submit now id role description deps =>
    cases hs : o.submit now id role description deps with
    | ok r => simpa only [Orchestrator.perform, hs] using h.submit hs
    | error e => simpa only [Orchestrator.perform, hs] using h
  | poll now => exact h.advance (onlyEnds_noted h.coherent now (.submitted "")) now
  | handle now e =>
    have hstep := h.advance (onlyEnds_noted h.coherent now e) now
    cases e with
    | submitted | completed => exact hstep

/-- An orchestrator stays tended through a sequence of requests. -/
theorem Tended.performAll (h : Tended options o) (requests : List (Request α)) :
    Tended options (o.performAll requests) := by
  induction requests generalizing o with
  | nil => exact h
  | cons request requests ih => exact ih (h.perform request)

/-- A new orchestrator has no task, and a limit that lets tasks run if it has one. -/
theorem Tended.new {policy : FailurePolicy} (h : Orchestrator.new policy options = .ok o) :
    Tended options o := by
  rw [Orchestrator.new, RunOptions.validate] at h
  split at h
  · cases h
  · next hpositive =>
    cases h
    exact ⟨rfl, hpositive, .new policy, List.forall_mem_nil _, fun _ _ => Nat.zero_le _⟩

/-- An orchestrator that is tended leaves no slot free in vain. -/
theorem Tended.conserves (h : Tended options o) : Conserves options o where
  options_eq := h.options_eq
  capacity := h.capacity
  bound id t ht := h.bound t.profile (List.mem_map_of_mem (mem_of_record? ht).1)
  poll now := h.reacts (onlyEnds_noted h.coherent now (.submitted "")) now
  handle now e := by
    have hreacts := h.reacts (onlyEnds_noted h.coherent now e) now
    cases e with
    | submitted | completed => exact hreacts

end

/-- Whatever is asked of a new orchestrator, and whatever is reported to it, it leaves no slot free
in vain. -/
theorem performAll_conserves {policy : FailurePolicy} {options : RunOptions} {o : Orchestrator α}
    (h : Orchestrator.new policy options = .ok o) (requests : List (Request α)) :
    Conserves options (o.performAll requests) :=
  ((Tended.new h).performAll requests).conserves

/-- Two tasks under a limit of one: the second is added between two reactions, and an outcome is
reported for a task that is not in flight. -/
theorem conserves_limited_run :
    Orchestrator.new .cascade ⟨some 1, .ofSeconds 1⟩ =
        .ok (⟨.new .cascade, .empty, ⟨some 1, .ofSeconds 1⟩⟩ : Orchestrator Unit) ∧
      Conserves ⟨some 1, .ofSeconds 1⟩
        ((⟨.new .cascade, .empty, ⟨some 1, .ofSeconds 1⟩⟩ : Orchestrator Unit).performAll
          [.register "r" (), .submit ⟨0⟩ "a" "r" "" [], .poll ⟨0⟩, .submit ⟨1⟩ "b" "r" "" [],
            .handle ⟨2⟩ (.completed "b" (.success .null)),
            .handle ⟨3⟩ (.completed "a" (.failure "no"))]) :=
  ⟨rfl, performAll_conserves rfl _⟩

end Orchestrator

end Taskweave
