import Taskweave.Proofs.Run.Accounts

/-!
# What a coordinator does to its scheduler

A turn of a coordinator starts what can start, and since all roles are bound that is one dispatch
into the free slots. What a step does to the scheduler are therefore the operations that it asks for
(`Coordinator.Accounted.scheduler_acts`), and a sequence of steps is a sequence of operations for
the scheduler (`Coordinator.Accounted.scheduler_after`). While the executors report what a plan says
and nothing else is submitted, the operations follow the plan
(`Coordinator.Accounted.follows_asked`): an outcome comes from a call that has ended, and its task
is in flight until the event is received.
-/

namespace Taskweave

open Scheduler

variable {α : Type}

namespace Coordinator

section
variable {c c' : Coordinator α} {options : RunOptions} {J : List (Entry α)} {now : Instant}
  {e : Event} {rest : List Event} {plan : Plan} {step : Step α} {steps : List (Step α)}
  {entries : List (Entry α)} {ops : List Operation} {specs : List Submission}

/-! ## Steps are operations -/

/-- A turn fills the slots that are free. -/
theorem Accounted.scheduler_wake (h : Accounted options J c) (now : Instant) :
    (c.wake now).core.scheduler = c.core.scheduler.perform (c.refill now) := by
  obtain ⟨calls, hcollect, -⟩ := h.coherent.collect_eq h.bound c.core.options now
  rw [wake_eq]
  exact congrArg Prod.snd hcollect

/-- An event reaches the scheduler before anything is started. -/
theorem scheduler_taken :
    (c.taken now e rest).core.scheduler = c.core.scheduler.performAll (noting now e) := by
  cases e with
  | submitted id => rfl
  | completed id outcome => rfl

/-- A turn with an event puts it on record and fills the slots that are free. -/
theorem Accounted.scheduler_receive (h : Accounted options J c) (now : Instant)
    (he : c.events = e :: rest) : (c.receive now).core.scheduler =
      c.core.scheduler.performAll (noting now e ++ [(c.taken now e rest).refill now]) := by
  rw [receive_eq he, (h.taken now he).scheduler_wake now, scheduler_taken, performAll, performAll,
    List.foldl_append]
  rfl

/-- A step does to the scheduler what it asks of it. -/
theorem Accounted.scheduler_acts (h : Accounted options J c)
    (ha : c.Acts step entries ops specs c') :
    c'.core.scheduler = c.core.scheduler.performAll ops := by
  cases ha with
  | nothing | announce | shutdown | conclude | finish => rfl
  | register hr =>
    obtain ⟨registry, -, rfl⟩ := register_eq_ok hr
    rfl
  | submit hs =>
    obtain ⟨-, s', hsub, rfl⟩ := accept_eq_ok hs
    rw [performAll, List.foldl_cons, List.foldl_nil, Scheduler.perform, hsub]
    rfl
  | begin | wake => exact h.scheduler_wake _
  | receive _ he => exact h.scheduler_receive _ he

/-- Steps do to the scheduler what they ask of it. -/
theorem Accounted.scheduler_after (h : Accounted options J c) (steps : List (Step α)) :
    (c.after steps).core.scheduler = c.core.scheduler.performAll (c.asked steps) := by
  induction steps generalizing c J with
  | nil => rfl
  | cons step steps ih =>
    have hstep := h.act step
    rw [asked, performAll, List.foldl_append]
    exact (ih hstep).trans (congrArg (performAll · ((c.act step).2.asked steps))
      (h.scheduler_acts (c.acts step)))

/-! ## Following a plan -/

/-- There is one outcome that a call is reported with. -/
theorem Reported.eq_ofResult {ending : CallEnd} {outcome : Outcome} (h : Reported ending outcome) :
    outcome = .ofResult ending.result := by
  cases h <;> rfl

/-- What an event asks for fits a plan, if the call that the event comes from ended as planned. -/
theorem Accounted.follows_noting (h : Accounted options J c)
    (hends : ∀ id ending, .ended id ending ∈ J → Reported ending (plan.outcome id))
    (he : c.events = e :: rest) : plan.Follows c.core.scheduler (noting now e) := by
  cases e with
  | submitted id => trivial
  | completed id outcome =>
    obtain ⟨ending, hended, hreported⟩ := h.carried (he ▸ List.mem_cons_self)
    have hmem : id ∈ (outcomes c.events).map (·.1) := by
      rw [he]
      exact List.mem_cons_self
    refine ⟨⟨h.inFlight.mem_iff.2 (List.mem_append_right _ hmem), ?_⟩, trivial⟩
    rw [hreported.eq_ofResult, (hends id ending hended).eq_ofResult]

/-- What a step asks for follows a plan, if calls have ended as planned and a task that is accepted
is one of the plan. -/
theorem Accounted.follows_acts (h : Accounted options J c)
    (hends : ∀ id ending, .ended id ending ∈ J → Reported ending (plan.outcome id))
    (ha : c.Acts step entries ops specs c') (hspecs : ∀ spec ∈ specs, spec ∈ plan.specs) :
    plan.Follows c.core.scheduler ops := by
  cases ha with
  | nothing | register | announce | shutdown | conclude | finish => trivial
  | submit => exact ⟨hspecs _ List.mem_cons_self, trivial⟩
  | begin | wake => exact ⟨trivial, trivial⟩
  | receive _ he => exact Plan.follows_append.2 ⟨h.follows_noting hends he, trivial, trivial⟩

/-- What steps ask for follows a plan, if all calls end as planned and every task that is accepted
is one of the plan. -/
theorem Accounted.follows_asked (h : Accounted options J c)
    (hends : ∀ id ending, .ended id ending ∈ J ++ c.journal steps →
      Reported ending (plan.outcome id))
    (hspecs : ∀ spec ∈ c.accepted steps, spec ∈ plan.specs) :
    plan.Follows c.core.scheduler (c.asked steps) := by
  induction steps generalizing c J with
  | nil => trivial
  | cons step steps ih =>
    have ha := c.acts step
    rw [asked, Plan.follows_append, ← h.scheduler_acts ha]
    constructor
    · exact h.follows_acts (fun id ending hmem => hends id ending (List.mem_append_left _ hmem)) ha
        fun spec hspec => hspecs spec (List.mem_append_left _ hspec)
    · refine ih (h.act step) (fun id ending hmem => hends id ending ?_) fun spec hspec =>
        hspecs spec (List.mem_append_right _ hspec)
      rw [journal, ← List.append_assoc]
      exact hmem

end

end Coordinator

end Taskweave
