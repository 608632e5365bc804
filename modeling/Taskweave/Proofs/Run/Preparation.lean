import Taskweave.Proofs.Run.Accounts

/-!
# What comes before a run

Roles are bound and tasks submitted before a run begins. Which roles are bound in the end is up to
the registrations alone (`Coordinator.registry_registrations`): no other step binds a role, and none
takes one away. The tasks that some steps accept are accepted again, all in one go, by a new
coordinator in which the same registrations have been made: their roles are bound by then
(`Coordinator.contains_of_accepted`), and a submission is refused for no other reason but a name
that is taken (`Coordinator.Accounted.accepted_submissions`).
-/

namespace Taskweave

open Scheduler

variable {α : Type}

/-- The steps that submit a task. -/
def Submission.steps (now : Instant) (spec : Submission) : List (Coordinator.Step α) :=
  [.submit now spec.id spec.role spec.description spec.dependencies, .announce spec.id]

namespace Coordinator

/-- Whether a step binds a role. -/
def Step.isRegistration : Step α → Bool
  | .register _ _ => true
  | .submit _ _ _ _ _ | .announce _ | .begin _ | .receive _ | .wake _ | .shutdown | .conclude
  | .finish _ _ => false

/-- A step that can be taken before a run: a role is bound, or a task submitted. -/
def Step.IsRequest : Step α → Prop
  | .register _ _ | .submit _ _ _ _ _ | .announce _ => True
  | .begin _ | .receive _ | .wake _ | .shutdown | .conclude | .finish _ _ => False

/-- The steps that bind a role. -/
def registrations (steps : List (Step α)) : List (Step α) := steps.filter Step.isRegistration

section
variable {c c' : Coordinator α} {options : RunOptions} {J : List (Entry α)} {step : Step α}
  {steps : List (Step α)} {entries : List (Entry α)} {ops : List Operation}
  {specs : List Submission} {spec : Submission} {role : RoleName}

/-! ## Roles -/

/-- No step but a registration binds a role. -/
theorem Acts.registry_eq (h : c.Acts step entries ops specs c')
    (hstep : step.isRegistration = false) : c'.core.registry = c.core.registry := by
  cases h with
  | register => cases hstep
  | nothing | announce | shutdown | conclude | finish => rfl
  | submit hs =>
    obtain ⟨-, s', -, rfl⟩ := accept_eq_ok hs
    rfl
  | begin | wake => rw [wake_eq]; rfl
  | @receive now e rest _ he =>
    rw [receive_eq he, wake_eq]
    cases e <;> rfl

/-- Which roles are bound after a registration depends on which were bound before it. -/
theorem registry_register {executor : α} :
    (c.act (.register role executor)).2.core.registry =
      match c.core.registry.register role executor with
      | .ok registry => registry
      | .error _ => c.core.registry := by
  cases hreg : c.core.registry.register role executor with
  | ok registry =>
    simp only [act, Coordinator.register, Orchestrator.register, hreg]
    rfl
  | error e =>
    simp only [act, Coordinator.register, Orchestrator.register, hreg]
    rfl

/-- The registrations among steps bind the roles that the steps bind. -/
theorem registry_registrations (h : c'.core.registry = c.core.registry) :
    (c'.after (registrations steps)).core.registry = (c.after steps).core.registry := by
  induction steps generalizing c c' with
  | nil => exact h
  | cons step steps ih =>
    cases hstep : step.isRegistration with
    | false =>
      rw [registrations, List.filter_cons_of_neg (by rw [hstep]; exact Bool.false_ne_true)]
      exact ih (h.trans ((c.acts step).registry_eq hstep).symm)
    | true =>
      rw [registrations, List.filter_cons_of_pos hstep]
      refine ih ?_
      cases step with
      | register role executor => rw [registry_register, registry_register, h]
      | submit | announce | begin | receive | wake | shutdown | conclude | finish => cases hstep

/-- No step takes a role away. -/
theorem Acts.contains (h : c.Acts step entries ops specs c')
    (hrole : c.core.registry.contains role = true) : c'.core.registry.contains role = true := by
  cases hstep : step.isRegistration with
  | false => rwa [h.registry_eq hstep]
  | true =>
    cases h with
    | nothing => exact hrole
    | register hr =>
      obtain ⟨registry, hreg, rfl⟩ := register_eq_ok hr
      exact contains_of_register hrole hreg
    | submit | announce | begin | receive | wake | shutdown | conclude | finish => cases hstep

/-- No steps take a role away. -/
theorem contains_after (h : c.core.registry.contains role = true) :
    (c.after steps).core.registry.contains role = true := by
  induction steps generalizing c with
  | nil => exact h
  | cons step steps ih => exact ih ((c.acts step).contains h)

/-- The role of a task that a step accepts is bound. -/
theorem Acts.contains_role (h : c.Acts step entries ops specs c')
    (hspec : spec ∈ specs) : c.core.registry.contains spec.role = true := by
  cases h with
  | submit hs =>
    cases List.mem_singleton.1 hspec
    exact (accept_eq_ok hs).1
  | nothing | register | announce | begin | receive | wake | shutdown | conclude | finish => cases hspec

/-- The role of a task that has been accepted is bound. -/
theorem contains_of_accepted (h : spec ∈ c.accepted steps) :
    (c.after steps).core.registry.contains spec.role = true := by
  induction steps generalizing c with
  | nil => cases h
  | cons step steps ih =>
    rcases List.mem_append.1 h with hspec | hspec
    · have ha := c.acts step
      exact contains_after (c := (c.act step).2) (ha.contains (ha.contains_role hspec))
    · exact ih hspec

/-! ## Submissions -/

/-- Registrations ask nothing of the scheduler. -/
theorem asked_registrations : c.asked (registrations steps) = [] := by
  induction steps generalizing c with
  | nil => rfl
  | cons step steps ih =>
    cases step with
    | register role executor => exact ih
    | submit | announce | begin | receive | wake | shutdown | conclude | finish => exact ih

/-- To bind a role is a request. -/
theorem isRequest_of_mem_registrations (h : step ∈ registrations steps) : step.IsRequest := by
  have hregisters := (List.mem_filter.1 h).2
  cases step with
  | register => trivial
  | submit | announce | begin | receive | wake | shutdown | conclude | finish => cases hregisters

/-- To submit tasks is to request something. -/
theorem isRequest_of_mem_steps {now : Instant} (h : step ∈ specs.flatMap (·.steps now)) :
    step.IsRequest := by
  obtain ⟨spec, -, hstep⟩ := List.mem_flatMap.1 h
  rcases List.mem_cons.1 hstep with rfl | hstep
  · trivial
  · rw [List.mem_singleton.1 hstep]
    trivial

/-- A request starts no run. -/
theorem Acts.phase_eq (h : c.Acts step entries ops specs c') (hstep : step.IsRequest) :
    c'.phase = c.phase := by
  cases h with
  | nothing | announce => rfl
  | register hr =>
    obtain ⟨registry, -, rfl⟩ := register_eq_ok hr
    rfl
  | submit hs =>
    obtain ⟨-, s', -, rfl⟩ := accept_eq_ok hs
    rfl
  | begin | receive | wake | shutdown | conclude | finish => exact hstep.elim

/-- Requests start no run. -/
theorem phase_after (h : ∀ step ∈ steps, step.IsRequest) :
    (c.after steps).phase = c.phase := by
  induction steps generalizing c with
  | nil => rfl
  | cons step steps ih =>
    obtain ⟨hstep, hsteps⟩ := List.forall_mem_cons.1 h
    exact (ih hsteps).trans ((c.acts step).phase_eq hstep)

/-- Nothing is accepted where nothing is requested. -/
theorem accepted_eq_nil (h : ∀ step ∈ steps, ¬step.IsRequest) : c.accepted steps = [] := by
  induction steps generalizing c with
  | nil => rfl
  | cons step steps ih =>
    obtain ⟨hstep, hsteps⟩ := List.forall_mem_cons.1 h
    rw [accepted, ih hsteps, List.append_nil]
    cases step with
    | register | submit | announce => exact absurd trivial hstep
    | begin | receive | wake | shutdown | conclude | finish => rfl

/-- The submission of a new task with a bound role is accepted. -/
theorem exists_accept_eq_ok (hrole : c.core.registry.contains spec.role = true)
    (hfresh : c.core.scheduler.has spec.id = false) (now : Instant) : ∃ t s',
      c.core.scheduler.submit now spec.id spec.role spec.description spec.dependencies =
        .ok (t, s') ∧
      c.accept now spec.id spec.role spec.description spec.dependencies =
        .ok (t, c.withScheduler s') := by
  obtain ⟨⟨t, s'⟩, hsub⟩ :=
    exists_submit_eq_ok hfresh now spec.role spec.description spec.dependencies
  refine ⟨t, s', hsub, ?_⟩
  simp only [accept, Orchestrator.submit, hrole, hsub]
  rfl

/-- Submissions of new tasks with bound roles are accepted. -/
theorem Accounted.accepted_submissions (h : Accounted options J c) (now : Instant)
    (hroles : ∀ spec ∈ specs, c.core.registry.contains spec.role = true)
    (hnew : ∀ spec ∈ specs, c.core.scheduler.has spec.id = false)
    (hnd : (specs.map (·.id)).Nodup) : c.accepted (specs.flatMap (·.steps now)) = specs := by
  induction specs generalizing c J with
  | nil => rfl
  | cons spec specs ih =>
    obtain ⟨hrole, hroles⟩ := List.forall_mem_cons.1 hroles
    obtain ⟨hfresh, hnew⟩ := List.forall_mem_cons.1 hnew
    obtain ⟨hnot, hnd⟩ := List.nodup_cons.1 hnd
    obtain ⟨t, s', hsub, hs⟩ := exists_accept_eq_ok hrole hfresh now
    have hentered := (enters_of_submit hsub).accepted h.coherent
    have hid : (c.withScheduler s').core.scheduler.has spec.id = true :=
      Option.isSome_iff_exists.2 ⟨t, hentered.task?_eq⟩
    have hafter : c.after (spec.steps now) = (c.withScheduler s').announce spec.id := by
      simp only [Coordinator.after, Submission.steps, List.foldl_cons, List.foldl_nil,
        Coordinator.act, hs, hid, if_true]
    have haccepted : c.accepted (spec.steps now) = [spec] := by
      simp only [Submission.steps, accepted, accepts, hs]
      rfl
    have hsteps := h.after (spec.steps now)
    rw [hafter] at hsteps
    rw [List.flatMap_cons, accepted_append, haccepted, hafter,
      ih hsteps hroles (fun spec' hspec' => ?_) hnd]
    · rfl
    · -- A task that comes later has another name.
      rw [← Bool.not_eq_true]
      intro hhas
      rcases hentered.has_iff.1 hhas with hold | heq
      · rw [hnew spec' hspec'] at hold
        cases hold
      · exact hnot (List.mem_map.2 ⟨spec', hspec', heq⟩)

end

end Coordinator

end Taskweave
