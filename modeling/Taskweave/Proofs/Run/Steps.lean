import Taskweave.Proofs.Run.Protocol
import Taskweave.Proofs.Schedule.Plan

/-!
# What a step of a coordinator does

A step of a coordinator is refused or does one of a few things. `Coordinator.Acts` lists them with
what is seen of the step, what it asks of the scheduler (`Coordinator.operations`) and the task that
it accepts (`Coordinator.accepts`), so that a proof about all steps has one case for each of these
(`Coordinator.acts`). The scheduler is asked for little: a submission that is accepted, the outcome
that an event brings, and in each turn one dispatch into the free slots.
-/

namespace Taskweave.Coordinator

variable {α : Type}

/-- What a turn asks of the scheduler: to fill the slots that are free. -/
def refill (c : Coordinator α) (now : Instant) : Operation :=
  .dispatch now (c.core.options.slots c.core.scheduler.inFlight.length)

/-- What an event asks of the scheduler. -/
def noting (now : Instant) : Event → List Operation
  | .submitted _ => []
  | .completed id outcome => [.complete now id outcome]

/-- What a step asks of the scheduler. -/
def operations (c : Coordinator α) : Step α → List Operation
  | .submit now id role description dependencies =>
    match c.accept now id role description dependencies with
    | .ok _ => [.submit now id role description dependencies]
    | .error _ => []
  | .begin now => if c.phase = .idle then [c.refill now] else []
  | .receive now =>
    match c.phase, c.events with
    | .going, e :: rest => noting now e ++ [(c.taken now e rest).refill now]
    | _, _ => []
  | .wake now => if c.phase = .going then [c.refill now] else []
  | .register _ _ | .announce _ | .shutdown | .conclude | .finish _ _ => []

/-- What a sequence of steps asks of the scheduler. -/
def asked (c : Coordinator α) : List (Step α) → List Operation
  | [] => []
  | step :: steps => c.operations step ++ (c.act step).2.asked steps

/-- The task that a step submits, if it is accepted. -/
def accepts (c : Coordinator α) : Step α → List Submission
  | .submit now id role description dependencies =>
    match c.accept now id role description dependencies with
    | .ok _ => [⟨id, role, description, dependencies⟩]
    | .error _ => []
  | .register _ _ | .announce _ | .begin _ | .receive _ | .wake _ | .shutdown | .conclude
  | .finish _ _ => []

/-- The tasks that are accepted in a sequence of steps, in their order. -/
def accepted (c : Coordinator α) : List (Step α) → List Submission
  | [] => []
  | step :: steps => c.accepts step ++ (c.act step).2.accepted steps

/-- What a step does: what is seen of it, what it asks of the scheduler, the task that it accepts,
and the coordinator afterwards. -/
inductive Acts (c : Coordinator α) : Step α → List (Entry α) → List Operation → List Submission →
    Coordinator α → Prop where
  /-- A step that is refused, or is not possible at this time. -/
  | nothing (step : Step α) : Acts c step [] [] [] c
  | register {c' : Coordinator α} {role : RoleName} {executor : α} :
      c.register role executor = .ok c' → Acts c (.register role executor) [] [] [] c'
  | submit {c' : Coordinator α} {now : Instant} {id : TaskId} {role : RoleName}
      {description : String} {deps : List TaskId} {t : Task} :
      c.accept now id role description deps = .ok (t, c') →
      Acts c (.submit now id role description deps) [] [.submit now id role description deps]
        [⟨id, role, description, deps⟩] c'
  | announce {id : TaskId} : c.core.scheduler.has id = true →
      Acts c (.announce id) [] [] [] (c.announce id)
  | begin {now : Instant} : c.phase = .idle →
      Acts c (.begin now) (c.seen (c.wake now)) [c.refill now] [] (c.wake now)
  | receive {now : Instant} {e : Event} {rest : List Event} : c.phase = .going →
      c.events = e :: rest →
      Acts c (.receive now) (.received e :: c.seen (c.receive now))
        (noting now e ++ [(c.taken now e rest).refill now]) [] (c.receive now)
  | wake {now : Instant} : c.phase = .going →
      Acts c (.wake now) (c.seen (c.wake now)) [c.refill now] [] (c.wake now)
  | shutdown : c.phase = .going → Acts c .shutdown [] [] [] c.interrupt
  | conclude {interrupted : Bool} : c.phase = .leaving interrupted →
      Acts c .conclude [.runOver (c.core.summary interrupted)] [] [] { c with phase := .idle }
  | finish {id : TaskId} {ending : CallEnd} : id ∈ c.calls.map (·.assignment.id) →
      Acts c (.finish id ending) [.ended id ending] [] [] (c.finish id ending)

section
variable {c c' : Coordinator α} {now : Instant} {id : TaskId} {step : Step α}
  {steps steps' : List (Step α)} {entries : List (Entry α)} {ops : List Operation}
  {specs : List Submission} {ending : CallEnd}

/-- What a new coordinator is. -/
theorem new_eq_ok {policy : FailurePolicy} {options : RunOptions}
    (h : Coordinator.new policy options = .ok c) :
    c = ⟨⟨.new policy, .empty, options⟩, [], [], .idle⟩ := by
  rw [Coordinator.new, Orchestrator.new, RunOptions.validate] at h
  split at h
  · cases h
  · cases h
    rfl

/-- No run is under way in a new coordinator. -/
theorem phase_new {policy : FailurePolicy} {options : RunOptions}
    (h : Coordinator.new policy options = .ok c) : c.phase = .idle := by
  rw [new_eq_ok h]

/-- What binding a role needs, and what it changes. -/
theorem register_eq_ok {role : RoleName} {executor : α}
    (hr : c.register role executor = .ok c') :
    ∃ registry, c.core.registry.register role executor = .ok registry ∧
      c' = { c with core := { c.core with registry } } := by
  rw [Coordinator.register] at hr
  cases ho : c.core.register role executor with
  | error e =>
    rw [ho] at hr
    cases hr
  | ok core =>
    rw [ho] at hr
    cases hr
    obtain ⟨registry, hreg, rfl⟩ := Orchestrator.register_eq_ok ho
    exact ⟨registry, hreg, rfl⟩

/-- What a submission needs, and what it changes. -/
theorem accept_eq_ok {role : RoleName} {description : String} {deps : List TaskId} {t : Task}
    (hs : c.accept now id role description deps = .ok (t, c')) :
    c.core.registry.contains role = true ∧ ∃ s',
      c.core.scheduler.submit now id role description deps = .ok (t, s') ∧
        c' = c.withScheduler s' := by
  rw [accept] at hs
  cases ho : c.core.submit now id role description deps with
  | error e =>
    rw [ho] at hs
    cases hs
  | ok r =>
    obtain ⟨t', core⟩ := r
    rw [ho] at hs
    cases hs
    obtain ⟨hrole, s', hsub, rfl⟩ := Orchestrator.submit_eq_ok ho
    exact ⟨hrole, s', hsub, rfl⟩

/-- Every step does one of these. -/
theorem acts (c : Coordinator α) (step : Step α) :
    c.Acts step (c.act step).1 (c.operations step) (c.accepts step) (c.act step).2 := by
  cases step with
  | register role executor =>
    rw [act]
    cases hr : c.register role executor with
    | ok c' => exact .register hr
    | error e => exact .nothing _
  | submit now id role description deps =>
    rw [act, operations, accepts]
    cases hs : c.accept now id role description deps with
    | ok r => exact .submit hs
    | error e => exact .nothing _
  | announce id =>
    rw [act]
    split
    · next hid => exact .announce hid
    · exact .nothing _
  | begin now =>
    rw [act, operations, Coordinator.begin]
    by_cases hidle : c.phase = .idle
    · rw [if_pos hidle, if_pos hidle]
      exact .begin hidle
    · rw [if_neg hidle, if_neg hidle]
      exact .nothing _
  | receive now =>
    rw [act, operations]
    cases hphase : c.phase with
    | idle | leaving => exact .nothing _
    | going =>
      cases he : c.events with
      | nil => exact .nothing _
      | cons e rest => exact .receive hphase he
  | wake now =>
    rw [act, operations]
    split
    · next hgoing => exact .wake hgoing
    · exact .nothing _
  | shutdown =>
    rw [act]
    split
    · next hgoing => exact .shutdown hgoing
    · exact .nothing _
  | conclude =>
    rw [act, Coordinator.conclude]
    cases hphase : c.phase with
    | idle | going => exact .nothing _
    | leaving interrupted => exact .conclude hphase
  | finish id ending =>
    rw [act]
    split
    · next hid => exact .finish hid
    · exact .nothing _

/-! ## Sequences of steps -/

/-- Steps one after the other. -/
theorem after_append : c.after (steps ++ steps') = (c.after steps).after steps' :=
  List.foldl_append

/-- What is accepted in steps one after the other. -/
theorem accepted_append : c.accepted (steps ++ steps') =
    c.accepted steps ++ (c.after steps).accepted steps' := by
  induction steps generalizing c with
  | nil => rfl
  | cons step steps ih =>
    rw [List.cons_append, accepted, ih, ← List.append_assoc]
    rfl

/-- What a step submits to the scheduler is what it accepts. -/
theorem Acts.submissions_eq (h : c.Acts step entries ops specs c') :
    Plan.submissions ops = specs := by
  cases h with
  | @receive _ e => cases e <;> rfl
  | nothing | register | submit | announce | begin | wake | shutdown | conclude | finish => rfl

/-- What steps submit to the scheduler is what they accept. -/
theorem submissions_asked : Plan.submissions (c.asked steps) = c.accepted steps := by
  induction steps generalizing c with
  | nil => rfl
  | cons step steps ih =>
    rw [asked, accepted, Plan.submissions_append, (c.acts step).submissions_eq, ih]

/-- A call ends by the step that ends it. -/
theorem Acts.eq_finish (h : c.Acts step entries ops specs c') (he : .ended id ending ∈ entries) :
    step = .finish id ending := by
  have hturn : ∀ turn : Coordinator α, .ended id ending ∉ c.seen turn := fun turn hmem => by
    obtain ⟨_, -, he⟩ := List.mem_map.1 hmem
    cases he
  cases h with
  | nothing | register | submit | announce | shutdown => cases he
  | begin | wake => exact absurd he (hturn _)
  | receive =>
    rcases List.mem_cons.1 he with he | he
    · cases he
    · exact absurd he (hturn _)
  | conclude => cases List.mem_singleton.1 he
  | finish =>
    cases List.mem_singleton.1 he
    rfl

/-- A call that has ended was ended by one of the steps. -/
theorem finish_mem_of_ended (h : .ended id ending ∈ c.journal steps) :
    .finish id ending ∈ steps := by
  induction steps generalizing c with
  | nil => cases h
  | cons step steps ih =>
    rcases List.mem_append.1 h with h | h
    · exact (c.acts step).eq_finish h ▸ List.mem_cons_self
    · exact List.mem_cons_of_mem _ (ih h)

end

end Taskweave.Coordinator
