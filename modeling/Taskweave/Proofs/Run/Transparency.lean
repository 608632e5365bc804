import Mathlib.Data.List.Sort
import Taskweave.Proofs.Run.Preparation
import Taskweave.Proofs.Run.Progress

/-!
# Interruptions, delays and limits do not show in the outcome

A plan fixes the tasks and what is reported of their calls. `Plan.Performed` says that steps of a
coordinator perform it: its tasks are accepted at some point or other, between runs or during them,
each call that ends is reported as planned, and the last step returns a summary without an
interruption; the runs before may have been interrupted. Unless a late task is pending then, what
the steps ask of the scheduler carries the plan out (`Plan.Performed.concluded`), so the summary and
the results are those that the plan settles: they are the same for all ways to perform it, under any
limit (`Plan.Concluded.summary_eq`). One of them is a single run without a limit, of the same
submissions after the same registrations (`Plan.Performed.exists_single`).

A task that is accepted between the last turn of a run and its return waits for the next run. The
summary does not list it, and does not show that the run was over too early for it
(`Plan.not_transparent_overtakenRelay`).
-/

namespace Taskweave

open Scheduler Coordinator

variable {α : Type}

namespace Coordinator

/-- The result of a task, if it has one. -/
def result? (c : Coordinator α) (id : TaskId) : Option Json := (c.task? id).bind (·.result)

/-- To carry a run on is not to request anything. -/
theorem Step.CarriesOn.not_isRequest {outcome : TaskId → Outcome} {step : Step α}
    (h : step.CarriesOn outcome) : ¬step.IsRequest := by
  cases step with
  | receive | conclude | finish => exact id
  | register | submit | announce | begin | wake | shutdown => exact h.elim

/-- Steps follow up a plan that the scheduler has kept to so far, if all calls end as planned and
every task that is accepted is one of the plan. -/
theorem Accounted.tracks_after {c : Coordinator α} {options : RunOptions} {J : List (Entry α)}
    {plan : Plan} {steps : List (Step α)} (h : Accounted options J c)
    (htracks : plan.Tracks c.core.scheduler)
    (hends : ∀ id ending, .ended id ending ∈ J ++ c.journal steps →
      Reported ending (plan.outcome id))
    (hspecs : ∀ spec ∈ c.accepted steps, spec ∈ plan.specs) :
    plan.Tracks (c.after steps).core.scheduler := by
  rw [h.scheduler_after steps]
  exact htracks.performAll (h.follows_asked hends hspecs)

/-- The registrations among steps, the submissions of the tasks that the steps accept, all in one go,
and the beginning of a run. -/
def atOnce (c : Coordinator α) (now : Instant) (steps : List (Step α)) : List (Step α) :=
  registrations steps ++ (c.accepted steps).flatMap (·.steps now) ++ [.begin now]

section
variable {c c' : Coordinator α} {steps turns : List (Step α)} {now : Instant}

/-- Requests leave a run to be begun. -/
theorem phase_requests (hidle : c'.phase = .idle) :
    (c'.after (registrations steps ++ (c.accepted steps).flatMap (·.steps now))).phase = .idle := by
  refine (phase_after fun step hstep => ?_).trans hidle
  rcases List.mem_append.1 hstep with hstep | hstep
  · exact isRequest_of_mem_registrations hstep
  · exact isRequest_of_mem_steps hstep

/-- Nothing is late if nothing is requested. -/
theorem late_eq_nil (hsteps : ∀ step ∈ steps, ¬step.IsRequest) : c.late steps = [] := by
  refine List.eq_nil_iff_forall_not_mem.2 fun spec hspec => ?_
  rcases mem_of_mem_lateFrom hspec with hspec | hspec
  · cases hspec
  · rw [accepted_eq_nil hsteps] at hspec
    cases hspec

/-- Nothing is late if a run is begun when all requests have been made. -/
theorem late_atOnce (hidle : c'.phase = .idle) (hturns : ∀ step ∈ turns, ¬step.IsRequest) :
    c'.late (c.atOnce now steps ++ turns) = [] := by
  have hturn : (c'.after (registrations steps ++
      (c.accepted steps).flatMap (·.steps now))).takesTurn (.begin now) = true := by
    rw [takesTurn, operations, if_pos (phase_requests hidle)]
    rfl
  rw [late, atOnce, lateFrom_append, lateFrom_append, lateFrom, if_pos hturn, lateFrom]
  exact late_eq_nil hturns

end

end Coordinator

namespace Plan

/-- A plan is performed by steps of a coordinator that is new before them. -/
structure Performed (plan : Plan) (options : RunOptions) (c : Coordinator α)
    (steps : List (Step α)) (summary : RunSummary) : Prop where
  new : Coordinator.new plan.policy options = .ok c
  /-- The tasks of the plan are accepted, each once, in whatever order. -/
  accepted : (c.accepted steps).Perm plan.specs
  /-- The executors report what the plan says. -/
  reported : ∀ id ending, .ended id ending ∈ c.journal steps → Reported ending (plan.outcome id)
  returns : c.Returns steps summary
  uninterrupted : summary.interrupted = false

/-- What comes out does not depend on how a plan is performed. -/
structure Transparent (plan : Plan) (c : Coordinator α) (steps : List (Step α))
    (summary : RunSummary) : Prop where
  /-- Whatever the limit, the delays and the interruptions are, the summary and the results are the
  same, if no late task is pending. -/
  same : ∀ options (c' : Coordinator α) steps' summary',
    plan.Performed options c' steps' summary' → c'.CaughtUp steps' →
      summary' = summary ∧ ∀ id, (c'.after steps').result? id = (c.after steps).result? id
  /-- They are those of a single run without a limit: the same registrations and submissions, and
  then one run that is carried on until it returns. -/
  single : ∀ interval now, ∃ (c' : Coordinator α) (turns : List (Step α)),
    (∀ step ∈ turns, step.CarriesOn plan.outcome) ∧
      plan.Performed ⟨none, interval⟩ c' (c.atOnce now steps ++ turns) summary ∧
        ∀ id, (c'.after (c.atOnce now steps ++ turns)).result? id = (c.after steps).result? id

end Plan

/-! ## What a plan concludes in -/

/-- Schedulers in which every task stands the same list the same tasks under a status. -/
theorem Scheduler.Coherent.idsWithStatus_congr {s s' : Scheduler} (h : s.Coherent)
    (h' : s'.Coherent) (hst : ∀ id, s'.status? id = s.status? id) (st : Status) :
    s'.idsWithStatus st = s.idsWithStatus st :=
  h'.ascending_idsWithStatus.eq_of_mem_iff h.ascending_idsWithStatus fun id => by
    rw [h'.mem_idsWithStatus, h.mem_idsWithStatus, hst]

namespace Plan

/-- A scheduler that is at rest after all tasks of a plan. -/
structure Concluded (plan : Plan) (s : Scheduler) : Prop where
  tracks : plan.Tracks s
  all : ∀ spec ∈ plan.specs, s.has spec.id = true
  rest : s.isQuiescent = true

section
variable {plan : Plan} {s s' : Scheduler} {c : Coordinator α} {options : RunOptions}
  {steps : List (Step α)} {summary : RunSummary} {id : TaskId}

/-- The tasks are those of the plan. -/
theorem Concluded.has_iff (h : plan.Concluded s) :
    s.has id = true ↔ ∃ spec ∈ plan.specs, spec.id = id := by
  constructor
  · intro hid
    obtain ⟨t, ht⟩ := Option.isSome_iff_exists.1 hid
    obtain ⟨spec, hspec, heq, -⟩ := h.tracks.listed id _ (profile?_of_task? ht)
    exact ⟨spec, hspec, heq⟩
  · rintro ⟨spec, hspec, rfl⟩
    exact h.all spec hspec

/-- Two records that the plan settles have the same status, if neither task waits or runs. -/
theorem Settles.status_eq {t t' : Task} (h : plan.Settles id t) (h' : plan.Settles id t')
    (hp : t.status ≠ .pending) (hr : t.status ≠ .inProgress) : t'.status = t.status := by
  cases hst : t.status with
  | completed => exact h'.completed_iff.2 (h.completed_iff.1 hst)
  | failed => exact h'.failed_iff.2 (h.failed_iff.1 hst)
  | blocked => exact h'.blocked_iff.2 (h.blocked_iff.1 hst)
  | pending => exact absurd hst hp
  | inProgress => exact absurd hst hr

/-- Every task stands where the plan settles it, and has the result that the plan settles. -/
theorem Concluded.task_eq (h : plan.Concluded s) (h' : plan.Concluded s') (id : TaskId) :
    s'.status? id = s.status? id ∧ (s'.task? id).bind (·.result) = (s.task? id).bind (·.result) := by
  cases ht : s.task? id with
  | none =>
    have hnone : ¬s'.has id = true := fun hid => by
      have hhas := h.has_iff.2 (h'.has_iff.1 hid)
      rw [has, ht] at hhas
      cases hhas
    rw [Bool.not_eq_true] at hnone
    rw [status?, status?, task?_of_not_has hnone, ht]
    exact ⟨rfl, rfl⟩
  | some t =>
    have hid : s.has id = true := Option.isSome_iff_exists.2 ⟨t, ht⟩
    obtain ⟨t', ht'⟩ := Option.isSome_iff_exists.1 (h'.has_iff.2 (h.has_iff.1 hid))
    have hsettles := h.tracks.settles h.rest h.all ht
    have hsettles' := h'.tracks.settles h'.rest h'.all ht'
    obtain ⟨hp, hr⟩ := h.tracks.coherent.isQuiescent_iff.1 h.rest id
    rw [status?_of_task? ht] at hp hr
    constructor
    · rw [status?_of_task? ht, status?_of_task? ht', hsettles.status_eq hsettles'
        (fun he => hp (congrArg some he)) fun he => hr (congrArg some he)]
    · rw [ht', Option.bind_some, Option.bind_some]
      refine Option.ext fun v => ?_
      rw [hsettles.result_iff, hsettles'.result_iff]

/-- The summary is the one that the plan settles. -/
theorem Concluded.summary_eq {o o' : Orchestrator α} (h : plan.Concluded o.scheduler)
    (h' : plan.Concluded o'.scheduler) : o'.summary false = o.summary false := by
  have hlist := h.tracks.coherent.idsWithStatus_congr h'.tracks.coherent fun id =>
    (h.task_eq h' id).1
  rw [Orchestrator.summary, Orchestrator.summary, hlist, hlist, hlist, hlist]

/-- Steps that perform a plan conclude it, unless a late task is pending. -/
theorem Performed.concluded (h : plan.Performed options c steps summary)
    (hcaught : c.CaughtUp steps) : plan.Concluded (c.after steps).core.scheduler := by
  have hacc : Accounted options [] c := .new h.new
  have hstart : plan.Tracks c.core.scheduler := by
    rw [new_eq_ok h.new]
    exact .new plan
  exact ⟨hacc.tracks_after hstart h.reported fun spec hspec => h.accepted.mem_iff.1 hspec,
    fun spec hspec => has_of_accepted h.new (h.accepted.mem_iff.2 hspec),
    hacc.isQuiescent_after (phase_new h.new) h.returns h.uninterrupted hcaught⟩

/-- The summary tells where the tasks stand. -/
theorem Performed.closing (h : plan.Performed options c steps summary) :
    (c.after steps).Closing summary := h.returns.closing (.new h.new)

/-- What comes out is the same for all ways to perform a plan that leave no late task pending. -/
theorem Performed.same {options' : RunOptions} {c' : Coordinator α} {steps' : List (Step α)}
    {summary' : RunSummary} (h : plan.Performed options c steps summary)
    (hcaught : c.CaughtUp steps) (h' : plan.Performed options' c' steps' summary')
    (hcaught' : c'.CaughtUp steps') :
    summary' = summary ∧ ∀ id, (c'.after steps').result? id = (c.after steps).result? id := by
  have hconcluded := h.concluded hcaught
  have hconcluded' := h'.concluded hcaught'
  constructor
  · rw [h.closing.1, h'.closing.1, h.uninterrupted, h'.uninterrupted,
      hconcluded.summary_eq hconcluded']
  · exact fun id => (hconcluded.task_eq hconcluded' id).2

/-! ## A single run -/

/-- A plan that is performed is also performed by a single run without a limit. -/
theorem Performed.exists_single (h : plan.Performed options c steps summary) (interval : Duration)
    (now : Instant) : ∃ (c' : Coordinator α) (turns : List (Step α)) (summary' : RunSummary),
      (∀ step ∈ turns, step.CarriesOn plan.outcome) ∧
        plan.Performed ⟨none, interval⟩ c' (c.atOnce now steps ++ turns) summary' := by
  obtain ⟨c', hnew⟩ : ∃ c' : Coordinator α, Coordinator.new plan.policy ⟨none, interval⟩ = .ok c' :=
    ⟨_, rfl⟩
  have hacc : Accounted ⟨none, interval⟩ [] c' := .new hnew
  have hregistered := hacc.after (registrations steps)
  -- The registrations bind the same roles, and leave the scheduler without tasks.
  have hregistry : (c'.after (registrations steps)).core.registry =
      (c.after steps).core.registry := by
    refine registry_registrations ?_
    rw [new_eq_ok hnew, new_eq_ok h.new]
  have hscheduler : (c'.after (registrations steps)).core.scheduler = .new plan.policy := by
    rw [hacc.scheduler_after, asked_registrations, new_eq_ok hnew]
    rfl
  have haccepted : (c'.after (registrations steps)).accepted
      ((c.accepted steps).flatMap (·.steps now)) = c.accepted steps := by
    refine hregistered.accepted_submissions now (fun spec hspec => ?_) (fun spec _ => ?_)
      ((h.accepted.map _).nodup_iff.2 plan.distinct)
    · rw [hregistry]
      exact contains_of_accepted hspec
    · rw [hscheduler]
      rfl
  obtain ⟨turns, summary', hturns, hreturns, hi⟩ :=
    (hacc.after _).exists_returns_begin nofun (phase_requests (phase_new hnew)) plan.outcome now
  have hsplit : c.atOnce now steps ++ turns =
      registrations steps ++ (c.accepted steps).flatMap (·.steps now) ++ .begin now :: turns :=
    List.append_assoc _ _ _
  refine ⟨c', turns, summary', hturns, hnew, ?_, fun id ending hended => ?_, ?_, hi⟩
  · have hbegun : ∀ d : Coordinator α, d.accepted (.begin now :: turns) = [] := fun d =>
      accepted_eq_nil (List.forall_mem_cons.2
        ⟨id, fun step hstep => (hturns step hstep).not_isRequest⟩)
    rw [hsplit, accepted_append, accepted_append, haccepted, hbegun, List.append_nil,
      ← submissions_asked, asked_registrations]
    exact h.accepted
  · rw [hsplit] at hended
    rcases List.mem_append.1 (finish_mem_of_ended hended) with hmem | hmem
    · -- No call ends by a request.
      rcases List.mem_append.1 hmem with hmem | hmem
      · exact (isRequest_of_mem_registrations hmem).elim
      · exact (isRequest_of_mem_steps hmem).elim
    · exact hturns _ ((List.mem_cons.1 hmem).resolve_left nofun)
  · rw [hsplit]
    exact hreturns.append

/-- In a single run that is carried on no task comes too late. -/
theorem Performed.caughtUp_single {c' : Coordinator α} {turns : List (Step α)} {now : Instant}
    (h : plan.Performed options c' (c.atOnce now steps ++ turns) summary)
    (hturns : ∀ step ∈ turns, step.CarriesOn plan.outcome) :
    c'.CaughtUp (c.atOnce now steps ++ turns) :=
  caughtUp_of_late_eq_nil
    (late_atOnce (phase_new h.new) fun step hstep => (hturns step hstep).not_isRequest)

/-- What comes out is the same however a plan is performed, if no late task is pending. -/
theorem Performed.transparent (h : plan.Performed options c steps summary)
    (hcaught : c.CaughtUp steps) : plan.Transparent c steps summary where
  same _ _ _ _ h' hcaught' := h.same hcaught h' hcaught'
  single interval now := by
    obtain ⟨c', turns, summary', hturns, hsingle⟩ := h.exists_single interval now
    obtain ⟨rfl, hresults⟩ := h.same hcaught hsingle (hsingle.caughtUp_single hturns)
    exact ⟨c', turns, hturns, hsingle, hresults⟩

/-- A late task that is pending is in no list of the summary, but a single run would have come to
it. -/
theorem Transparent.caughtUp (ht : plan.Transparent c steps summary)
    (h : plan.Performed options c steps summary) : c.CaughtUp steps := by
  intro spec hlate hpending
  have hspec : spec ∈ plan.specs :=
    h.accepted.mem_iff.1 ((mem_of_mem_lateFrom hlate).resolve_left List.not_mem_nil)
  obtain ⟨c', turns, hturns, hsingle, -⟩ := ht.single (.ofSeconds 1) ⟨0⟩
  have hconcluded := hsingle.concluded (hsingle.caughtUp_single hturns)
  have hc := hconcluded.tracks.coherent
  obtain ⟨st, hlist, -⟩ : ∃! st, spec.id ∈ summary.listOf st :=
    (hsingle.closing.listed_iff hc (hconcluded.all spec hspec)).2
      (hc.isQuiescent_iff.1 hconcluded.rest spec.id).1
  have hacc : Accounted options (c.journal steps) (c.after steps) := (Accounted.new h.new).after steps
  obtain ⟨hst, hne⟩ := (h.closing.mem_listOf hacc.coherent).1 hlist
  rw [hpending] at hst
  exact hne (Option.some.inj hst).symm

/-- However a plan is performed, what comes out is what comes out of a single run without a limit
and without an interruption, unless a task that was accepted after the last turn is pending when the
last run returns. -/
theorem Performed.transparent_iff (h : plan.Performed options c steps summary) :
    plan.Transparent c steps summary ↔ c.CaughtUp steps :=
  ⟨fun ht => ht.caughtUp h, h.transparent⟩

end

/-- Two tasks, one after the other, of which the second one fails. -/
def relay : Plan where
  policy := .block
  specs := [⟨"a", "r", "", []⟩, ⟨"b", "r", "", ["a"]⟩]
  outcome id := if id = "b" then .failure "lost" else .success .null
  distinct := by decide

/-- The executors report what the plan says if the first task succeeds and the second one is lost. -/
theorem reported_relay {c : Coordinator Unit} {steps : List (Step Unit)}
    (hends : ∀ id ending, .finish id ending ∈ steps →
      id = "a" ∧ ending = .returned (.ok .null) ∨
        id = "b" ∧ ending = .returned (.error (.failed "lost")))
    (id : TaskId) (ending : CallEnd) (hended : .ended id ending ∈ c.journal steps) :
    Reported ending (relay.outcome id) := by
  rcases hends id ending (finish_mem_of_ended hended) with ⟨rfl, rfl⟩ | ⟨rfl, rfl⟩
  · exact .value .null
  · exact .error (.failed "lost")

/-- A run that is interrupted while the first task runs, and another one. The second task is
submitted, and the first one ends, when no run is under way. -/
def interruptedRelay : List (Step Unit) :=
  [.register "r" (), .submit ⟨0⟩ "a" "r" "" [], .announce "a", .begin ⟨0⟩, .shutdown, .conclude,
    .submit ⟨1⟩ "b" "r" "" ["a"], .finish "a" (.returned (.ok .null)), .announce "b", .begin ⟨2⟩,
    .receive ⟨2⟩, .receive ⟨2⟩, .receive ⟨2⟩, .finish "b" (.returned (.error (.failed "lost"))),
    .receive ⟨3⟩, .conclude]

/-- A limit of one and an interruption do not show in the outcome of two tasks. -/
theorem transparent_interruptedRelay :
    relay.Performed ⟨some 1, .ofSeconds 1⟩ serial interruptedRelay ⟨["a"], ["b"], [], [], false⟩ ∧
      relay.Transparent serial interruptedRelay ⟨["a"], ["b"], [], [], false⟩ := by
  have hperformed : relay.Performed ⟨some 1, .ofSeconds 1⟩ serial interruptedRelay
      ⟨["a"], ["b"], [], [], false⟩ := by
    refine ⟨rfl, by decide +kernel, reported_relay fun id ending hmem => ?_,
      ⟨interruptedRelay.dropLast, .conclude, rfl, by decide +kernel⟩, rfl⟩
    simpa [interruptedRelay] using hmem
  have hcaught : serial.CaughtUp interruptedRelay := caughtUp_of_late_eq_nil (by decide +kernel)
  exact ⟨hperformed, hperformed.transparent_iff.2 hcaught⟩

/-- A run of the first task. The second one is submitted when the run has taken its last turn and has
not returned yet. -/
def overtakenRelay : List (Step Unit) :=
  [.register "r" (), .submit ⟨0⟩ "a" "r" "" [], .announce "a", .begin ⟨0⟩,
    .finish "a" (.returned (.ok .null)), .receive ⟨1⟩, .receive ⟨1⟩,
    .submit ⟨1⟩ "b" "r" "" ["a"], .announce "b", .conclude]

/-- A single run of both tasks. -/
def wholeRelay : List (Step Unit) :=
  [.register "r" (), .submit ⟨0⟩ "a" "r" "" [], .announce "a", .submit ⟨0⟩ "b" "r" "" ["a"],
    .announce "b", .begin ⟨0⟩, .receive ⟨0⟩, .receive ⟨0⟩, .finish "a" (.returned (.ok .null)),
    .receive ⟨1⟩, .finish "b" (.returned (.error (.failed "lost"))), .receive ⟨2⟩, .conclude]

/-- A new coordinator that runs tasks without a limit. -/
def unlimited : Coordinator Unit :=
  ⟨⟨.new .block, .empty, ⟨none, .ofSeconds 1⟩⟩, [], [], .idle⟩

/-- A run that is not interrupted returns while the second task is pending, for which a single run
goes on. -/
theorem not_transparent_overtakenRelay :
    relay.Performed ⟨some 1, .ofSeconds 1⟩ serial overtakenRelay ⟨["a"], [], [], [], false⟩ ∧
      (serial.after overtakenRelay).core.scheduler.status? "b" = some .pending ∧
      relay.Performed ⟨none, .ofSeconds 1⟩ unlimited wholeRelay ⟨["a"], ["b"], [], [], false⟩ ∧
      ¬relay.Transparent serial overtakenRelay ⟨["a"], [], [], [], false⟩ := by
  have hovertaken : relay.Performed ⟨some 1, .ofSeconds 1⟩ serial overtakenRelay
      ⟨["a"], [], [], [], false⟩ := by
    refine ⟨rfl, by decide +kernel, reported_relay fun id ending hmem => ?_,
      ⟨overtakenRelay.dropLast, .conclude, rfl, by decide +kernel⟩, rfl⟩
    exact .inl (by simpa [overtakenRelay] using hmem)
  have hwhole : relay.Performed ⟨none, .ofSeconds 1⟩ unlimited wholeRelay
      ⟨["a"], ["b"], [], [], false⟩ := by
    refine ⟨rfl, by decide +kernel, reported_relay fun id ending hmem => ?_,
      ⟨wholeRelay.dropLast, .conclude, rfl, by decide +kernel⟩, rfl⟩
    simpa [wholeRelay] using hmem
  have hcaught : unlimited.CaughtUp wholeRelay := caughtUp_of_late_eq_nil (by decide +kernel)
  refine ⟨hovertaken, by decide +kernel, hwhole, fun ht => ?_⟩
  exact absurd (ht.same _ _ _ _ hwhole hcaught).1 (by decide)

end Plan

end Taskweave
