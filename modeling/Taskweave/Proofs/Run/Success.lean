import Mathlib.Data.List.Induction
import Taskweave.Proofs.Run.Transparency
import Taskweave.Proofs.Schedule.Submissions

/-!
# Runs in which every execution succeeds

Roles have been bound to a new coordinator, and then tasks submitted, of which each comes after those
it depends on (`Coordinator.Prepared`, `Submission.Ordered`). If no run of it is shut down and every
call that ends has succeeded, all tasks have completed when a run returns
(`Coordinator.Prepared.completed`). The plan that the steps follow is read off their journal
afterwards (`Coordinator.reportIn`), since no task has its executor called twice.
-/

namespace Taskweave

open Scheduler Coordinator

variable {α : Type}

/-- Every task comes after those it depends on. -/
def Submission.Ordered (specs : List Submission) : Prop :=
  ∀ before spec later, specs = before ++ spec :: later →
    ∀ d ∈ spec.dependencies, d ∈ before.map (·.id)

/-! ## Plans without a failure -/

namespace Plan

section
variable {plan : Plan} {s : Scheduler} {o : Orchestrator α}

/-- If every task comes after those it depends on and ends with a success, all tasks complete. -/
theorem completes_of_ordered (hordered : Submission.Ordered plan.specs)
    (hsuccess : ∀ id, ∃ v, plan.outcome id = .success v) :
    ∀ spec ∈ plan.specs, plan.Completes spec.id := by
  have hfirst : ∀ before later, plan.specs = before ++ later →
      ∀ spec ∈ before, plan.Completes spec.id := by
    intro before
    induction before using List.reverseRecOn with
    | nil => exact fun _ _ _ hspec => absurd hspec List.not_mem_nil
    | append_singleton before last ih =>
      intro later heq spec hspec
      rw [List.append_assoc] at heq
      rcases List.mem_append.1 hspec with hspec | hspec
      · exact ih _ heq spec hspec
      · obtain rfl := List.mem_singleton.1 hspec
        obtain ⟨v, hv⟩ := hsuccess spec.id
        refine .intro (by simp [heq]) (fun d hd => ?_) hv
        obtain ⟨spec', hspec', rfl⟩ := List.mem_map.1 (hordered before spec later heq d hd)
        exact ih _ heq spec' hspec'
  exact hfirst plan.specs [] (List.append_nil _).symm

/-- At rest, the tasks of a plan that completes them all have completed. -/
theorem Concluded.status?_eq (h : plan.Concluded s)
    (hall : ∀ spec ∈ plan.specs, plan.Completes spec.id) {spec : Submission}
    (hspec : spec ∈ plan.specs) : s.status? spec.id = some .completed :=
  isCompleted_iff.1 (h.tracks.isCompleted_of_completes h.rest h.all (hall spec hspec))

/-- The summary of a plan that completes all its tasks lists them as completed, and no others. -/
theorem Concluded.summary_of_completes (h : plan.Concluded o.scheduler)
    (hall : ∀ spec ∈ plan.specs, plan.Completes spec.id) :
    o.summary false = ⟨sortedStrings (plan.specs.map (·.id)), [], [], [], false⟩ := by
  have hc := h.tracks.coherent
  have hstatus : ∀ {id st}, o.scheduler.status? id = some st →
      id ∈ plan.specs.map (·.id) ∧ st = .completed := fun {id st} hst => by
    obtain ⟨spec, hspec, rfl⟩ := h.has_iff.1 (has_of_status? hst)
    rw [h.status?_eq hall hspec] at hst
    exact ⟨List.mem_map_of_mem hspec, (Option.some.inj hst).symm⟩
  have hcompleted : o.scheduler.idsWithStatus .completed =
      sortedStrings (plan.specs.map (·.id)) := by
    refine hc.ascending_idsWithStatus.eq_of_mem_iff (ascending_sortedStrings plan.distinct)
      fun id => ?_
    rw [hc.mem_idsWithStatus, mem_sortedStrings]
    constructor
    · exact fun hst => (hstatus hst).1
    · intro hmem
      obtain ⟨spec, hspec, rfl⟩ := List.mem_map.1 hmem
      exact h.status?_eq hall hspec
  have hnone : ∀ st, st ≠ .completed → o.scheduler.idsWithStatus st = [] := fun st hne =>
    List.eq_nil_iff_forall_not_mem.2 fun id hid =>
      hne (hstatus (hc.mem_idsWithStatus.1 hid)).2
  rw [Orchestrator.summary, hcompleted, hnone .failed (by decide), hnone .blocked (by decide),
    hnone .inProgress (by decide)]

end

end Plan

namespace Coordinator

section
variable {c c' : Coordinator α} {options : RunOptions} {J : List (Entry α)} {id : TaskId}
  {ending : CallEnd} {step : Step α} {steps : List (Step α)} {entries : List (Entry α)}
  {ops : List Operation} {specs : List Submission} {summary : RunSummary}
  {policy : FailurePolicy} {now : Instant} {spec : Submission}

/-! ## What a journal reports -/

/-- What is reported of the call for a task. One that has not ended could be anything; here it counts
as a success. -/
def reportIn (J : List (Entry α)) (id : TaskId) : Outcome :=
  match Dict.find? (ended J) id with
  | some ending => .ofResult ending.result
  | none => .success .null

/-- An end that is seen is among the calls that have ended. -/
theorem mem_ended : (id, ending) ∈ ended J ↔ .ended id ending ∈ J := by
  rw [ended, List.mem_filterMap]
  constructor
  · rintro ⟨entry, hentry, he⟩
    cases entry with
    | ended x e =>
      obtain ⟨rfl, rfl⟩ := Prod.mk.inj (Option.some.inj he)
      exact hentry
    | called | received | runOver => cases he
  · exact fun hentry => ⟨_, hentry, rfl⟩

/-- No task has a call that ends twice. -/
theorem Accounted.ended_nodup (h : Accounted options J c) : (Dict.keys (ended J)).Nodup := by
  obtain ⟨history, hrec, hassign⟩ := h.recorded
  have honce := hrec.once
  rw [hassign, List.map_map] at honce
  exact (List.nodup_append.1 (h.calls.nodup_iff.1 honce)).2.1

/-- Every call that has ended is reported as the journal says. -/
theorem Accounted.reported_reportIn (h : Accounted options J c) (hended : .ended id ending ∈ J) :
    Reported ending (reportIn J id) := by
  have hfind := (Dict.find?_eq_some_iff h.ended_nodup).2 (mem_ended.2 hended)
  rw [reportIn, hfind]
  exact reported_ofResult ending

/-- If every call that has ended was a success, nothing else is reported. -/
theorem Accounted.reportIn_success (h : Accounted options J c)
    (hsuccess : ∀ id ending, .ended id ending ∈ J → ∃ v, ending = .returned (.ok v))
    (id : TaskId) : ∃ v, reportIn J id = .success v := by
  cases hfind : Dict.find? (ended J) id with
  | none => exact ⟨.null, by rw [reportIn, hfind]⟩
  | some ending =>
    have hended := mem_ended.1 ((Dict.find?_eq_some_iff h.ended_nodup).1 hfind)
    obtain ⟨v, rfl⟩ := hsuccess id ending hended
    exact ⟨v, by rw [reportIn, hfind]; rfl⟩

/-! ## Runs that are let go on -/

/-- A turn interrupts no run. -/
theorem phase_wake_ne : (c.wake now).phase ≠ .leaving true := by
  rw [phase_wake]
  split <;> nofun

/-- Only a shutdown interrupts a run. -/
theorem Acts.phase_ne (h : c.Acts step entries ops specs c') (hstep : step ≠ .shutdown)
    (hphase : c.phase ≠ .leaving true) : c'.phase ≠ .leaving true := by
  cases h with
  | nothing | announce | finish => exact hphase
  | register hr =>
    obtain ⟨registry, -, rfl⟩ := register_eq_ok hr
    exact hphase
  | submit hs =>
    obtain ⟨-, s', -, rfl⟩ := accept_eq_ok hs
    exact hphase
  | begin | wake => exact phase_wake_ne
  | receive _ he =>
    rw [receive_eq he]
    exact phase_wake_ne
  | shutdown => exact absurd rfl hstep
  | conclude => nofun

/-- Without a shutdown no run is interrupted. -/
theorem phase_after_ne (hsteps : ∀ step ∈ steps, step ≠ .shutdown)
    (hphase : c.phase ≠ .leaving true) : (c.after steps).phase ≠ .leaving true := by
  induction steps generalizing c with
  | nil => exact hphase
  | cons step steps ih =>
    obtain ⟨hstep, hsteps⟩ := List.forall_mem_cons.1 hsteps
    exact ih hsteps ((c.acts step).phase_ne hstep hphase)

/-- A run that returns without a shutdown is not interrupted. -/
theorem Returns.uninterrupted (h : c.Returns steps summary)
    (hsteps : ∀ step ∈ steps, step ≠ .shutdown) (hphase : c.phase ≠ .leaving true) :
    summary.interrupted = false := by
  obtain ⟨before, rfl, hleaving, -⟩ := h.exists_leaving
  have hne : (c.after before).phase ≠ .leaving true :=
    phase_after_ne (fun step hstep => hsteps step (List.mem_append_left _ hstep)) hphase
  rw [hleaving] at hne
  exact Bool.eq_false_iff.2 fun hi => hne (congrArg RunPhase.leaving hi)

/-! ## Before a run -/

/-- A coordinator that has been given roles and the tasks `specs`, and nothing else has happened. -/
structure Prepared (options : RunOptions) (policy : FailurePolicy) (now : Instant)
    (specs : List Submission) (c : Coordinator α) : Prop where
  accounted : Accounted options [] c
  filled : c.core.scheduler.Filled now specs
  policy_eq : c.core.scheduler.policy = policy
  phase_eq : c.phase = .idle

/-- Only a limit under which nothing could run is refused. -/
theorem exists_new_eq_ok (h : options.maxConcurrency ≠ some 0) :
    ∃ c : Coordinator α, Coordinator.new policy options = .ok c := by
  unfold Coordinator.new Orchestrator.new RunOptions.validate
  rw [if_neg h]
  exact ⟨_, rfl⟩

/-- A new coordinator has been given nothing. -/
theorem Prepared.new (h : Coordinator.new policy options = .ok c) (now : Instant) :
    Prepared options policy now [] c := by
  have hacc : Accounted options [] c := .new h
  obtain rfl := new_eq_ok h
  exact ⟨hacc, .new policy, rfl, rfl⟩

/-- A role is bound unless it is bound already. -/
theorem Prepared.register {role : RoleName} (h : Prepared options policy now specs c)
    (executor : α) (hrole : c.core.registry.contains role = false) :
    ∃ c', c.register role executor = .ok c' ∧ Prepared options policy now specs c' ∧
      c'.core.registry.executors = Dict.insert c.core.registry.executors role executor := by
  have hregistry : c.core.registry.register role executor =
      .ok ⟨Dict.insert c.core.registry.executors role executor⟩ := by
    rw [Registry.register, hrole]
    rfl
  have hregister : c.register role executor = .ok { c with core := { c.core with
      registry := ⟨Dict.insert c.core.registry.executors role executor⟩ } } := by
    simp only [Coordinator.register, Orchestrator.register, hregistry]
    rfl
  exact ⟨_, hregister, ⟨h.accounted.register hregister, h.filled, h.policy_eq, h.phase_eq⟩, rfl⟩

/-- A task of a bound role is accepted unless its name is taken. -/
theorem Prepared.submit (h : Prepared options policy now specs c)
    (hrole : c.core.registry.contains spec.role = true)
    (hnew : spec.id ∉ specs.map (·.id)) :
    ∃ t c', c.submit now spec.id spec.role spec.description spec.dependencies = .ok (t, c') ∧
      Prepared options policy now (specs ++ [spec]) c' ∧ c'.core.registry = c.core.registry := by
  have hfresh : c.core.scheduler.has spec.id = false := by
    rw [← Bool.not_eq_true, h.filled.has_iff]
    exact hnew
  obtain ⟨s', hsubmit, hfilled, hpolicy⟩ := h.filled.submit hfresh
  have hs : c.accept now spec.id spec.role spec.description spec.dependencies =
      .ok (spec.record now, c.withScheduler s') := by
    simp only [accept, Orchestrator.submit, hrole, hsubmit]
    rfl
  refine ⟨spec.record now, (c.withScheduler s').announce spec.id, ?_,
    ⟨(h.accounted.accept hs).announce spec.id, hfilled, hpolicy.trans h.policy_eq, h.phase_eq⟩, rfl⟩
  rw [Coordinator.submit, hs]
  rfl

/-- If each task comes after those it depends on, no run is shut down and every call that ends has
succeeded, all tasks have completed when a run returns. -/
theorem Prepared.completed (h : Prepared options policy now specs c)
    (hdistinct : (specs.map (·.id)).Nodup) (hordered : Submission.Ordered specs)
    (hsteps : ∀ step ∈ steps, ¬step.IsRequest ∧ step ≠ .shutdown)
    (hsuccess : ∀ id ending, .ended id ending ∈ c.journal steps → ∃ v, ending = .returned (.ok v))
    (hreturns : c.Returns steps summary) :
    summary = ⟨sortedStrings (specs.map (·.id)), [], [], [], false⟩ ∧
      ∀ spec ∈ specs, (c.after steps).core.scheduler.status? spec.id = some .completed := by
  have hacc : Accounted options (c.journal steps) (c.after steps) := h.accounted.after steps
  let plan : Plan := ⟨policy, specs, reportIn (c.journal steps), hdistinct⟩
  have haccepted : c.accepted steps = [] := accepted_eq_nil fun step hstep => (hsteps step hstep).1
  have htracks : plan.Tracks (c.after steps).core.scheduler :=
    h.accounted.tracks_after (h.filled.tracks h.policy_eq)
      (fun id ending hended => hacc.reported_reportIn hended)
      fun spec hspec => absurd (haccepted ▸ hspec) List.not_mem_nil
  have hi : summary.interrupted = false := by
    refine hreturns.uninterrupted (fun step hstep => (hsteps step hstep).2) ?_
    rw [h.phase_eq]
    nofun
  have hcaught : c.CaughtUp steps :=
    caughtUp_of_late_eq_nil (late_eq_nil fun step hstep => (hsteps step hstep).1)
  have hrest := h.accounted.isQuiescent_after h.phase_eq hreturns hi hcaught
  have hsummary := (hreturns.closing h.accounted).1
  -- No step takes a record away.
  have hhas : ∀ spec ∈ plan.specs, (c.after steps).core.scheduler.has spec.id = true := by
    intro spec hspec
    rw [h.accounted.scheduler_after steps]
    exact Plan.has_performAll h.filled.coherent (h.filled.has_iff.2 (List.mem_map_of_mem hspec))
  have hconcluded : plan.Concluded (c.after steps).core.scheduler := ⟨htracks, hhas, hrest⟩
  have hall : ∀ spec ∈ plan.specs, plan.Completes spec.id :=
    Plan.completes_of_ordered hordered (hacc.reportIn_success hsuccess)
  rw [hi] at hsummary
  exact ⟨hsummary.trans (hconcluded.summary_of_completes hall),
    fun spec hspec => hconcluded.status?_eq hall hspec⟩

end

end Coordinator

end Taskweave
