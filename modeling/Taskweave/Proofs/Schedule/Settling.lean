import Taskweave.Proofs.Schedule.Failures
import Taskweave.Proofs.Schedule.Plan
import Taskweave.Proofs.Schedule.Work

/-!
# A plan settles how its tasks end

However a plan is carried out, a scheduler that comes to rest has every task as the plan settles it.
`Plan.Tracks` is what holds on the way: what has completed or failed is meant to (`Plan.Upheld`),
and, where failures cascade, no task waits for one that has failed. The last part does not hold in
the middle of an operation, when a task has failed and its dependents have not yet, so `Plan.Sound`
stands for the others; that it holds after an operation is `Scheduler.Coherent.closes_perform`.
-/

namespace Taskweave

open Scheduler

namespace Plan

/-- What a scheduler has done is what its plan settles. -/
structure Sound (plan : Plan) (s : Scheduler) : Prop where
  coherent : s.Coherent
  policy : s.policy = plan.policy
  listed : ∀ id p, s.profile? id = some p →
    ∃ spec ∈ plan.specs, spec.id = id ∧ p.dependencies = spec.dependencies.eraseDups
  completes : ∀ id v, s.Yields id v → plan.Completes id ∧ plan.outcome id = .success v
  fails : ∀ id, s.status? id = some .failed → plan.Fails id

/-- What a scheduler has done is what its plan settles, and it has followed up every failure. -/
structure Upheld (plan : Plan) (s : Scheduler) : Prop extends Sound plan s where
  closed : plan.policy = .cascade → ∀ d, s.Closes d

/-- A scheduler that upholds its plan, with records that fit their statuses. -/
structure Tracks (plan : Plan) (s : Scheduler) : Prop extends Upheld plan s where
  fits : s.AllFit

section
variable {plan : Plan} {s s' : Scheduler} {now : Instant} {limit : Option Nat} {id x : TaskId}
  {ids : List TaskId} {t : Task}

/-- A task that depends on one that fails fails, where failures cascade. -/
theorem Sound.fails_of_dependent {c : TaskId} (h : plan.Sound s) (hp : plan.policy = .cascade)
    (hc : plan.Fails c) (hx : x ∈ s.index.dependentsOf c) : plan.Fails x := by
  obtain ⟨p, hprof, hmem⟩ := h.coherent.mem_dependentsOf.1 hx
  obtain ⟨spec, hspec, rfl, hdeps⟩ := h.listed x p hprof
  exact .inherited hp hspec (List.mem_eraseDups.1 (hdeps ▸ hmem)) hc

/-- A cascade from a task that has failed stays sound. -/
theorem Sound.cascaded (h : plan.Sound s) (hc : Cascaded s now id s' ids)
    (hid : s.status? id = some .failed) (hp : plan.policy = .cascade) : plan.Sound s' := by
  have hopen : s.isCompleted id = false := isCompleted_of_failed hid
  refine ⟨h.coherent.cascaded hc hopen, ?_, fun x p hprof => ?_, fun x v hy => ?_, fun x hx => ?_⟩
  · rw [hc.frame]
    exact h.policy
  · rw [profile?_congr hc.outline_eq] at hprof
    exact h.listed x p hprof
  · rw [yields_congr (fun ht => hc.move h.coherent hopen (h.policy.trans hp) ht)
      (hc.isCompleted_eq h.coherent hopen)] at hy
    exact h.completes x v hy
  · by_cases hmem : x ∈ ids
    · exact hc.traced (h.fails id hid) (fun c hfc y hy => h.fails_of_dependent hp hfc hy) x hmem
    · rw [status?, hc.kept x hmem] at hx
      exact h.fails x hx

/-- The dependencies of a task that runs complete. -/
theorem Tracks.completes_of_inFlight {spec : Submission} (h : plan.Tracks s)
    (hfl : spec.id ∈ s.inFlight) (hspec : spec ∈ plan.specs) :
    ∀ d ∈ spec.dependencies, plan.Completes d := by
  have hrun := (h.coherent.mem_inFlight spec.id).1 hfl
  obtain ⟨p, hp⟩ := exists_profile? hrun
  obtain ⟨spec', hspec', hid, hdeps⟩ := h.listed spec.id p hp
  obtain rfl := eq_of_id_eq hspec' hspec hid
  intro d hd
  have hmem : d ∈ p.dependencies := by
    rw [hdeps, List.mem_eraseDups]
    exact hd
  obtain ⟨v, hv⟩ := h.fits.exists_yields
    (h.coherent.satisfied hp hrun (by decide) (by decide) d hmem)
  exact (h.completes d v hv).1

/-- A task in flight is one of the plan. -/
theorem Tracks.exists_spec (h : plan.Tracks s) (hfl : id ∈ s.inFlight) :
    ∃ spec ∈ plan.specs, spec.id = id := by
  obtain ⟨p, hp⟩ := exists_profile? ((h.coherent.mem_inFlight id).1 hfl)
  obtain ⟨spec, hspec, hid, -⟩ := h.listed id p hp
  exact ⟨spec, hspec, hid⟩

/-- There is nothing to track in a scheduler without tasks. -/
theorem Tracks.new (plan : Plan) : plan.Tracks (.new plan.policy) where
  coherent := .new plan.policy
  policy := rfl
  listed := nofun
  completes id v hy := by
    obtain ⟨t, ht, -⟩ := hy
    cases ht
  fails := nofun
  fits := .new plan.policy
  closed _ _ := nofun

/-! ## Steps -/

/-- A dispatch stays sound. -/
theorem Sound.dispatch (h : plan.Sound s) (now : Instant) (limit : Option Nat) :
    plan.Sound (s.dispatch now limit).2 := by
  have hc := h.coherent
  refine ⟨hc.dispatched now limit, ?_, fun x p hp => ?_, fun x v hy => ?_, fun x hx => ?_⟩
  · rw [hc.dispatch_snd]
    exact h.policy
  · rw [profile?_congr hc.outline_dispatch] at hp
    exact h.listed x p hp
  · rw [yields_congr (fun ht => hc.move_dispatch ht) hc.isCompleted_dispatch] at hy
    exact h.completes x v hy
  · exact h.fails x (hc.failed_dispatch_iff.1 hx)

/-- A task that ends with the success that the plan has for it is sound. -/
theorem Tracks.succeeded {result : Json} (h : plan.Tracks s) (hfl : id ∈ s.inFlight)
    (ho : plan.outcome id = .success result) : plan.Sound (s.succeeded now id result) := by
  have hc := h.coherent
  refine ⟨hc.succeeded hfl now result, h.policy, fun x p hp => ?_, fun x v hy => ?_,
    fun x hx => ?_⟩
  · rw [profile?_congr outline_succeeded] at hp
    exact h.listed x p hp
  · rcases (hc.yields_succeeded hfl).1 hy with hy | ⟨rfl, rfl⟩
    · exact h.completes x v hy
    · obtain ⟨spec, hspec, rfl⟩ := h.exists_spec hfl
      exact ⟨.intro hspec (h.completes_of_inFlight hfl hspec) ho, ho⟩
  · exact h.fails x ((hc.failed_succeeded_iff hfl).1 hx)

/-- A task that ends with the failure that the plan has for it is sound, before anything
cascades. -/
theorem Tracks.failedAt {error : String} (h : plan.Tracks s) (hfl : id ∈ s.inFlight)
    (ho : plan.outcome id = .failure error) : plan.Sound (s.failedAt now id error) := by
  have hc := h.coherent
  have hout : outline (s.failedAt now id error).tasks = outline s.tasks :=
    outline_modifyTask fun t => Task.profile_fail now t error
  refine ⟨hc.failedAt hfl now error, h.policy, fun x p hp => ?_, fun x v hy => ?_, fun x hx => ?_⟩
  · rw [profile?_congr hout] at hp
    exact h.listed x p hp
  · rw [yields_congr (fun ht => hc.move_failedAt hfl ht) (hc.isCompleted_failedAt_eq hfl)] at hy
    exact h.completes x v hy
  · rw [hc.status?_failedAt hfl] at hx
    split at hx
    · next hid =>
      obtain ⟨spec, hspec, rfl⟩ := h.exists_spec hfl
      exact hid ▸ .own hspec (h.completes_of_inFlight hfl hspec) ho
    · exact h.fails x hx

/-- A task that ends as the plan has it is sound. -/
theorem Tracks.ends (h : plan.Tracks s) (he : s.Ends now id (plan.outcome id) s') :
    plan.Sound s' := by
  generalize ho : plan.outcome id = outcome at he
  cases he with
  | ignored => exact h.toSound
  | succeeded hfl => exact h.succeeded hfl ho
  | failed hfl => exact h.failedAt hfl ho
  | cascaded hfl hp hcas =>
    exact (h.failedAt hfl ho).cascaded hcas (h.coherent.failed_failedAt hfl)
      (h.policy.symm.trans hp)

/-- A new task of the plan is sound, before anything cascades. -/
theorem Sound.entered (h : plan.Sound s) (hnew : s.has t.id = false) (hc : (s.entered t).Coherent)
    (hspec : ∃ spec ∈ plan.specs, spec.id = t.id ∧ t.dependencies = spec.dependencies.eraseDups)
    (hst : t.status ≠ .completed) (hf : t.status = .failed → plan.Fails t.id) :
    plan.Sound (s.entered t) := by
  refine ⟨hc, h.policy, fun x p hp => ?_, fun x v hy => ?_, fun x hx => ?_⟩
  · rw [profile?_entered hnew] at hp
    split at hp
    · next hx =>
      obtain rfl := Option.some.inj hp
      exact hx ▸ hspec
    · exact h.listed x p hp
  · have hstay : ∀ {t₀}, s.task? x = some t₀ →
        ∃ t₁, (s.entered t).task? x = some t₁ ∧ Task.Move s.policy t₀ t₁ := fun ht =>
      ⟨_, task?_entered_of_some hnew ht, .stay _⟩
    rw [yields_congr hstay (isCompleted_entered hnew hst)] at hy
    exact h.completes x v hy
  · rw [status?_entered hnew] at hx
    split at hx
    · next hid => exact hid ▸ hf (Option.some.inj hx)
    · exact h.fails x hx

/-- A submission of the plan is sound. -/
theorem Sound.enters {role : RoleName} {description : String} {deps : List TaskId}
    (h : plan.Sound s) (hspec : ⟨id, role, description, deps⟩ ∈ plan.specs)
    (he : s.Enters now id role description deps t s') : plan.Sound s' := by
  have hc' := he.coherent h.coherent
  cases he with
  | fresh hnew =>
    exact h.entered hnew hc' ⟨_, hspec, rfl, rfl⟩ status_fresh.1 fun hf =>
      absurd hf status_fresh.2
  | @doomed d s' ids hnew hd hcas =>
    obtain ⟨hp, hmem, hfd⟩ := failedDependency?_eq_some hd
    have hpolicy := h.policy.symm.trans hp
    have hsound : plan.Sound (s.entered (s.doomed now id role description deps d)) :=
      h.entered hnew (h.coherent.entered_doomed hnew) ⟨_, hspec, rfl, rfl⟩ status_doomed_ne
        fun _ => .inherited hpolicy hspec (List.mem_eraseDups.1 hmem) (h.fails d hfd)
    exact hsound.cascaded hcas (failed_entered_doomed hnew) hpolicy

/-- An operation that fits the plan is sound. -/
theorem Tracks.sound_perform {op : Operation} (h : plan.Tracks s) (hop : plan.Allows s op) :
    plan.Sound (s.perform op) := by
  cases op with
  | submit now id role description deps =>
    cases hs : s.submit now id role description deps with
    | ok r => simpa only [Scheduler.perform, hs] using h.toSound.enters hop (enters_of_submit hs)
    | error e => simpa only [Scheduler.perform, hs] using h.toSound
  | dispatch now limit => exact h.toSound.dispatch now limit
  | complete now id outcome =>
    obtain ⟨-, rfl⟩ := hop
    exact h.ends (h.coherent.ends now id _)

/-- An operation that fits the plan keeps to it. -/
theorem Tracks.perform {op : Operation} (h : plan.Tracks s) (hop : plan.Allows s op) :
    plan.Tracks (s.perform op) where
  toSound := h.sound_perform hop
  closed hp _ := h.coherent.closes_perform op (h.policy.trans hp) (h.closed hp)
  fits := h.fits.perform h.coherent op

/-- Operations that follow the plan keep to it. -/
theorem Tracks.performAll {ops : List Operation} (h : plan.Tracks s) (hops : plan.Follows s ops) :
    plan.Tracks (s.performAll ops) := by
  induction ops generalizing s with
  | nil => exact h
  | cons op ops ih => exact ih (h.perform hops.1) hops.2

/-! ## Rest -/

/-- A task of the plan that has a record when the scheduler is at rest has ended, or waits for one
that has not completed. -/
theorem Tracks.status?_cases {spec : Submission} (h : plan.Tracks s) (hq : s.isQuiescent = true)
    (hspec : spec ∈ plan.specs) (hhas : s.has spec.id = true) :
    s.status? spec.id = some .completed ∨ s.status? spec.id = some .failed ∨
      s.status? spec.id = some .blocked ∧ ∃ d ∈ spec.dependencies, s.isCompleted d = false := by
  refine (h.coherent.status?_of_isQuiescent hq hhas).imp_right (Or.imp_right fun hst => ⟨hst, ?_⟩)
  obtain ⟨p, hp⟩ := exists_profile? hst
  obtain ⟨spec', hspec', hid, hdeps⟩ := h.listed spec.id p hp
  obtain rfl := eq_of_id_eq hspec' hspec hid
  obtain ⟨d, hd, hopen⟩ := h.coherent.blocked hp hst
  exact ⟨d, List.mem_eraseDups.1 (hdeps ▸ hd), hopen⟩

/-- At rest, what is meant to complete has completed. -/
theorem Tracks.isCompleted_of_completes (h : plan.Tracks s) (hq : s.isQuiescent = true)
    (hall : ∀ spec ∈ plan.specs, s.has spec.id = true) (hc : plan.Completes id) :
    s.isCompleted id = true := by
  induction hc with
  | @intro spec v hspec hdeps hv ih =>
    rcases h.status?_cases hq hspec (hall spec hspec) with hst | hst | ⟨-, d, hd, hopen⟩
    · exact isCompleted_iff.2 hst
    · exact absurd (h.fails spec.id hst) (Completes.intro hspec hdeps hv).not_fails
    · rw [ih d hd] at hopen
      cases hopen

/-- A task that has completed is meant to. -/
theorem Tracks.completes_of_isCompleted (h : plan.Tracks s) (hc : s.isCompleted id = true) :
    plan.Completes id := by
  obtain ⟨v, hv⟩ := h.fits.exists_yields hc
  exact (h.completes id v hv).1

/-- At rest, what is meant to fail has failed. -/
theorem Tracks.failed_of_fails (h : plan.Tracks s) (hq : s.isQuiescent = true)
    (hall : ∀ spec ∈ plan.specs, s.has spec.id = true) (hf : plan.Fails id) :
    s.status? id = some .failed := by
  induction hf with
  | @own spec e hspec hdeps he =>
    rcases h.status?_cases hq hspec (hall spec hspec) with hst | hst | ⟨-, d, hd, hopen⟩
    · obtain ⟨v, hv⟩ := (h.completes_of_isCompleted (isCompleted_iff.2 hst)).exists_success
      rw [he] at hv
      cases hv
    · exact hst
    · rw [h.isCompleted_of_completes hq hall (hdeps d hd)] at hopen
      cases hopen
  | @inherited spec d hp hspec hd _ ih =>
    obtain ⟨t, ht⟩ := Option.isSome_iff_exists.1 (hall spec hspec)
    obtain ⟨spec', hspec', hid, hdeps⟩ := h.listed spec.id _ (profile?_of_task? ht)
    obtain rfl := eq_of_id_eq hspec' hspec hid
    refine h.closed hp d spec'.id _ (profile?_of_task? ht) ?_ ih
    rw [hdeps, List.mem_eraseDups]
    exact hd

/-- At rest, every record is as the plan settles it. -/
theorem Tracks.settles (h : plan.Tracks s) (hq : s.isQuiescent = true)
    (hall : ∀ spec ∈ plan.specs, s.has spec.id = true) (ht : s.task? id = some t) :
    plan.Settles id t := by
  have hst := status?_of_task? ht
  have hcompleted : t.status = .completed ↔ plan.Completes id := by
    constructor
    · intro hs
      exact h.completes_of_isCompleted (isCompleted_iff.2 (hst.trans (congrArg some hs)))
    · intro hc
      exact status_of_status? ht (isCompleted_iff.1 (h.isCompleted_of_completes hq hall hc))
  have hfailed : t.status = .failed ↔ plan.Fails id := by
    constructor
    · intro hs
      exact h.fails id (hst.trans (congrArg some hs))
    · intro hf
      exact status_of_status? ht (h.failed_of_fails hq hall hf)
  obtain ⟨hpending, hrun⟩ := h.coherent.isQuiescent_iff.1 hq id
  refine ⟨hcompleted, hfailed, ?_, fun v => ?_⟩
  · rw [← hcompleted, ← hfailed]
    rw [hst] at hpending hrun
    cases hs : t.status with
    | pending => exact absurd (congrArg some hs) hpending
    | inProgress => exact absurd (congrArg some hs) hrun
    | completed | failed | blocked => decide
  · constructor
    · intro hv
      exact h.completes id v (h.fits.yields_iff.2 (by rw [ht]; exact hv))
    · rintro ⟨hc, ho⟩
      obtain ⟨w, hw⟩ := h.fits.exists_yields (h.isCompleted_of_completes hq hall hc)
      have hv := (h.completes id w hw).2
      rw [ho] at hv
      obtain rfl := Outcome.success.inj hv
      have hres := h.fits.yields_iff.1 hw
      rw [ht] at hres
      exact hres

end

end Plan

end Taskweave
