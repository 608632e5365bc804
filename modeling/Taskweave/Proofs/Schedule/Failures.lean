import Taskweave.Proofs.Schedule.History

/-!
# How failures spread

Where failures cascade, no task waits for one that has failed, whichever of the two was submitted
first. `Scheduler.Closes` says so of one dependency at a time, because it does not hold of all of
them in the middle of an operation, when a task has failed and its dependents have not yet: a
cascade from the one dependency for which it fails restores it (`Scheduler.Cascaded.closes`). The
other way round, a task that fails without having run names a dependency that has failed
(`Scheduler.Explains`). `FailuresSpread` says both of a run as its caller sees it.
-/

namespace Taskweave

open Occurrence Scheduler

namespace Scheduler

/-- Every task that lists `d` has failed, if `d` has. -/
def Closes (s : Scheduler) (d : TaskId) : Prop :=
  ∀ x p, s.profile? x = some p → d ∈ p.dependencies → s.status? d = some .failed →
    s.status? x = some .failed

/-- Failures cascade, and the error of a record is that one of its dependencies has failed. -/
def Explains (s : Scheduler) (t : Task) : Prop :=
  s.policy = .cascade ∧
    ∃ d ∈ t.dependencies, s.status? d = some .failed ∧ t.error = some (dependencyFailed d)

section
variable {s s' : Scheduler} {now : Instant} {limit : Option Nat} {id x d : TaskId}
  {p : Task.Profile} {ids : List TaskId} {t : Task} {outcome : Outcome}

/-! ## Which tasks fail -/

/-- A dispatch fails no task. -/
theorem Coherent.failed_dispatch_iff (h : s.Coherent) :
    (s.dispatch now limit).2.status? x = some .failed ↔ s.status? x = some .failed := by
  rw [h.status?_dispatch]
  split
  · next hx =>
    rw [(h.startable.2 x hx).1]
    exact ⟨nofun, nofun⟩
  · rfl

/-- A success fails no task. -/
theorem Coherent.failed_succeeded_iff {result : Json} (h : s.Coherent) (hfl : id ∈ s.inFlight) :
    (s.succeeded now id result).status? x = some .failed ↔ s.status? x = some .failed := by
  rw [h.status?_succeeded hfl]
  split
  · next hx =>
    rw [hx, (h.mem_inFlight id).1 hfl]
    exact ⟨nofun, nofun⟩
  · split
    · next hr =>
      rw [(h.mem_released.1 hr).1]
      exact ⟨nofun, nofun⟩
    · rfl

/-- A task that has failed stays failed. -/
theorem Coherent.failed_perform (h : s.Coherent) (op : Operation)
    (hx : s.status? x = some .failed) : (s.perform op).status? x = some .failed := by
  obtain ⟨t, ht, hst⟩ := exists_task?_of_status? hx
  have hsame := h.task?_perform_of_isTerminal ht (Task.isTerminal_iff.2 (.inr hst)) op
  rw [status?_of_task? hsame, hst]

/-- A cascade takes no failure back. -/
theorem Cascaded.failed_of_failed (h : s.Coherent) (hc : Cascaded s now id s' ids)
    (hid : s.isCompleted id = false) (hx : s.status? x = some .failed) :
    s'.status? x = some .failed := by
  rcases hc.status? h hid x with hsame | ⟨hfailed, -⟩
  · rw [hsame, hx]
  · exact hfailed

/-! ## Failed dependencies -/

/-- An operation after which the same tasks have failed. -/
theorem Closes.of_failed_iff (h : s.Closes d) (hout : outline s'.tasks = outline s.tasks)
    (hst : ∀ x, s'.status? x = some .failed ↔ s.status? x = some .failed) : s'.Closes d := by
  intro x p hp hd hf
  rw [profile?_congr hout] at hp
  exact (hst x).2 (h x p hp hd ((hst d).1 hf))

/-- A task that does not wait although a dependency has not completed has failed. -/
theorem Coherent.failed_of_not_waiting (h : s.Coherent) (hp : s.profile? x = some p)
    (hd : d ∈ p.dependencies) (hopen : s.isCompleted d = false)
    (hw : isWaiting s.tasks x = false) : s.status? x = some .failed := by
  obtain ⟨t, ht, rfl⟩ := Option.map_eq_some_iff.1 hp
  have hst := status?_of_task? ht
  have hdone : t.status ≠ .blocked → t.status ≠ .failed → False := fun hb hf => by
    have := h.satisfied hp hst hb hf d hd
    rw [hopen] at this
    cases this
  have hwait : t.status.isWaiting = false := by
    rw [Bool.eq_false_iff]
    exact fun hw' => Bool.eq_false_iff.1 hw (isWaiting_iff.2 ⟨t, ht, hw'⟩)
  rw [hst]
  cases hs : t.status with
  | failed => rfl
  | pending | blocked => rw [hs] at hwait; cases hwait
  | inProgress | completed => exact (hdone (by rw [hs]; decide) (by rw [hs]; decide)).elim

/-- A new task keeps the tasks that list `d` failed, if it has failed itself or need not. -/
theorem Closes.entered (h : s.Closes d) (hnew : s.has t.id = false) (hd : d ≠ t.id)
    (hself : d ∈ t.dependencies → s.status? d = some .failed → t.status = .failed) :
    (s.entered t).Closes d := by
  intro x p hp hmem hf
  rw [status?_entered hnew, if_neg hd] at hf
  rw [profile?_entered hnew] at hp
  rw [status?_entered hnew]
  split at hp
  · next hx =>
    obtain rfl := Option.some.inj hp
    rw [if_pos hx, hself hmem hf]
  · next hx =>
    rw [if_neg hx]
    exact h x p hp hmem hf

/-- A cascade from a failed task fails what is left of the tasks that list a failed one. -/
theorem Cascaded.closes (h : s.Coherent) (hc : Cascaded s now id s' ids)
    (hid : s.status? id = some .failed) (hclosed : ∀ d, d ≠ id → s.Closes d) : s'.Closes d := by
  have hopen : s.isCompleted id = false := isCompleted_of_failed hid
  have h' := h.cascaded hc hopen
  intro x p hp hd hf
  by_cases hmem : d ∈ id :: ids
  · have hdep : x ∈ s.index.dependentsOf d := by
      rw [h.mem_dependentsOf]
      exact ⟨p, (profile?_congr hc.outline_eq x).symm.trans hp, hd⟩
    exact h'.failed_of_not_waiting hp hd (isCompleted_of_failed hf) (hc.closed d hmem x hdep)
  · obtain ⟨hne, hnot⟩ := not_or.1 (mt List.mem_cons.2 hmem)
    have hfd : s.status? d = some .failed := by
      rw [Scheduler.status?, ← hc.kept d hnot]
      exact hf
    rw [profile?_congr hc.outline_eq] at hp
    exact hc.failed_of_failed h hopen (hclosed d hne x p hp hd hfd)

/-- A dispatch leaves no failure half-way. -/
theorem Coherent.closes_dispatch (h : s.Coherent) (hcl : s.Closes d) :
    (s.dispatch now limit).2.Closes d :=
  hcl.of_failed_iff h.outline_dispatch fun _ => h.failed_dispatch_iff

/-- Where failures cascade, an outcome leaves none half-way. -/
theorem Ends.closes (he : s.Ends now id outcome s') (h : s.Coherent)
    (hp : s.policy = .cascade) (hcl : ∀ d, s.Closes d) : s'.Closes d := by
  cases he with
  | ignored => exact hcl d
  | succeeded hfl =>
    exact (hcl d).of_failed_iff outline_succeeded fun x => h.failed_succeeded_iff hfl
  | failed _ hblock =>
    rw [hp] at hblock
    cases hblock
  | @cascaded error s' ids hfl _ hcas =>
    refine hcas.closes (h.failedAt hfl now error) (h.failed_failedAt hfl)
      fun d hd x p hprof hmem hfd => ?_
    rw [h.status?_failedAt hfl, if_neg hd] at hfd
    rw [profile?_congr (outline_modifyTask fun t => Task.profile_fail now t error)] at hprof
    rw [h.status?_failedAt hfl, hcl d x p hprof hmem hfd]
    split <;> rfl

/-- Where failures cascade, a submission leaves none half-way. -/
theorem Enters.closes {role : RoleName} {description : String} {deps : List TaskId}
    (he : s.Enters now id role description deps t s') (h : s.Coherent)
    (hp : s.policy = .cascade) (hcl : ∀ d, s.Closes d) : s'.Closes d := by
  cases he with
  | fresh hnew hd =>
    by_cases hid : d = (s.fresh now id role description deps).id
    · -- The new task itself has not failed.
      intro x p _ _ hf
      rw [status?_entered hnew, if_pos hid] at hf
      exact absurd (Option.some.inj hf) status_fresh.2
    · refine (hcl d).entered hnew hid fun hmem hf => ?_
      rw [failedDependency?, hp] at hd
      exact absurd (beq_iff_eq.2 hf) (List.find?_eq_none.1 hd d hmem)
  | @doomed d' s' ids hnew hd hcas =>
    refine hcas.closes (h.entered_doomed hnew) (failed_entered_doomed hnew) fun y hy => ?_
    exact (hcl y).entered hnew hy fun _ _ => rfl

/-- Where failures cascade, an operation leaves none half-way. -/
theorem Coherent.closes_perform (h : s.Coherent) (op : Operation) (hp : s.policy = .cascade)
    (hcl : ∀ d, s.Closes d) : (s.perform op).Closes d := by
  cases op with
  | submit now id role description deps =>
    cases hs : s.submit now id role description deps with
    | ok r => simpa only [Scheduler.perform, hs] using (enters_of_submit hs).closes h hp hcl
    | error e => simpa only [Scheduler.perform, hs] using hcl d
  | dispatch now limit => exact h.closes_dispatch (hcl d)
  | complete now id outcome => exact (h.ends now id outcome).closes h hp hcl

/-! ## Tasks that fail without having run -/

/-- A task that fails in a cascade has a dependency that has failed, and its record names it. -/
theorem Cascaded.exists_cause (h : s.Coherent) (hc : Cascaded s now id s' ids)
    (hid : s.status? id = some .failed) (hx : x ∈ ids) :
    ∃ t d, s.task? x = some t ∧ d ∈ t.dependencies ∧ s'.status? d = some .failed ∧
      s'.task? x = some (t.fail now (dependencyFailed d)) := by
  have hopen : s.isCompleted id = false := isCompleted_of_failed hid
  obtain ⟨cause, hcause, hdep, hrec⟩ := hc.failed x hx
  obtain ⟨t, ht, -⟩ := exists_task?_of_status? (hc.blocked h hopen hx)
  obtain ⟨p, hprof, hmem⟩ := h.mem_dependentsOf.1 hdep
  rw [profile?_of_task? ht] at hprof
  obtain rfl := Option.some.inj hprof
  refine ⟨t, cause, ht, hmem, ?_, by rw [hrec, ht]; rfl⟩
  rcases List.mem_cons.1 hcause with rfl | hcause
  · exact hc.failed_of_failed h hopen hid
  · exact hc.status?_of_mem h hopen hcause

/-- A cascade names the cause of each failure. -/
theorem Cascaded.explains (h : s.Coherent) (hc : Cascaded s now id s' ids)
    (hid : s.status? id = some .failed) (hp : s.policy = .cascade)
    (hne : s.status? x ≠ some .failed) (ht : s'.task? x = some t) (hf : t.status = .failed) :
    s'.Explains t := by
  have hx : x ∈ ids := by
    by_contra hnot
    refine hne ?_
    rw [Scheduler.status?, ← hc.kept x hnot, ht, ← hf]
    rfl
  obtain ⟨t₀, d, -, hmem, hfailed, hrec⟩ := hc.exists_cause h hid hx
  obtain rfl : t = t₀.fail now (dependencyFailed d) := Option.some.inj (ht.symm.trans hrec)
  exact ⟨by rw [hc.frame]; exact hp, d, hmem, hfailed, rfl⟩

/-- An outcome fails no task but its own without naming a cause. -/
theorem Ends.explains (he : s.Ends now id outcome s') (h : s.Coherent)
    (hne : s.status? x ≠ some .failed) (hrun : x ∉ s.inFlight) (ht : s'.task? x = some t)
    (hf : t.status = .failed) : s'.Explains t := by
  have hst : s'.status? x = some .failed := by rw [status?_of_task? ht, hf]
  have hother : ∀ {error}, id ∈ s.inFlight →
      (s.failedAt now id error).status? x = s.status? x := fun {error} hfl => by
    have hx : x ≠ id := fun he => hrun (he ▸ hfl)
    rw [h.status?_failedAt hfl, if_neg hx]
  cases he with
  | ignored => exact absurd hst hne
  | succeeded hfl => exact absurd ((h.failed_succeeded_iff hfl).1 hst) hne
  | failed hfl =>
    rw [hother hfl] at hst
    exact absurd hst hne
  | @cascaded error s' ids hfl hp hcas =>
    refine hcas.explains (h.failedAt hfl now error) (h.failed_failedAt hfl) hp ?_ ht hf
    rw [hother hfl]
    exact hne

/-- A submission fails no task without naming a cause. -/
theorem Enters.explains {role : RoleName} {description : String} {deps : List TaskId} {t₀ : Task}
    (he : s.Enters now id role description deps t₀ s') (h : s.Coherent)
    (hne : s.status? x ≠ some .failed) (ht : s'.task? x = some t) (hf : t.status = .failed) :
    s'.Explains t := by
  cases he with
  | fresh hnew =>
    rw [task?_entered hnew] at ht
    split at ht
    · obtain rfl := Option.some.inj ht
      exact absurd hf status_fresh.2
    · rw [status?_of_task? ht, hf] at hne
      exact absurd rfl hne
  | @doomed d s' ids hnew hd hcas =>
    obtain ⟨hp, hmem, hfd⟩ := failedDependency?_eq_some hd
    have hcoh : (s.entered (s.doomed now id role description deps d)).Coherent :=
      h.entered_doomed hnew
    by_cases hx : x = id
    · have hacc := (Enters.doomed hnew hd hcas).accepted h
      rw [hx, hacc.task?_eq] at ht
      obtain rfl := Option.some.inj ht
      refine ⟨by rw [hcas.frame]; exact hp, d, hmem, ?_, rfl⟩
      have hne : d ≠ id := fun he => by
        rw [he, status?_of_not_has hnew] at hfd
        cases hfd
      refine hcas.failed_of_failed hcoh (isCompleted_entered_doomed hnew) ?_
      exact ((status?_entered hnew).trans (if_neg hne)).trans hfd
    · refine hcas.explains hcoh (failed_entered_doomed hnew) hp ?_ ht hf
      rw [(status?_entered hnew).trans (if_neg hx)]
      exact hne

/-- An operation fails no task that does not run without naming a cause. -/
theorem Coherent.explains_perform (h : s.Coherent) (op : Operation)
    (hne : s.status? x ≠ some .failed) (hrun : x ∉ s.inFlight)
    (ht : (s.perform op).task? x = some t) (hf : t.status = .failed) :
    (s.perform op).Explains t := by
  cases op with
  | submit now id role description deps =>
    cases hs : s.submit now id role description deps with
    | ok r =>
      simp only [Scheduler.perform, hs] at ht ⊢
      exact (enters_of_submit hs).explains h hne ht hf
    | error e =>
      simp only [Scheduler.perform, hs] at ht
      exact absurd ((status?_of_task? ht).trans (congrArg some hf)) hne
  | dispatch now limit =>
    have hst : (s.dispatch now limit).2.status? x = some .failed := by
      rw [← hf]
      exact status?_of_task? ht
    exact absurd (h.failed_dispatch_iff.1 hst) hne
  | complete now id outcome => exact (h.ends now id outcome).explains h hne hrun ht hf

/-- A cause stays a cause. -/
theorem Explains.perform (he : s.Explains t) (h : s.Coherent) (op : Operation) :
    (s.perform op).Explains t := by
  obtain ⟨hp, d, hd, hfd, herr⟩ := he
  exact ⟨(h.policy_perform op).trans hp, d, hd, h.failed_perform op hfd, herr⟩

/-! ## Sequences of operations -/

/-- No failure is left half-way, and none of a task that has not run is without a cause. -/
structure Followed (s : Scheduler) : Prop where
  coherent : s.Coherent
  fits : s.AllFit
  closed : s.policy = .cascade → ∀ d, s.Closes d
  explained : ∀ x t, s.task? x = some t → t.status = .failed → t.startedAt = none → s.Explains t

/-- There are no failures in a scheduler without tasks. -/
theorem Followed.new (policy : FailurePolicy) : (Scheduler.new policy).Followed where
  coherent := .new policy
  fits := .new policy
  closed _ _ x p hp := by cases hp
  explained x t ht := by
    rw [task?_new] at ht
    cases ht

/-- An operation follows up the failures there are. -/
theorem Followed.perform (h : s.Followed) (op : Operation) : (s.perform op).Followed where
  coherent := h.coherent.perform op
  fits := h.fits.perform h.coherent op
  closed hp d := by
    rw [h.coherent.policy_perform] at hp
    exact h.coherent.closes_perform op hp (h.closed hp)
  explained x t ht hf hstart := by
    by_cases hx : s.status? x = some .failed
    · obtain ⟨t₀, ht₀, hst⟩ := exists_task?_of_status? hx
      have hsame := h.coherent.task?_perform_of_isTerminal ht₀ (Task.isTerminal_iff.2 (.inr hst)) op
      obtain rfl : t = t₀ := Option.some.inj (ht.symm.trans hsame)
      exact (h.explained x t ht₀ hst hstart).perform h.coherent op
    · refine h.coherent.explains_perform op hx (fun hrun => ?_) ht hf
      -- A task in flight has been started, and that stays in its record.
      obtain ⟨t₀, ht₀, hst⟩ := exists_task?_of_status? ((h.coherent.mem_inFlight x).1 hrun)
      obtain ⟨t', ht', hmove⟩ := h.coherent.move_perform op ht₀
      obtain rfl : t = t' := Option.some.inj (ht.symm.trans ht')
      have hfit := h.fits x t₀ ht₀
      rw [Task.Fits, hst] at hfit
      have hsome := hmove.isSome_startedAt hfit.1
      rw [hstart] at hsome
      cases hsome

/-- Operations follow up the failures there are. -/
theorem Followed.performAll (h : s.Followed) (ops : List Operation) :
    (s.performAll ops).Followed := by
  induction ops generalizing s with
  | nil => exact h
  | cons op ops ih => exact ih (h.perform op)

/-! ## What was never handed out -/

/-- What is in flight after an operation was so before, or was handed out by it. -/
theorem Coherent.mem_inFlight_perform (h : s.Coherent) (op : Operation)
    (hx : x ∈ (s.perform op).inFlight) :
    x ∈ s.inFlight ∨ x ∈ (assignments (s.occurrences op)).map (·.id) := by
  cases op with
  | submit now id role description deps =>
    cases hs : s.submit now id role description deps with
    | ok r =>
      simp only [Scheduler.perform, hs] at hx
      rw [((enters_of_submit hs).accepted h).inFlight_eq] at hx
      exact .inl hx
    | error e =>
      simp only [Scheduler.perform, hs] at hx
      exact .inl hx
  | dispatch now limit =>
    simp only [Scheduler.perform] at hx
    rw [h.inFlight_dispatch, List.mem_append] at hx
    rw [occurrences, assignments_map_handedOut, h.map_id_dispatch]
    exact hx
  | complete now id outcome =>
    simp only [Scheduler.perform] at hx
    rw [(h.ends now id outcome).inFlight_eq] at hx
    exact .inl (List.mem_of_mem_filter hx)

/-- A new record has not been started. -/
theorem Enters.startedAt_eq {role : RoleName} {description : String} {deps : List TaskId}
    (he : s.Enters now id role description deps t s') : t.startedAt = none := by
  cases he <;> rfl

end

end Scheduler

section
variable {history : List Occurrence} {s : Scheduler}

/-- A history tells of every task that has been started. -/
def TellsStarted (history : List Occurrence) (s : Scheduler) : Prop :=
  ∀ x t, s.task? x = some t → t.startedAt.isSome → x ∈ (assignments history).map (·.id)

/-- An operation starts no task that its caller does not see. -/
theorem TellsStarted.perform (h : TellsStarted history s) (hc : s.Coherent) (op : Operation) :
    TellsStarted (history ++ s.occurrences op) (s.perform op) := by
  intro x t ht hstart
  rw [assignments_append, List.map_append, List.mem_append]
  rcases hc.task?_perform op ht with ⟨t₀, ht₀⟩ | ⟨now, role, description, deps, s', rfl, hs⟩
  · obtain ⟨t', ht', hmove⟩ := hc.move_perform op ht₀
    obtain rfl : t = t' := Option.some.inj (ht.symm.trans ht')
    rcases hmove.startedAt_eq with heq | ⟨hpending, hrun⟩
    · exact .inl (h x t₀ ht₀ (heq ▸ hstart))
    · have hx : x ∈ (s.perform op).inFlight := by
        rw [(hc.perform op).mem_inFlight, status?_of_task? ht, hrun]
      refine .inr ((hc.mem_inFlight_perform op hx).resolve_left fun hfl => ?_)
      rw [hc.mem_inFlight, status?_of_task? ht₀, hpending] at hfl
      cases hfl
  · rw [(enters_of_submit hs).startedAt_eq] at hstart
    cases hstart

/-- A run starts no task that its caller does not see. -/
theorem TellsStarted.performAll (h : TellsStarted history s) (hc : s.Coherent)
    (ops : List Operation) : TellsStarted (history ++ s.history ops) (s.performAll ops) := by
  induction ops generalizing s history with
  | nil =>
    rw [Scheduler.history, List.append_nil]
    exact h
  | cons op ops ih =>
    rw [Scheduler.history, ← List.append_assoc]
    exact ih (h.perform hc op) (hc.perform op)

end

/-- How failures have spread in a run, as its caller sees it. -/
structure FailuresSpread (policy : FailurePolicy) (history : List Occurrence) (s : Scheduler) :
    Prop where
  /-- A record keeps the dependencies that its submission listed. -/
  listed : ∀ listed t₀, .submitted listed t₀ ∈ history →
    ∃ t, s.task? t₀.id = some t ∧ ∀ d, d ∈ t.dependencies ↔ d ∈ listed
  /-- Where failures cascade, a task fails with any of its dependencies. -/
  closed : policy = .cascade → ∀ id t, s.task? id = some t →
    ∀ d ∈ t.dependencies, s.status? d = some .failed → t.status = .failed
  /-- Where failures cascade, a task that fails without having been handed out was not started, and
  names a dependency that has failed. -/
  inherited : policy = .cascade → ∀ id t, s.task? id = some t → t.status = .failed →
    id ∉ (assignments history).map (·.id) →
    t.startedAt = none ∧ t.completedAt.isSome ∧
      ∃ d ∈ t.dependencies, s.status? d = some .failed ∧ t.error = some (dependencyFailed d)
  /-- Where failures block, no task fails without having been handed out. -/
  own : policy = .block → ∀ id, s.status? id = some .failed →
    id ∈ (assignments history).map (·.id)

/-- Whatever is asked of a scheduler without tasks, whether a task is submitted before or after its
dependencies, and before or after they fail: its failures spread as `FailuresSpread` says. -/
theorem performAll_failuresSpread (policy : FailurePolicy) (ops : List Operation) :
    FailuresSpread policy ((Scheduler.new policy).history ops)
      ((Scheduler.new policy).performAll ops) := by
  have hrec := recorded_history policy ops
  have hfollowed := (Followed.new policy).performAll ops
  have hpolicy := policy_performAll policy ops
  have htells : TellsStarted ((Scheduler.new policy).history ops)
      ((Scheduler.new policy).performAll ops) := by
    have hnil : TellsStarted [] (Scheduler.new policy) := by
      intro x t ht
      rw [task?_new] at ht
      cases ht
    exact hnil.performAll (.new policy) ops
  generalize (Scheduler.new policy).performAll ops = s at hrec hfollowed hpolicy htells ⊢
  generalize (Scheduler.new policy).history ops = history at hrec htells ⊢
  have hunstarted : ∀ id t, s.task? id = some t → t.status = .failed →
      id ∉ (assignments history).map (·.id) → t.startedAt = none ∧ s.Explains t := by
    intro id t ht hf hnot
    have hnone : t.startedAt = none := by
      rw [← Option.not_isSome_iff_eq_none]
      exact fun hsome => hnot (htells id t ht hsome)
    exact ⟨hnone, hfollowed.explained id t ht hf hnone⟩
  refine ⟨fun listed t₀ ht₀ => ?_, fun hp id t ht d hd hfd => ?_, fun hp id t ht hf hnot => ?_,
    fun hp id hf => ?_⟩
  · obtain ⟨hprof, hdeps⟩ := hrec.submitted listed t₀ ht₀
    obtain ⟨t, ht, heq⟩ := Option.map_eq_some_iff.1 hprof
    refine ⟨t, ht, fun d => ?_⟩
    rw [← Task.profile_dependencies, heq, Task.profile_dependencies, hdeps, List.mem_eraseDups]
  · have hst := hfollowed.closed (hpolicy.trans hp) d id t.profile (profile?_of_task? ht) hd hfd
    exact status_of_status? ht hst
  · obtain ⟨hnone, -, hcause⟩ := hunstarted id t ht hf hnot
    have hfit := hfollowed.fits id t ht
    rw [Task.Fits, hf] at hfit
    exact ⟨hnone, hfit.1, hcause⟩
  · by_contra hnot
    obtain ⟨t, ht, hst⟩ := exists_task?_of_status? hf
    obtain ⟨-, hcascade, -⟩ := hunstarted id t ht hst hnot
    rw [hpolicy, hp] at hcascade
    cases hcascade

end Taskweave
