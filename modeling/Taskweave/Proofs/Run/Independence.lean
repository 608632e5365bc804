import Taskweave.Proofs.Schedule.Reachable
import Taskweave.Run.Dispatch

/-!
# A failure and a dispatch do not meet

A dispatch touches the queue and tasks that are pending; a failure touches a task in flight and,
where failures cascade, tasks with a dependency that has not completed (`Scheduler.Awaits`). No task
is of both kinds, and what awaits something is passed on from a task that has not completed to its
dependents, so the walk of a cascade stays among such tasks (`Scheduler.sweep_modifyAll`). Hence it
makes no difference whether a task in flight fails before or after others are started, neither to
what is handed out nor to where the scheduler ends: `Scheduler.Coherent.dispatch_complete_failure`.
-/

namespace Taskweave.Scheduler

/-- The task `x` depends on a task that has not completed. -/
def Awaits (s : Scheduler) (x : TaskId) : Prop :=
  ∃ p, s.profile? x = some p ∧ ∃ d ∈ p.dependencies, s.isCompleted d = false

section
variable {s : Scheduler} {now now' : Instant} {limit : Option Nat} {id x y d : TaskId}
  {ids : List TaskId} {error : String} {tasks : List Task} {f g : Task → Task}
  {index : DependencyIndex} {stack : List (TaskId × TaskId)}

/-! ## Changes of different records -/

/-- Two records may be changed in either order. -/
theorem modifyTask_comm (hf : ∀ t, (f t).profile = t.profile) (hg : ∀ t, (g t).profile = t.profile)
    (hne : x ≠ y) :
    modifyTask (modifyTask tasks x f) y g = modifyTask (modifyTask tasks y g) x f := by
  have hf' : ∀ t, (f t).id = t.id := fun t => congrArg Task.Profile.id (hf t)
  have hg' : ∀ t, (g t).id = t.id := fun t => congrArg Task.Profile.id (hg t)
  simp only [modifyTask, List.map_map]
  refine List.map_congr_left fun t _ => ?_
  simp only [Function.comp]
  by_cases hx : t.id = x
  · have hy : t.id ≠ y := fun hy => hne (hx.symm.trans hy)
    rw [if_pos hx, if_neg hy, if_pos hx, hf', if_neg hy]
  · rw [if_neg hx]
    by_cases hy : t.id = y
    · rw [if_pos hy, hg', if_neg hx]
    · rw [if_neg hy, if_neg hx]

/-- A record may be changed before or after several others are. -/
theorem modifyTask_modifyAll (hf : ∀ t, (f t).profile = t.profile)
    (hg : ∀ t, (g t).profile = t.profile) (hx : x ∉ ids) :
    modifyTask (modifyAll tasks ids f) x g = modifyAll (modifyTask tasks x g) ids f := by
  induction ids generalizing tasks with
  | nil => rfl
  | cons y ids ih =>
    obtain ⟨hne, hrest⟩ := not_or.1 (mt List.mem_cons.2 hx)
    rw [modifyAll, List.foldl_cons, ← modifyAll, ih hrest, modifyTask_comm hf hg (Ne.symm hne)]
    rfl

/-- A sweep that stays within `P` goes the same way whatever becomes of records outside. -/
theorem sweep_modifyAll {P : TaskId → Prop} (hf : ∀ t, (f t).profile = t.profile)
    (hids : ids.Nodup) (hout : ∀ y ∈ ids, ¬P y)
    (hpass : ∀ c, P c → ∀ d ∈ index.dependentsOf c, P d) (hstack : ∀ p ∈ stack, P p.1) :
    sweep index now (modifyAll tasks ids f) stack =
      (modifyAll (sweep index now tasks stack).1 ids f, (sweep index now tasks stack).2) := by
  have hwaits : ∀ {tasks : List Task} {x : TaskId}, P x →
      isWaiting (modifyAll tasks ids f) x = isWaiting tasks x := fun {tasks x} hx => by
    refine isWaiting_congr ?_
    rw [record?_modifyAll hf hids, if_neg fun hmem => hout x hmem hx]
  fun_induction sweep index now tasks stack with
  | case1 tasks => rw [sweep]
  | case2 tasks id cause rest hw failed tasks' failedIds heq ih =>
    have hid : P id := hstack (id, cause) List.mem_cons_self
    have hnext := ih fun p hp => by
      rcases List.mem_append.1 hp with hp | hp
      · obtain ⟨d, hd, rfl⟩ := List.mem_map.1 (List.mem_reverse.1 hp)
        exact hpass id hid d hd
      · exact hstack p (List.mem_cons_of_mem _ hp)
    rw [sweep, dif_pos ((hwaits hid).trans hw),
      modifyTask_modifyAll hf (fun t => Task.profile_fail now t _) fun hmem => hout id hmem hid]
    dsimp only
    rw [hnext, heq]
  | case3 tasks id cause rest hw ih =>
    have hid : P id := hstack (id, cause) List.mem_cons_self
    rw [sweep, dif_neg (by rwa [hwaits hid])]
    exact ih fun p hp => hstack p (List.mem_cons_of_mem _ hp)

/-! ## Starting and failing -/

/-- A cascade that stays within `P` goes the same way whichever tasks outside are started. -/
theorem cascade_started {P : TaskId → Prop} (hids : ids.Nodup) (hout : ∀ y ∈ ids, ¬P y)
    (hpass : ∀ c, P c → ∀ d ∈ s.index.dependentsOf c, P d)
    (hdeps : ∀ d ∈ s.index.dependentsOf id, P d) :
    ((s.started now' ids).cascade now id).2 = ((s.cascade now id).2).started now' ids := by
  have hstack : ∀ p ∈ ((s.index.dependentsOf id).map fun d => (d, id)).reverse, P p.1 :=
    fun p hp => by
      obtain ⟨d, hd, rfl⟩ := List.mem_map.1 (List.mem_reverse.1 hp)
      exact hdeps d hd
  have hsweep : (sweep s.index now (modifyAll s.tasks ids (Task.start now'))
        ((s.index.dependentsOf id).map fun d => (d, id)).reverse).1 =
      modifyAll (sweep s.index now s.tasks
        ((s.index.dependentsOf id).map fun d => (d, id)).reverse).1 ids (Task.start now') :=
    congrArg Prod.fst
      (sweep_modifyAll (fun t => Task.profile_start now' t) hids hout hpass hstack)
  simp only [cascade, started, hsweep]

/-- A task may fail before or after others are started. -/
theorem failedAt_started (hx : x ∉ ids) :
    (s.started now' ids).failedAt now x error = (s.failedAt now x error).started now' ids := by
  have htasks : modifyTask (modifyAll s.tasks ids (Task.start now')) x (Task.fail now error) =
      modifyAll (modifyTask s.tasks x (Task.fail now error)) ids (Task.start now') :=
    modifyTask_modifyAll (fun t => Task.profile_start now' t)
      (fun t => Task.profile_fail now t error) hx
  have hrest : ids.filter (· != x) = ids :=
    List.filter_eq_self.2 fun y hy => by
      have hne : y ≠ x := fun he => hx (he ▸ hy)
      simpa using hne
  simp only [failedAt, landed, started, htasks, List.filter_append, hrest]

/-- What awaits something passes it on to its dependents, for it has not completed itself. -/
theorem Coherent.awaits_dependents (h : s.Coherent) (hx : s.Awaits x)
    (hd : d ∈ s.index.dependentsOf x) : s.Awaits d := by
  obtain ⟨p, hp, e, he, hopen⟩ := hx
  obtain ⟨q, hq, hmem⟩ := h.mem_dependentsOf.1 hd
  refine ⟨q, hq, x, hmem, ?_⟩
  rw [← Bool.not_eq_true, isCompleted_iff]
  intro hst
  have hdone := h.satisfied hp hst (by decide) (by decide) e he
  rw [hopen] at hdone
  cases hdone

/-- What is queued awaits nothing. -/
theorem Coherent.not_awaits (h : s.Coherent) (hx : x ∈ s.queued) : ¬s.Awaits x := by
  rintro ⟨p, hp, d, hd, hopen⟩
  have hdone := h.satisfied hp ((h.mem_queued x).1 hx) (by decide) (by decide) d hd
  rw [hopen] at hdone
  cases hdone

/-- A failure changes no record but that of its task and those of blocked ones. -/
theorem Coherent.task?_complete_failure (h : s.Coherent) (hne : y ≠ x)
    (hb : s.status? y ≠ some .blocked) :
    (s.complete now x (.failure error)).2.task? y = s.task? y := by
  have hends := h.ends now x (.failure error)
  generalize (s.complete now x (.failure error)).2 = s' at hends ⊢
  cases hends with
  | ignored => rfl
  | failed hfl => rw [task?_failedAt, if_neg hne]
  | cascaded hfl hp hc =>
    have hy : (s.failedAt now x error).status? y = s.status? y := by
      rw [h.status?_failedAt hfl, if_neg hne]
    rw [hc.kept y fun hmem => hb ?_, task?_failedAt, if_neg hne]
    rw [← hy]
    exact hc.blocked (h.failedAt hfl now error) (h.isCompleted_failedAt hfl) hmem

/-- What a queued task is handed out with does not depend on failures. -/
theorem Coherent.assignment?_complete_failure (h : s.Coherent) (hx : x ∈ s.inFlight)
    (hy : y ∈ s.queued) :
    (s.complete now x (.failure error)).2.assignment? y = s.assignment? y := by
  have hrun := (h.mem_inFlight x).1 hx
  have hpending := (h.mem_queued y).1 hy
  have hsame : ∀ z status, s.status? z = some status → status ≠ .inProgress → status ≠ .blocked →
      (s.complete now x (.failure error)).2.task? z = s.task? z := fun z status hz hrun' hb => by
    refine h.task?_complete_failure (fun he => ?_) (fun he => ?_)
    · rw [he, hrun] at hz
      exact hrun' (Option.some.inj hz).symm
    · rw [he] at hz
      exact hb (Option.some.inj hz).symm
  obtain ⟨t, ht, -⟩ := exists_task?_of_status? hpending
  have hresults : (s.complete now x (.failure error)).2.resultsOf t.dependencies =
      s.resultsOf t.dependencies := by
    refine congrArg Dict.ofList (List.filterMap_congr fun d hd => ?_)
    have hdone := h.satisfied (profile?_of_task? ht) hpending (by decide) (by decide) d hd
    rw [hsame d .completed (isCompleted_iff.1 hdone) (by decide) (by decide)]
  rw [assignment?, hsame y .pending hpending (by decide) (by decide), assignment?, ht,
    Option.map_some, Option.map_some, hresults]

/-- Whether a task fails before or after others are started, the scheduler ends in one state. -/
theorem Coherent.complete_failure_started (h : s.Coherent) (hx : x ∈ s.inFlight) :
    (((s.unqueued limit).started now' (s.taken limit)).complete now x (.failure error)).2 =
      ({ (s.complete now x (.failure error)).2 with
        queue := (s.queue.drain limit).2 }).started now' (s.taken limit) := by
  have hrun := (h.mem_inFlight x).1 hx
  have hhas : s.has x = true := has_of_status? hrun
  have hstart : s.Startable (s.taken limit) := h.startable
  have hout : x ∉ s.taken limit := fun hmem => (hstart.2 x hmem).2 hx
  have hfl : x ∈ ((s.unqueued limit).started now' (s.taken limit)).inFlight :=
    List.mem_append_left _ hx
  have hhas' : ((s.unqueued limit).started now' (s.taken limit)).has x = true := by
    have hst : ((s.unqueued limit).started now' (s.taken limit)).status? x = some .inProgress := by
      rw [status?_started (s := s.unqueued limit) hstart, if_neg hout]
      exact hrun
    exact has_of_status? hst
  cases hp : s.policy with
  | block =>
    rw [complete_failure_block hx hhas hp, complete_failure_block hfl hhas' hp]
    exact failedAt_started (s := s.unqueued limit) hout
  | cascade =>
    have hfailed := h.failedAt hx now error
    rw [complete_failure_cascade hx hhas hp, complete_failure_cascade hfl hhas' hp]
    dsimp only
    rw [failedAt_started hout]
    refine cascade_started (s := (s.unqueued limit).failedAt now x error)
      (P := (s.failedAt now x error).Awaits) hstart.1 (fun y hy => ?_)
      (fun c hc d hd => hfailed.awaits_dependents hc hd) fun d hd => ?_
    · exact hfailed.not_awaits (List.mem_of_mem_take hy)
    · obtain ⟨p, hprof, hmem⟩ := hfailed.mem_dependentsOf.1 hd
      exact ⟨p, hprof, x, hmem, h.isCompleted_failedAt hx⟩

/-- A task in flight may fail before or after others are started: the same is handed out, and the
scheduler ends in the same state. -/
theorem Coherent.dispatch_complete_failure (h : s.Coherent) (hx : x ∈ s.inFlight) :
    (s.complete now x (.failure error)).2.dispatch now' limit =
      ((s.dispatch now' limit).1,
        ((s.dispatch now' limit).2.complete now x (.failure error)).2) := by
  have hcomplete : (s.complete now x (.failure error)).2.Coherent :=
    (h.ends now x (.failure error)).coherent h
  have hqueue : (s.complete now x (.failure error)).2.queue = s.queue := queue_complete_failure
  have htaken : (s.complete now x (.failure error)).2.taken limit = s.taken limit := by
    rw [taken, taken, queued, queued, hqueue]
  rw [dispatch_eq hcomplete.startable, dispatch_eq h.startable, htaken]
  refine Prod.ext (List.filterMap_congr fun y hy => ?_) ?_
  · exact h.assignment?_complete_failure hx (List.mem_of_mem_take hy)
  · dsimp only
    rw [h.complete_failure_started hx, unqueued, hqueue]

end

end Taskweave.Scheduler
