import Taskweave.Proofs.Schedule.Effects

/-!
# The parts of a scheduler agree

An `Operation` is one call of a scheduler, and `Scheduler.performAll` a sequence of them, with
whatever arguments. `Scheduler.Coherent` ties the records, the index, the queue and the tasks in
flight together. Its two laws on statuses are what makes it inductive: a blocked task has a
dependency that has not completed, and a pending, running or completed one has none. So a cascade,
which follows dependencies that have not completed, meets no pending task, and the queue needs no
repair (`Scheduler.Coherent.of_failures`). The main lemma is `Scheduler.Coherent.perform`, one case
for each operation; `Scheduler.coherent_performAll` is the induction over a sequence.
-/

namespace Taskweave

/-- One call of a scheduler. -/
inductive Operation where
  | submit (now : Instant) (id : TaskId) (role : RoleName) (description : String)
      (dependencies : List TaskId)
  | dispatch (now : Instant) (limit : Option Nat)
  | complete (now : Instant) (id : TaskId) (outcome : Outcome)
deriving DecidableEq, Repr

namespace Scheduler

/-- The scheduler after an operation; a task that is refused changes nothing. -/
def perform (s : Scheduler) : Operation → Scheduler
  | .submit now id role description dependencies =>
    match s.submit now id role description dependencies with
    | .ok (_, s') => s'
    | .error _ => s
  | .dispatch now limit => (s.dispatch now limit).2
  | .complete now id outcome => (s.complete now id outcome).2

/-- The scheduler after a sequence of operations. -/
def performAll (s : Scheduler) (ops : List Operation) : Scheduler := ops.foldl perform s

/-- The parts of a scheduler agree. -/
structure Coherent (s : Scheduler) : Prop where
  distinct : (s.tasks.map (·.id)).Nodup
  deps_nodup : ∀ p ∈ outline s.tasks, p.dependencies.Nodup
  queue_sound : s.queue.Sound
  mem_queued : ∀ id, id ∈ s.queued ↔ s.status? id = some .pending
  inFlight_nodup : s.inFlight.Nodup
  mem_inFlight : ∀ id, id ∈ s.inFlight ↔ s.status? id = some .inProgress
  /-- A task waits for those of its dependencies that have not completed. -/
  remaining : ∀ id, s.index.remaining? id =
    (s.profile? id).map fun p => p.dependencies.filter fun d => !s.isCompleted d
  /-- The dependents of a task are those that listed it, in the order of submission. -/
  dependents : ∀ d, s.index.dependentsOf d =
    ((outline s.tasks).filter fun p => d ∈ p.dependencies).map (·.id)
  blocked : ∀ {id p}, s.profile? id = some p → s.status? id = some .blocked →
    ∃ d ∈ p.dependencies, s.isCompleted d = false
  satisfied : ∀ {id p status}, s.profile? id = some p → s.status? id = some status →
    status ≠ .blocked → status ≠ .failed → ∀ d ∈ p.dependencies, s.isCompleted d = true

section
variable {s s' : Scheduler} {now : Instant} {id x d : TaskId} {p : Task.Profile} {st : Status}

/-! ## Views -/

theorem isCompleted_iff : s.isCompleted id = true ↔ s.status? id = some .completed := by
  rw [isCompleted, beq_iff_eq]

/-- A task that has failed has not completed. -/
theorem isCompleted_of_failed (h : s.status? id = some .failed) : s.isCompleted id = false := by
  rw [isCompleted, h]
  rfl

/-- A task completes or not with its status. -/
theorem isCompleted_congr (h : s'.status? x = some .completed ↔ s.status? x = some .completed) :
    s'.isCompleted x = s.isCompleted x := by
  rw [Bool.eq_iff_iff, isCompleted_iff, isCompleted_iff, h]

/-- A task with a status has a fixed part. -/
theorem exists_profile? {status : Status} (h : s.status? id = some status) :
    ∃ p, s.profile? id = some p := by
  obtain ⟨t, ht, -⟩ := exists_task?_of_status? h
  exact ⟨t.profile, profile?_of_task? ht⟩

/-- The fixed part of a task bears its name. -/
theorem id_of_profile? (h : s.profile? id = some p) : p ∈ outline s.tasks ∧ p.id = id := by
  rw [profile?_eq_find?] at h
  exact ⟨List.mem_of_find?_eq_some h, by simpa using List.find?_some h⟩

/-- Under distinct names every fixed part is found. -/
theorem Coherent.profile?_of_mem (h : s.Coherent) (hp : p ∈ outline s.tasks) :
    s.profile? p.id = some p := by
  obtain ⟨t, ht, rfl⟩ := List.mem_map.1 hp
  rw [profile?, task?_eq_record?, Task.profile_id, record?_of_mem h.distinct ht]
  rfl

/-- The dependents of a task are those that listed it. -/
theorem Coherent.mem_dependentsOf (h : s.Coherent) :
    x ∈ s.index.dependentsOf d ↔ ∃ p, s.profile? x = some p ∧ d ∈ p.dependencies := by
  rw [h.dependents, List.mem_map]
  constructor
  · rintro ⟨p, hp, rfl⟩
    obtain ⟨hmem, hd⟩ := List.mem_filter.1 hp
    exact ⟨p, h.profile?_of_mem hmem, of_decide_eq_true hd⟩
  · rintro ⟨p, hp, hd⟩
    obtain ⟨hmem, hid⟩ := id_of_profile? hp
    exact ⟨p, List.mem_filter.2 ⟨hmem, decide_eq_true hd⟩, hid⟩

/-- No dependent is listed twice. -/
theorem Coherent.nodup_dependentsOf (h : s.Coherent) : (s.index.dependentsOf d).Nodup := by
  have hnames : ((outline s.tasks).map (·.id)).Nodup := by
    rw [map_id_outline]
    exact h.distinct
  rw [h.dependents]
  exact hnames.sublist ((List.filter_sublist).map _)

/-- A scheduler is at rest when nothing is queued or in flight. -/
theorem isQuiescent_eq_true : s.isQuiescent = true ↔ s.queued = [] ∧ s.inFlight = [] := by
  rw [isQuiescent, ReadyQueue.isEmpty, Bool.and_eq_true, List.isEmpty_iff, List.isEmpty_iff, queued]

/-- A scheduler is at rest when no task is pending or running. -/
theorem Coherent.isQuiescent_iff (h : s.Coherent) : s.isQuiescent = true ↔
    ∀ id, s.status? id ≠ some .pending ∧ s.status? id ≠ some .inProgress := by
  rw [isQuiescent_eq_true, List.eq_nil_iff_forall_not_mem, List.eq_nil_iff_forall_not_mem,
    ← forall_and]
  refine forall_congr' fun id => ?_
  rw [Ne, Ne, ← h.mem_queued, ← h.mem_inFlight]

/-- At rest, a task has ended or is blocked. -/
theorem Coherent.status?_of_isQuiescent (h : s.Coherent) (hq : s.isQuiescent = true)
    (hx : s.has x = true) : s.status? x = some .completed ∨ s.status? x = some .failed ∨
      s.status? x = some .blocked := by
  obtain ⟨hpending, hrun⟩ := h.isQuiescent_iff.1 hq x
  obtain ⟨t, ht⟩ := Option.isSome_iff_exists.1 hx
  rw [status?_of_task? ht] at hpending hrun ⊢
  cases hs : t.status with
  | pending => exact absurd (congrArg some hs) hpending
  | inProgress => exact absurd (congrArg some hs) hrun
  | completed => exact .inl rfl
  | failed => exact .inr (.inl rfl)
  | blocked => exact .inr (.inr rfl)

/-- A task is listed under a status if it has that status. -/
theorem Coherent.mem_idsWithStatus (h : s.Coherent) :
    id ∈ s.idsWithStatus st ↔ s.status? id = some st := by
  rw [idsWithStatus, mem_sortedStrings, List.mem_map]
  constructor
  · rintro ⟨t, ht, rfl⟩
    obtain ⟨hmem, hst⟩ := List.mem_filter.1 ht
    have hrec : s.task? t.id = some t := record?_of_mem h.distinct hmem
    rw [status?_of_task? hrec, beq_iff_eq.1 hst]
  · intro hst
    obtain ⟨t, ht, rfl⟩ := exists_task?_of_status? hst
    obtain ⟨hmem, hid⟩ := mem_of_record? ht
    exact ⟨t, List.mem_filter.2 ⟨hmem, beq_self_eq_true _⟩, hid⟩

/-- The tasks with a status are listed in order, each once. -/
theorem Coherent.ascending_idsWithStatus (h : s.Coherent) :
    (s.idsWithStatus st).Pairwise (· < ·) :=
  ascending_sortedStrings (h.distinct.sublist (List.filter_sublist.map _))

/-- There is no record in a scheduler without tasks. -/
@[simp] theorem task?_new (policy : FailurePolicy) : (new policy).task? id = none := rfl

/-- A scheduler without tasks is coherent. -/
theorem Coherent.new (policy : FailurePolicy) : (new policy).Coherent where
  distinct := List.nodup_nil
  deps_nodup := nofun
  queue_sound := .empty
  mem_queued _ := ⟨nofun, nofun⟩
  inFlight_nodup := List.nodup_nil
  mem_inFlight _ := ⟨nofun, nofun⟩
  remaining _ := rfl
  dependents _ := rfl
  blocked := nofun
  satisfied := nofun

/-! ## Failures -/

/-- A scheduler stays coherent when blocked and running tasks fail, provided that those that fail
are no longer in flight: nobody waits for anything else afterwards, and nothing is queued. -/
theorem Coherent.of_failures (h : s.Coherent) (hout : outline s'.tasks = outline s.tasks)
    (hindex : s'.index = s.index) (hqueue : s'.queue = s.queue)
    (hst : ∀ x, s'.status? x = s.status? x ∨ s'.status? x = some .failed ∧
      (s.status? x = some .blocked ∨ s.status? x = some .inProgress))
    (hnd : s'.inFlight.Nodup) (hfl : ∀ x, x ∈ s'.inFlight ↔ s'.status? x = some .inProgress) :
    s'.Coherent := by
  have hprof := profile?_congr hout
  have hcomp : ∀ x, s'.isCompleted x = s.isCompleted x := fun x => by
    refine isCompleted_congr ?_
    rcases hst x with hx | ⟨hx, hb | hr⟩
    · rw [hx]
    · rw [hx, hb]; decide
    · rw [hx, hr]; decide
  have hsame : ∀ {x status}, s'.status? x = some status → status ≠ .failed →
      s.status? x = some status := fun {x status} hx hne => by
    rcases hst x with he | ⟨he, -⟩
    · rw [← he, hx]
    · rw [he] at hx
      exact absurd (Option.some.inj hx).symm hne
  refine ⟨?_, ?_, ?_, ?_, hnd, hfl, ?_, ?_, ?_, ?_⟩
  · rw [← map_id_outline, hout, map_id_outline]
    exact h.distinct
  · rw [hout]
    exact h.deps_nodup
  · rw [hqueue]
    exact h.queue_sound
  · intro x
    rw [queued, hqueue, ← queued, h.mem_queued]
    rcases hst x with hx | ⟨hx, hb | hr⟩
    · rw [hx]
    · rw [hx, hb]; decide
    · rw [hx, hr]; decide
  · intro x
    simp only [hindex, h.remaining, hprof, hcomp]
  · intro y
    rw [hindex, hout]
    exact h.dependents y
  · intro x p hp hb
    rw [hprof] at hp
    obtain ⟨y, hy, hc⟩ := h.blocked hp (hsame hb (by decide))
    exact ⟨y, hy, by rw [hcomp, hc]⟩
  · intro x p status hp hs hnb hnf y hy
    rw [hprof] at hp
    rw [hcomp]
    exact h.satisfied hp (hsame hs hnf) hnb hnf y hy

/-- The cause of a failure in a cascade has not completed, and so every task that fails for it was
blocked. -/
theorem Cascaded.blocked {ids : List TaskId} (h : s.Coherent) (hc : Cascaded s now id s' ids)
    (hid : s.isCompleted id = false) (hx : x ∈ ids) : s.status? x = some .blocked := by
  obtain ⟨cause, hcause, hdep, -⟩ := hc.failed x hx
  obtain ⟨p, hp, hmem⟩ := h.mem_dependentsOf.1 hdep
  obtain ⟨t, ht, hw⟩ := isWaiting_iff.1 (hc.waited x hx)
  have hst : s.status? x = some t.status := by
    rw [status?, task?_eq_record?, ht]
    rfl
  have hopen : s.isCompleted cause = false := by
    rcases List.mem_cons.1 hcause with rfl | hcause
    · exact hid
    · obtain ⟨t', ht', hw'⟩ := isWaiting_iff.1 (hc.waited cause hcause)
      rw [isCompleted, status?, task?_eq_record?, ht']
      cases hs : t'.status <;> simp_all [Status.isWaiting]
  cases hs : t.status with
  | blocked => rw [hst, hs]
  | pending =>
    rw [hs] at hst
    have := h.satisfied hp hst (by decide) (by decide) cause hmem
    rw [hopen] at this
    cases this
  | inProgress | completed | failed => rw [hs] at hw; cases hw

/-- A cascade leaves the failed task that it starts from as it is. -/
theorem Cascaded.not_mem {ids : List TaskId} (h : s.Coherent) (hc : Cascaded s now id s' ids)
    (hid : s.status? id = some .failed) : id ∉ ids := by
  intro hmem
  have hb := hc.blocked h (isCompleted_of_failed hid) hmem
  rw [hid] at hb
  cases hb

/-- The tasks of a cascade have failed. -/
theorem Cascaded.status?_of_mem {ids : List TaskId} (h : s.Coherent)
    (hc : Cascaded s now id s' ids) (hid : s.isCompleted id = false) (hx : x ∈ ids) :
    s'.status? x = some .failed := by
  obtain ⟨cause, -, -, hrec⟩ := hc.failed x hx
  rw [Scheduler.status?, hrec]
  exact map_status_of_status? (fun t => Task.status_fail now t _) (hc.blocked h hid hx)

/-- What a cascade does to the status of a task. -/
theorem Cascaded.status? {ids : List TaskId} (h : s.Coherent) (hc : Cascaded s now id s' ids)
    (hid : s.isCompleted id = false) (x : TaskId) :
    s'.status? x = s.status? x ∨ s'.status? x = some .failed ∧ s.status? x = some .blocked := by
  by_cases hx : x ∈ ids
  · exact .inr ⟨hc.status?_of_mem h hid hx, hc.blocked h hid hx⟩
  · exact .inl (by rw [Scheduler.status?, hc.kept x hx, Scheduler.status?])

/-- A cascade from a task that has not completed keeps the parts in agreement. -/
theorem Coherent.cascaded {ids : List TaskId} (h : s.Coherent) (hc : Cascaded s now id s' ids)
    (hid : s.isCompleted id = false) : s'.Coherent := by
  have hst := fun x => hc.status? h hid x
  have hfl : s'.inFlight = s.inFlight := by rw [hc.frame]
  refine h.of_failures hc.outline_eq (by rw [hc.frame]) (by rw [hc.frame])
    (fun x => (hst x).imp_right fun hx => ⟨hx.1, .inl hx.2⟩) ?_ fun x => ?_
  · rw [hfl]
    exact h.inFlight_nodup
  · rw [hfl, h.mem_inFlight]
    rcases hst x with hx | ⟨hx, hb⟩
    · rw [hx]
    · rw [hx, hb]; exact ⟨nofun, nofun⟩

end

end Scheduler

end Taskweave
