import Taskweave.Proofs.Schedule.Coherence

/-!
# Every reachable scheduler is coherent

For each operation, what it does to the status of every task, and that it keeps
`Scheduler.Coherent`. A dispatch moves the oldest pending tasks to running
(`Scheduler.Coherent.dispatched`). An outcome has one of the effects of `Scheduler.Ends`: a success
completes one task and makes pending those that waited for it alone, a failure changes nothing else
but blocked tasks that fail with it. A submission that is accepted has one of the effects of
`Scheduler.Enters`. `Scheduler.Coherent.perform` puts them together, one case for each operation,
and `Scheduler.coherent_performAll` is the induction over a sequence.
-/

namespace Taskweave.Scheduler

section
variable {s : Scheduler} {now : Instant} {id x : TaskId} {limit : Option Nat} {a : Assignment}

/-! ## Dispatching -/

/-- The queue is what a dispatch takes and what it leaves. -/
theorem taken_append : s.taken limit ++ (s.unqueued limit).queued = s.queued := by
  rw [taken, unqueued, queued, queued, ReadyQueue.order_drain, List.take_append_drop]

/-- A dispatch takes as many tasks as are available under its limit. -/
theorem length_taken : (s.taken limit).length = s.queue.available limit := by
  rw [taken, List.length_take, queued]
  exact Nat.min_eq_left (Nat.min_le_right _ _)

/-- What a dispatch takes off the queue is ready to start. -/
theorem Coherent.startable (h : s.Coherent) : s.Startable (s.taken limit) := by
  refine ⟨h.queue_sound.nodup.sublist (List.take_sublist _ _), fun x hx => ?_⟩
  have hp := (h.mem_queued x).1 (List.mem_of_mem_take hx)
  refine ⟨hp, fun hfl => ?_⟩
  rw [(h.mem_inFlight x).1 hfl] at hp
  cases hp

/-- The status of a task once several are started. -/
theorem status?_started {ids : List TaskId} (h : s.Startable ids) :
    (s.started now ids).status? x = if x ∈ ids then some .inProgress else s.status? x := by
  rw [status?, task?_started h.1]
  split
  · next hx => exact map_status_of_status? (Task.status_start now) (h.2 x hx).1
  · rfl

/-- What is handed out is a task with a record, and the results that the records hold. -/
theorem assignment?_eq_some (h : s.assignment? x = some a) :
    ∃ t, s.task? x = some t ∧ a = ⟨x, t.role, t.description, s.resultsOf t.dependencies⟩ := by
  rw [assignment?, Option.map_eq_some_iff] at h
  obtain ⟨t, ht, rfl⟩ := h
  exact ⟨t, ht, rfl⟩

/-- A dispatch hands out the tasks it takes off the queue. -/
theorem Coherent.mem_dispatch (h : s.Coherent) :
    a ∈ (s.dispatch now limit).1 ↔ ∃ x ∈ s.taken limit, s.assignment? x = some a := by
  rw [dispatch_eq h.startable, List.mem_filterMap]

/-- A dispatch hands out each task it takes off the queue, in their order. -/
theorem Coherent.map_id_dispatch (h : s.Coherent) :
    (s.dispatch now limit).1.map (·.id) = s.taken limit := by
  rw [dispatch_eq h.startable]
  have hall : ∀ x ∈ s.taken limit, ∃ a, s.assignment? x = some a ∧ a.id = x := fun x hx => by
    obtain ⟨t, ht, -⟩ := exists_task?_of_status? (h.startable.2 x hx).1
    exact ⟨_, by rw [assignment?, ht]; rfl, rfl⟩
  generalize s.taken limit = ids at hall
  induction ids with
  | nil => rfl
  | cons x ids ih =>
    obtain ⟨a, ha, hid⟩ := hall x List.mem_cons_self
    rw [List.filterMap_cons_some ha, List.map_cons, hid,
      ih fun y hy => hall y (List.mem_cons_of_mem x hy)]

/-- The scheduler after a dispatch. -/
theorem Coherent.dispatch_snd (h : s.Coherent) :
    (s.dispatch now limit).2 = (s.unqueued limit).started now (s.taken limit) := by
  rw [dispatch_eq h.startable]

/-- The status of a task after a dispatch. -/
theorem Coherent.status?_dispatch (h : s.Coherent) :
    (s.dispatch now limit).2.status? x =
      if x ∈ s.taken limit then some .inProgress else s.status? x := by
  rw [h.dispatch_snd]
  exact status?_started (s := s.unqueued limit) h.startable

/-- A dispatch completes nothing. -/
theorem Coherent.isCompleted_dispatch (h : s.Coherent) :
    (s.dispatch now limit).2.isCompleted x = s.isCompleted x := by
  refine isCompleted_congr ?_
  rw [h.status?_dispatch]
  split
  · next hx =>
    rw [(h.startable.2 x hx).1]
    exact ⟨nofun, nofun⟩
  · rfl

/-- A dispatch puts in flight what it takes off the queue. -/
theorem Coherent.inFlight_dispatch (h : s.Coherent) :
    (s.dispatch now limit).2.inFlight = s.inFlight ++ s.taken limit := by
  rw [h.dispatch_snd]
  rfl

/-- A dispatch with a free slot hands something out, if anything is queued. -/
theorem Coherent.dispatch_ne_nil (h : s.Coherent) (hq : s.queued ≠ []) (hl : limit ≠ some 0) :
    (s.dispatch now limit).1 ≠ [] := by
  have hpos : 0 < s.queued.length := List.length_pos_iff.2 hq
  have hn : 0 < s.queue.available limit := by
    rw [ReadyQueue.available, ReadyQueue.size]
    cases limit with
    | none => exact Nat.lt_min.2 ⟨hpos, hpos⟩
    | some n => exact Nat.lt_min.2 ⟨Nat.pos_of_ne_zero fun hz => hl (congrArg some hz), hpos⟩
  have htaken : s.taken limit ≠ [] := by
    rw [taken, Ne, List.take_eq_nil_iff, not_or]
    exact ⟨Nat.ne_of_gt hn, hq⟩
  intro hnil
  have hids : (s.dispatch now limit).1.map (·.id) = s.taken limit := h.map_id_dispatch
  rw [hnil] at hids
  exact htaken hids.symm

/-- A dispatch keeps the outline. -/
theorem Coherent.outline_dispatch (h : s.Coherent) :
    outline (s.dispatch now limit).2.tasks = outline s.tasks := by
  rw [h.dispatch_snd]
  exact outline_modifyAll fun t => Task.profile_start now t

/-- A dispatch keeps the parts in agreement. -/
theorem Coherent.dispatched (h : s.Coherent) (now : Instant) (limit : Option Nat) :
    (s.dispatch now limit).2.Coherent := by
  have hst : ∀ x, (s.dispatch now limit).2.status? x =
      if x ∈ s.taken limit then some .inProgress else s.status? x := fun x => h.status?_dispatch
  have hcomp : ∀ x, (s.dispatch now limit).2.isCompleted x = s.isCompleted x := fun x =>
    h.isCompleted_dispatch
  have hout : outline (s.dispatch now limit).2.tasks = outline s.tasks := h.outline_dispatch
  have hprof := profile?_congr hout
  have heq : (s.dispatch now limit).2 = (s.unqueued limit).started now (s.taken limit) :=
    h.dispatch_snd
  have hindex : (s.dispatch now limit).2.index = s.index := by rw [heq]; rfl
  have hqueue : (s.dispatch now limit).2.queue = (s.unqueued limit).queue := by rw [heq]; rfl
  have hflight : (s.dispatch now limit).2.inFlight = s.inFlight ++ s.taken limit :=
    h.inFlight_dispatch
  have hsplit : s.taken limit ++ (s.unqueued limit).queued = s.queued := taken_append
  have hnd : (s.taken limit ++ (s.unqueued limit).queued).Nodup := by
    rw [hsplit]
    exact h.queue_sound.nodup
  have hapart := (List.nodup_append.1 hnd).2.2
  refine ⟨?_, ?_, ?_, ?_, ?_, ?_, ?_, ?_, ?_, ?_⟩
  · rw [← map_id_outline, hout, map_id_outline]
    exact h.distinct
  · rw [hout]
    exact h.deps_nodup
  · rw [hqueue]
    exact h.queue_sound.drain limit
  · intro x
    rw [hst x, queued, hqueue, ← queued]
    constructor
    · intro hx
      have hnot : x ∉ s.taken limit := fun ht => hapart x ht x hx rfl
      rw [if_neg hnot, ← h.mem_queued, ← hsplit]
      exact List.mem_append_right _ hx
    · intro hx
      split at hx
      · cases hx
      · next hnot =>
        rw [← h.mem_queued, ← hsplit] at hx
        exact (List.mem_append.1 hx).resolve_left hnot
  · rw [hflight]
    refine List.nodup_append.2 ⟨h.inFlight_nodup, h.startable.1, fun a ha b hb hab => ?_⟩
    exact (h.startable.2 b hb).2 (hab ▸ ha)
  · intro x
    rw [hst x, hflight, List.mem_append, h.mem_inFlight]
    split
    · next hx => exact ⟨fun _ => rfl, fun _ => .inr hx⟩
    · next hx => exact ⟨fun hor => hor.resolve_right hx, .inl⟩
  · intro x
    simp only [hindex, h.remaining, hprof, hcomp]
  · intro d
    rw [hindex, hout]
    exact h.dependents d
  · intro x p hp hb
    rw [hprof] at hp
    rw [hst x] at hb
    split at hb
    · cases hb
    · obtain ⟨d, hd, hc⟩ := h.blocked hp hb
      exact ⟨d, hd, by rw [hcomp, hc]⟩
  · intro x p status hp hs hnb hnf d hd
    rw [hprof] at hp
    rw [hst x] at hs
    rw [hcomp]
    split at hs
    · next hx => exact h.satisfied hp (h.startable.2 x hx).1 (by decide) (by decide) d hd
    · exact h.satisfied hp hs hnb hnf d hd

/-! ## Success -/

/-- The tasks that a success releases: they are blocked, and wait for the task that completes and
for nothing else. -/
theorem Coherent.mem_released (h : s.Coherent) :
    x ∈ s.released id ↔ s.status? x = some .blocked ∧ ∃ p, s.profile? x = some p ∧
      (p.dependencies.filter fun d => !s.isCompleted d) = [id] := by
  rw [released, List.mem_filter, decide_eq_true_iff, DependencyIndex.resolve_fst, List.mem_filter,
    decide_eq_true_iff, h.remaining, Option.map_eq_some_iff]
  constructor
  · rintro ⟨⟨-, hp⟩, hb⟩
    exact ⟨hb, hp⟩
  · rintro ⟨hb, p, hp, hw⟩
    have hmem : id ∈ p.dependencies.filter fun d => !s.isCompleted d :=
      hw ▸ List.mem_singleton_self id
    exact ⟨⟨h.mem_dependentsOf.2 ⟨p, hp, (List.mem_filter.1 hmem).1⟩, p, hp, hw⟩, hb⟩

/-- A task in flight is not released by its own success. -/
theorem Coherent.not_mem_released (h : s.Coherent) (hfl : id ∈ s.inFlight) :
    id ∉ s.released id := by
  intro hr
  have hb := (h.mem_released.1 hr).1
  rw [(h.mem_inFlight id).1 hfl] at hb
  cases hb

/-- No task is released twice. -/
theorem Coherent.nodup_released (h : s.Coherent) : (s.released id).Nodup :=
  (h.nodup_dependentsOf.filter _).filter _

/-- The record of a task after a success. -/
theorem Coherent.task?_succeeded {result : Json} (h : s.Coherent) :
    (s.succeeded now id result).task? x =
      if x ∈ s.released id then
        (if x = id then (s.task? x).map (Task.complete now result) else s.task? x).map
          (Task.withStatus .pending)
      else if x = id then (s.task? x).map (Task.complete now result) else s.task? x := by
  rw [← record?_complete]
  exact record?_modifyAll (fun t => Task.profile_withStatus t .pending) h.nodup_released

/-- The status of a task after a success. -/
theorem Coherent.status?_succeeded {result : Json} (h : s.Coherent) (hfl : id ∈ s.inFlight) :
    (s.succeeded now id result).status? x =
      if x = id then some .completed
      else if x ∈ s.released id then some .pending else s.status? x := by
  have hrun := (h.mem_inFlight id).1 hfl
  rw [status?, h.task?_succeeded]
  by_cases hx : x = id
  · subst hx
    have hnot := h.not_mem_released hfl
    rw [if_neg hnot, if_pos rfl, if_pos rfl]
    exact map_status_of_status? (fun t => Task.status_complete now t result) hrun
  · rw [if_neg hx, if_neg hx]
    split
    · next hr =>
      exact map_status_of_status? (fun t => Task.status_withStatus t .pending)
        (h.mem_released.1 hr).1
    · rfl

/-- The tasks completed after a success: those before, and the one that succeeded. -/
theorem Coherent.isCompleted_succeeded {result : Json} (h : s.Coherent) (hfl : id ∈ s.inFlight) :
    (s.succeeded now id result).isCompleted x = (s.isCompleted x || x == id) := by
  rw [Bool.eq_iff_iff, isCompleted_iff, h.status?_succeeded hfl, Bool.or_eq_true, isCompleted_iff,
    beq_iff_eq]
  by_cases hx : x = id
  · simp [hx]
  · rw [if_neg hx]
    split
    · next hr =>
      rw [(h.mem_released.1 hr).1]
      simp [hx]
    · simp [hx]

/-- A success keeps the outline. -/
theorem outline_succeeded {result : Json} :
    outline (s.succeeded now id result).tasks = outline s.tasks := by
  rw [succeeded, outline_modifyAll fun t => Task.profile_withStatus t .pending,
    outline_modifyTask fun t => Task.profile_complete now t result]

/-- A blocked task that a success does not release waits for something else as well. -/
theorem Coherent.blocked_of_not_released {p : Task.Profile} (h : s.Coherent)
    (hp : s.profile? x = some p) (hb : s.status? x = some .blocked) (hr : x ∉ s.released id) :
    ∃ d ∈ p.dependencies, s.isCompleted d = false ∧ d ≠ id := by
  by_contra hall
  refine hr (h.mem_released.2 ⟨hb, p, hp, eq_singleton_of_nodup ?_ ?_ fun d hd => ?_⟩)
  · exact (h.deps_nodup p (id_of_profile? hp).1).filter _
  · obtain ⟨d, hd, hc⟩ := h.blocked hp hb
    exact List.ne_nil_of_mem (List.mem_filter.2 ⟨hd, by rw [hc]; rfl⟩)
  · obtain ⟨hd, hc⟩ := List.mem_filter.1 hd
    by_contra hne
    exact hall ⟨d, hd, by simpa using hc, hne⟩

/-- A success keeps the parts in agreement. -/
theorem Coherent.succeeded (h : s.Coherent) (hfl : id ∈ s.inFlight) (now : Instant)
    (result : Json) : (s.succeeded now id result).Coherent := by
  have hst : ∀ x, (s.succeeded now id result).status? x =
      if x = id then some .completed
      else if x ∈ s.released id then some .pending else s.status? x := fun x =>
    h.status?_succeeded hfl
  have hcomp : ∀ x, (s.succeeded now id result).isCompleted x = (s.isCompleted x || x == id) :=
    fun x => h.isCompleted_succeeded hfl
  have hout : outline (s.succeeded now id result).tasks = outline s.tasks := outline_succeeded
  have hprof := profile?_congr hout
  have hnew : ∀ y ∈ s.released id, y ∉ s.queue.order := fun y hy hq => by
    have hp := (h.mem_queued y).1 hq
    rw [(h.mem_released.1 hy).1] at hp
    cases hp
  obtain ⟨hsound, horder⟩ := h.queue_sound.pushAll h.nodup_released hnew
  have hrun := (h.mem_inFlight id).1 hfl
  refine ⟨?_, ?_, hsound, ?_, h.inFlight_nodup.filter _, ?_, ?_, ?_, ?_, ?_⟩
  · rw [← map_id_outline, hout, map_id_outline]
    exact h.distinct
  · rw [hout]
    exact h.deps_nodup
  · intro x
    rw [hst x, queued, Scheduler.succeeded, horder, List.mem_append, ← queued, h.mem_queued]
    by_cases hx : x = id
    · subst hx
      have hnot := h.not_mem_released hfl
      simp [hrun, hnot]
    · rw [if_neg hx]
      by_cases hr : x ∈ s.released id
      · simp [hr]
      · simp [hr]
  · intro x
    rw [hst x, Scheduler.succeeded, List.mem_filter, h.mem_inFlight]
    by_cases hx : x = id
    · simp [hx]
    · rw [if_neg hx]
      by_cases hr : x ∈ s.released id
      · simp [hr, (h.mem_released.1 hr).1]
      · simp [hr, hx]
  · intro x
    have hfilter : ∀ p : Task.Profile,
        (p.dependencies.filter fun d => !s.isCompleted d).filter (· != id) =
          p.dependencies.filter fun d => !(s.isCompleted d || d == id) := fun p => by
      rw [List.filter_filter]
      refine List.filter_congr fun d _ => ?_
      rw [Bool.not_or, Bool.and_comm]
      rfl
    simp only [Scheduler.succeeded, DependencyIndex.remaining?_resolve, h.remaining] at hcomp ⊢
    rw [← Scheduler.succeeded] at hcomp ⊢
    simp only [hprof, hcomp]
    split
    · rw [Option.map_map]
      exact Option.map_congr fun p _ => hfilter p
    · next hnot =>
      refine Option.map_congr fun p hp => List.filter_congr fun d hd => ?_
      have hne : d ≠ id := fun he => hnot (h.mem_dependentsOf.2 ⟨p, hp, he ▸ hd⟩)
      rw [beq_false_of_ne hne, Bool.or_false]
  · intro d
    rw [hout]
    exact h.dependents d
  · intro x p hp hb
    rw [hprof] at hp
    rw [hst x] at hb
    split at hb
    · cases hb
    · split at hb
      · cases hb
      · next hr =>
        obtain ⟨d, hd, hc, hne⟩ := h.blocked_of_not_released hp hb hr
        exact ⟨d, hd, by rw [hcomp, hc, beq_false_of_ne hne]; rfl⟩
  · intro x p status hp hs hnb hnf d hd
    rw [hprof] at hp
    rw [hst x] at hs
    rw [hcomp, Bool.or_eq_true, beq_iff_eq]
    split at hs
    · next hx => exact .inl (h.satisfied (hx ▸ hp) hrun (by decide) (by decide) d hd)
    · split at hs
      · next hr =>
        obtain ⟨-, p', hp', hw⟩ := h.mem_released.1 hr
        obtain rfl : p' = p := Option.some.inj (hp'.symm.trans hp)
        by_cases hc : s.isCompleted d = true
        · exact .inl hc
        · refine .inr (List.mem_singleton.1 (hw ▸ List.mem_filter.2 ⟨hd, ?_⟩))
          simpa using hc
      · exact .inl (h.satisfied hp hs hnb hnf d hd)

/-! ## Failure -/

/-- The record of a task once one has failed. -/
theorem task?_failedAt {error : String} :
    (s.failedAt now id error).task? x =
      if x = id then (s.task? x).map (Task.fail now error) else s.task? x :=
  record?_modifyTask fun t => Task.profile_fail now t error

/-- The status of a task once one in flight has failed. -/
theorem Coherent.status?_failedAt {error : String} (h : s.Coherent) (hfl : id ∈ s.inFlight) :
    (s.failedAt now id error).status? x = if x = id then some .failed else s.status? x := by
  rw [status?, task?_failedAt]
  split
  · next hx =>
    rw [← hx] at hfl
    exact map_status_of_status? (fun t => Task.status_fail now t error) ((h.mem_inFlight x).1 hfl)
  · rfl

/-- The failure of a task in flight keeps the parts in agreement, before anything cascades. -/
theorem Coherent.failedAt (h : s.Coherent) (hfl : id ∈ s.inFlight) (now : Instant)
    (error : String) : (s.failedAt now id error).Coherent := by
  have hst : ∀ x, (s.failedAt now id error).status? x =
      if x = id then some .failed else s.status? x := fun x => h.status?_failedAt hfl
  have hrun := (h.mem_inFlight id).1 hfl
  refine h.of_failures (outline_modifyTask fun t => Task.profile_fail now t error) rfl rfl
    (fun x => ?_) (h.inFlight_nodup.filter _) fun x => ?_
  · rw [hst x]
    split
    · next hx => exact .inr ⟨rfl, .inr (hx ▸ hrun)⟩
    · exact .inl rfl
  · rw [hst x, Scheduler.failedAt, landed, List.mem_filter, h.mem_inFlight]
    by_cases hx : x = id
    · simp [hx]
    · simp [hx]

/-- The task that failed has the status to say so. -/
theorem Coherent.failed_failedAt {error : String} (h : s.Coherent) (hfl : id ∈ s.inFlight) :
    (s.failedAt now id error).status? id = some .failed := by
  rw [h.status?_failedAt hfl, if_pos rfl]

/-- A task in flight that failed has not completed. -/
theorem Coherent.isCompleted_failedAt {error : String} (h : s.Coherent) (hfl : id ∈ s.inFlight) :
    (s.failedAt now id error).isCompleted id = false :=
  isCompleted_of_failed (h.failed_failedAt hfl)

/-- A cascade from a task that has not completed completes nothing. -/
theorem Cascaded.isCompleted_eq {s' : Scheduler} {ids : List TaskId} (h : s.Coherent)
    (hc : Cascaded s now id s' ids) (hid : s.isCompleted id = false) :
    s'.isCompleted x = s.isCompleted x := by
  refine isCompleted_congr ?_
  rcases hc.status? h hid x with hx | ⟨hx, hb⟩
  · rw [hx]
  · rw [hx, hb]; exact ⟨nofun, nofun⟩

/-- The failure of a task completes nothing, before anything cascades. -/
theorem Coherent.isCompleted_failedAt_eq {error : String} (h : s.Coherent)
    (hfl : id ∈ s.inFlight) : (s.failedAt now id error).isCompleted x = s.isCompleted x := by
  refine isCompleted_congr ?_
  rw [h.status?_failedAt hfl]
  split
  · next hx =>
    rw [hx, (h.mem_inFlight id).1 hfl]
    exact ⟨nofun, nofun⟩
  · rfl

/-- What becomes of a scheduler when an outcome comes in. -/
inductive Ends (s : Scheduler) (now : Instant) (id : TaskId) : Outcome → Scheduler → Prop where
  | ignored {outcome : Outcome} : id ∉ s.inFlight → Ends s now id outcome s
  | succeeded {result : Json} : id ∈ s.inFlight →
      Ends s now id (.success result) (s.succeeded now id result)
  | failed {error : String} : id ∈ s.inFlight → s.policy = .block →
      Ends s now id (.failure error) (s.failedAt now id error)
  | cascaded {error : String} {s' : Scheduler} {ids : List TaskId} : id ∈ s.inFlight →
      s.policy = .cascade → Cascaded (s.failedAt now id error) now id s' ids →
      Ends s now id (.failure error) s'

/-- An outcome has one of the effects of `Ends`. -/
theorem Coherent.ends (h : s.Coherent) (now : Instant) (id : TaskId) (outcome : Outcome) :
    s.Ends now id outcome (s.complete now id outcome).2 := by
  by_cases hfl : id ∈ s.inFlight
  · have hrun := (h.mem_inFlight id).1 hfl
    cases outcome with
    | success result =>
      rw [complete_success hfl hrun h.nodup_dependentsOf]
      exact .succeeded hfl
    | failure error =>
      cases hp : s.policy with
      | block =>
        rw [complete_failure_block hfl (has_of_status? hrun) hp]
        exact .failed hfl hp
      | cascade =>
        rw [complete_failure_cascade hfl (has_of_status? hrun) hp]
        exact .cascaded hfl hp (cascade_cascaded _ now id)
  · rw [complete_of_not_mem hfl]
    exact .ignored hfl

section
variable {s' : Scheduler} {outcome : Outcome}

/-- An outcome keeps the parts in agreement. -/
theorem Ends.coherent (he : s.Ends now id outcome s') (h : s.Coherent) : s'.Coherent := by
  cases he with
  | ignored => exact h
  | succeeded hfl => exact h.succeeded hfl now _
  | failed hfl => exact h.failedAt hfl now _
  | cascaded hfl _ hc => exact (h.failedAt hfl now _).cascaded hc (h.isCompleted_failedAt hfl)

/-- A failure completes nothing. -/
theorem Ends.isCompleted_failure {error : String} (he : s.Ends now id (.failure error) s')
    (h : s.Coherent) : s'.isCompleted x = s.isCompleted x := by
  cases he with
  | ignored => rfl
  | failed hfl => exact h.isCompleted_failedAt_eq hfl
  | cascaded hfl _ hc =>
    rw [hc.isCompleted_eq (h.failedAt hfl now _) (h.isCompleted_failedAt hfl)]
    exact h.isCompleted_failedAt_eq hfl

/-- A task that has ended is no longer in flight, whatever its outcome. -/
theorem Ends.inFlight_eq (he : s.Ends now id outcome s') :
    s'.inFlight = s.inFlight.filter (· != id) := by
  cases he with
  | ignored hfl =>
    refine (List.filter_eq_self.2 fun x hx => ?_).symm
    exact bne_iff_ne.2 fun he => hfl (he ▸ hx)
  | succeeded | failed => rfl
  | cascaded _ _ hc =>
    rw [hc.frame]
    rfl

/-- An outcome keeps the outline. -/
theorem Ends.outline_eq (he : s.Ends now id outcome s') : outline s'.tasks = outline s.tasks := by
  cases he with
  | ignored => rfl
  | succeeded => exact outline_succeeded
  | failed => exact outline_modifyTask fun t => Task.profile_fail now t _
  | cascaded _ _ hc =>
    exact hc.outline_eq.trans (outline_modifyTask fun t => Task.profile_fail now t _)

/-- An outcome leaves the policy as it is. -/
theorem Ends.policy_eq (he : s.Ends now id outcome s') : s'.policy = s.policy := by
  cases he with
  | ignored | succeeded | failed => rfl
  | cascaded _ _ hc =>
    rw [hc.frame]
    rfl

end

/-! ## Submission -/

section
variable {t : Task}

/-- The status of a task once a new one is entered. -/
theorem status?_entered (hnew : s.has t.id = false) :
    (s.entered t).status? x = if x = t.id then some t.status else s.status? x := by
  rw [status?, task?_entered hnew]
  split <;> rfl

/-- The fixed part of a task once a new one is entered. -/
theorem profile?_entered (hnew : s.has t.id = false) :
    (s.entered t).profile? x = if x = t.id then some t.profile else s.profile? x := by
  rw [profile?, task?_entered hnew]
  split <;> rfl

/-- A task without a record has no status. -/
theorem status?_of_not_has (hnew : s.has id = false) : s.status? id = none := by
  rw [status?, task?_of_not_has hnew]
  rfl

/-- A task that is not completed yet leaves the completed tasks as they are when it is entered. -/
theorem isCompleted_entered (hnew : s.has t.id = false) (hst : t.status ≠ .completed) :
    (s.entered t).isCompleted x = s.isCompleted x := by
  refine isCompleted_congr ?_
  rw [status?_entered hnew]
  split
  · next hx =>
    rw [hx, status?_of_not_has hnew]
    exact ⟨fun he => absurd (Option.some.inj he) hst, nofun⟩
  · rfl

/-- What the status of a new task says of its dependencies. -/
def Admissible (s : Scheduler) (t : Task) : Prop :=
  match t.status with
  | .pending => ∀ d ∈ t.dependencies, s.isCompleted d = true
  | .blocked => ∃ d ∈ t.dependencies, s.isCompleted d = false
  | .failed => True
  | .inProgress | .completed => False

/-- A new task is entered as pending, blocked or failed. -/
theorem Admissible.cases (h : s.Admissible t) :
    t.status = .pending ∧ (∀ d ∈ t.dependencies, s.isCompleted d = true) ∨
      t.status = .blocked ∧ (∃ d ∈ t.dependencies, s.isCompleted d = false) ∨
        t.status = .failed := by
  unfold Admissible at h
  cases hs : t.status with
  | pending => rw [hs] at h; exact .inl ⟨rfl, h⟩
  | blocked => rw [hs] at h; exact .inr (.inl ⟨rfl, h⟩)
  | failed => exact .inr (.inr rfl)
  | inProgress | completed => rw [hs] at h; exact h.elim

/-- Entering a task keeps the parts in agreement. -/
theorem Coherent.entered (h : s.Coherent) (hnew : s.has t.id = false)
    (hdeps : t.dependencies.Nodup) (hadm : s.Admissible t) : (s.entered t).Coherent := by
  have hcases := hadm.cases
  have hopen : t.status ≠ .completed ∧ t.status ≠ .inProgress := by
    rcases hcases with ⟨hs, -⟩ | ⟨hs, -⟩ | hs <;> rw [hs] <;> decide
  have hst := fun x => status?_entered (s := s) (t := t) (x := x) hnew
  have hprof := fun x => profile?_entered (s := s) (t := t) (x := x) hnew
  have hcomp := fun x => isCompleted_entered (s := s) (t := t) (x := x) hnew hopen.1
  have hnone := status?_of_not_has hnew
  have hid : t.id ∉ s.tasks.map (·.id) := fun hmem => by
    rw [has_iff.2 hmem] at hnew
    cases hnew
  have hidq : t.id ∉ s.queue.order := fun hmem => by
    have := (h.mem_queued t.id).1 hmem
    rw [hnone] at this
    cases this
  have hout : outline (s.entered t).tasks = outline s.tasks ++ [t.profile] := by
    simp [outline, Scheduler.entered]
  refine ⟨?_, ?_, ?_, ?_, h.inFlight_nodup, ?_, ?_, ?_, ?_, ?_⟩
  · rw [Scheduler.entered, List.map_append]
    refine List.nodup_append.2 ⟨h.distinct, List.nodup_singleton _, fun a ha b hb hab => hid ?_⟩
    have hbt : b = t.id := List.mem_singleton.1 hb
    rw [← hbt, ← hab]
    exact ha
  · intro p hp
    rw [hout] at hp
    rcases List.mem_append.1 hp with hp | hp
    · exact h.deps_nodup p hp
    · rw [List.mem_singleton.1 hp]
      exact hdeps
  · show (if t.status = .pending then s.queue.push t.id else s.queue).Sound
    split
    · exact h.queue_sound.push hidq
    · exact h.queue_sound
  · intro x
    rw [hst x]
    show x ∈ (if t.status = .pending then s.queue.push t.id else s.queue).order ↔ _
    by_cases hp : t.status = .pending
    · rw [if_pos hp, h.queue_sound.push_eq hidq, List.mem_append, List.mem_singleton, ← queued,
        h.mem_queued]
      by_cases hx : x = t.id
      · simp [hx, hp]
      · simp [hx]
    · rw [if_neg hp, ← queued, h.mem_queued]
      by_cases hx : x = t.id
      · simp [hx, hp, hnone]
      · simp [hx]
  · intro x
    rw [hst x, Scheduler.entered, h.mem_inFlight]
    by_cases hx : x = t.id
    · simp [hx, hopen.2, hnone]
    · simp [hx]
  · intro x
    rw [hprof x]
    show (s.index.insert t.id t.dependencies s.isCompleted).2.remaining? x = _
    rw [DependencyIndex.remaining?_insert]
    by_cases hx : x = t.id
    · rw [if_pos hx, if_pos hx, eraseDups_of_nodup (hdeps.filter _)]
      simp only [Option.map_some, hcomp]
      rfl
    · rw [if_neg hx, if_neg hx, h.remaining]
      simp only [hcomp]
  · intro d
    have hfresh : t.id ∉ s.index.dependentsOf d := fun hmem => by
      obtain ⟨p, hp, -⟩ := h.mem_dependentsOf.1 hmem
      obtain ⟨hp, he⟩ := id_of_profile? hp
      rw [← map_id_outline, ← he] at hid
      exact hid (List.mem_map_of_mem hp)
    show (s.index.insert t.id t.dependencies s.isCompleted).2.dependentsOf d = _
    rw [DependencyIndex.dependentsOf_insert, hout, List.filter_append, List.map_append,
      ← h.dependents]
    by_cases hd : d ∈ t.dependencies
    · simp [hd, hfresh]
    · simp [hd]
  · intro x p hp hb
    rw [hprof x] at hp
    rw [hst x] at hb
    simp only [hcomp]
    split at hb
    · next hx =>
      rw [if_pos hx] at hp
      obtain rfl := Option.some.inj hp
      rcases hcases with ⟨hs, -⟩ | ⟨-, hd⟩ | hs
      · rw [hs] at hb; cases hb
      · exact hd
      · rw [hs] at hb; cases hb
    · next hx =>
      rw [if_neg hx] at hp
      exact h.blocked hp hb
  · intro x p status hp hs hnb hnf
    rw [hprof x] at hp
    rw [hst x] at hs
    simp only [hcomp]
    split at hs
    · next hx =>
      rw [if_pos hx] at hp
      obtain rfl := Option.some.inj hp
      obtain rfl := Option.some.inj hs
      rcases hcases with ⟨-, hd⟩ | ⟨hs, -⟩ | hs
      · exact hd
      · exact absurd hs hnb
      · exact absurd hs hnf
    · next hx =>
      rw [if_neg hx] at hp
      exact h.satisfied hp hs hnb hnf

end

/-- The dependencies of a new task, each once, decide how it is entered. -/
theorem admissible_fresh {role : RoleName} {description : String} {deps : List TaskId} :
    s.Admissible (s.fresh now id role description deps) := by
  have hready : (s.index.insert id deps.eraseDups s.isCompleted).1 = true ↔
      ∀ d ∈ deps.eraseDups, s.isCompleted d = true := DependencyIndex.insert_fst _ _
  unfold Admissible fresh Task.create
  by_cases hr : (s.index.insert id deps.eraseDups s.isCompleted).1 = true
  · simp only [if_pos hr]
    exact hready.1 hr
  · simp only [if_neg hr]
    by_contra hall
    refine hr (hready.2 fun d hd => ?_)
    by_contra hc
    exact hall ⟨d, hd, Bool.eq_false_iff.2 hc⟩

section
variable {role : RoleName} {description : String} {deps : List TaskId} {d : TaskId}

/-- A task that fails on submission keeps the parts in agreement, before it cascades. -/
theorem Coherent.entered_doomed (h : s.Coherent) (hnew : s.has id = false) :
    (s.entered (s.doomed now id role description deps d)).Coherent :=
  h.entered hnew (nodup_eraseDups deps) trivial

/-- A record that has failed on submission is not one of a completed task. -/
theorem status_doomed_ne : (s.doomed now id role description deps d).status ≠ .completed := nofun

/-- A task that fails on submission has the status to say so. -/
theorem failed_entered_doomed (hnew : s.has id = false) :
    (s.entered (s.doomed now id role description deps d)).status? id = some .failed :=
  (status?_entered hnew).trans (if_pos rfl)

/-- A task that fails on submission has not completed. -/
theorem isCompleted_entered_doomed (hnew : s.has id = false) :
    (s.entered (s.doomed now id role description deps d)).isCompleted id = false :=
  isCompleted_of_failed (failed_entered_doomed hnew)

/-- What a submission that is accepted answers with, and what becomes of the scheduler. -/
inductive Enters (s : Scheduler) (now : Instant) (id : TaskId) (role : RoleName)
    (description : String) (deps : List TaskId) : Task → Scheduler → Prop where
  | fresh : s.has id = false → s.failedDependency? deps.eraseDups = none →
      Enters s now id role description deps (s.fresh now id role description deps)
        (s.entered (s.fresh now id role description deps))
  | doomed {d : TaskId} {s' : Scheduler} {ids : List TaskId} : s.has id = false →
      s.failedDependency? deps.eraseDups = some d →
      Cascaded (s.entered (s.doomed now id role description deps d)) now id s' ids →
      Enters s now id role description deps (s.doomed now id role description deps d) s'

/-- A submission that is accepted has one of the effects of `Enters`. -/
theorem enters_of_submit {r : Task × Scheduler}
    (hs : s.submit now id role description deps = .ok r) :
    s.Enters now id role description deps r.1 r.2 := by
  cases hnew : s.has id with
  | true =>
    rw [submit_of_has hnew] at hs
    cases hs
  | false =>
    cases hd : s.failedDependency? deps.eraseDups with
    | none =>
      rw [submit_of_none hnew hd] at hs
      cases hs
      exact .fresh hnew hd
    | some d =>
      rw [submit_of_some hnew hd] at hs
      cases hs
      exact .doomed hnew hd (cascade_cascaded _ now id)

/-- A submission keeps the parts in agreement. -/
theorem Enters.coherent {s' : Scheduler} (he : s.Enters now id role description deps t s')
    (h : s.Coherent) : s'.Coherent := by
  cases he with
  | fresh hnew => exact h.entered hnew (nodup_eraseDups deps) admissible_fresh
  | doomed hnew _ hc => exact (h.entered_doomed hnew).cascaded hc (isCompleted_entered_doomed hnew)

/-- A submission leaves the policy as it is. -/
theorem Enters.policy_eq {s' : Scheduler} (he : s.Enters now id role description deps t s') :
    s'.policy = s.policy := by
  cases he with
  | fresh => rfl
  | doomed _ _ hc =>
    rw [hc.frame]
    rfl

end

/-! ## Sequences of operations -/

/-- Every operation keeps the parts in agreement. -/
theorem Coherent.perform (h : s.Coherent) (op : Operation) : (s.perform op).Coherent := by
  cases op with
  | submit now id role description deps =>
    cases hs : s.submit now id role description deps with
    | ok r => simpa only [Scheduler.perform, hs] using (enters_of_submit hs).coherent h
    | error e => simpa only [Scheduler.perform, hs] using h
  | dispatch now limit => exact h.dispatched now limit
  | complete now id outcome => exact (h.ends now id outcome).coherent h

/-- Every sequence of operations keeps the parts in agreement. -/
theorem Coherent.performAll (h : s.Coherent) (ops : List Operation) :
    (s.performAll ops).Coherent := by
  induction ops generalizing s with
  | nil => exact h
  | cons op ops ih => exact ih (h.perform op)

/-- Whatever is asked of a scheduler without tasks, its parts agree. -/
theorem coherent_performAll (policy : FailurePolicy) (ops : List Operation) :
    ((new policy).performAll ops).Coherent :=
  (Coherent.new policy).performAll ops

/-- Every operation leaves the policy as it is. -/
theorem Coherent.policy_perform (h : s.Coherent) (op : Operation) :
    (s.perform op).policy = s.policy := by
  cases op with
  | submit now id role description deps =>
    cases hs : s.submit now id role description deps with
    | ok r => simpa only [Scheduler.perform, hs] using (enters_of_submit hs).policy_eq
    | error e => simp only [Scheduler.perform, hs]
  | dispatch now limit => simp only [Scheduler.perform, h.dispatch_snd, started, unqueued]
  | complete now id outcome => exact (h.ends now id outcome).policy_eq

/-- Every sequence of operations leaves the policy as it is. -/
theorem Coherent.policy_performAll (h : s.Coherent) (ops : List Operation) :
    (s.performAll ops).policy = s.policy := by
  induction ops generalizing s with
  | nil => rfl
  | cons op ops ih => exact (ih (h.perform op)).trans (h.policy_perform op)

/-- A scheduler that is reached from one without tasks has the policy of that one. -/
theorem policy_performAll (policy : FailurePolicy) (ops : List Operation) :
    ((new policy).performAll ops).policy = policy :=
  (Coherent.new policy).policy_performAll ops

end

end Taskweave.Scheduler
