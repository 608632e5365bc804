import Taskweave.Proofs.Schedule.Parts
import Taskweave.Proofs.Schedule.Sweep

/-!
# What the operations do

The operations of a scheduler work through lists of tasks and look at the records in between. The
equations below give their results at once, in terms of the scheduler before the operation:
`Scheduler.startAll_eq` for dispatching, `Scheduler.unblock_eq` and `Scheduler.complete_success` for
a task that succeeds, `Scheduler.complete_failure` for one that fails, `Scheduler.submit_of_none`
and `Scheduler.submit_of_some` for a new one. The only list that stays behind a definition is that
of the tasks a cascade fails, for which there is `Scheduler.cascade_cascaded`.
-/

namespace Taskweave.Scheduler

section
variable {s s' : Scheduler} {now : Instant} {ids : List TaskId} {id x : TaskId}

/-! ## Starting tasks -/

/-- What a task is handed out with, given the records as they are. -/
def assignment? (s : Scheduler) (id : TaskId) : Option Assignment :=
  (s.task? id).map fun t => ⟨id, t.role, t.description, s.resultsOf t.dependencies⟩

/-- Tasks that are on their way from the queue: each stands once, is pending and not in flight. -/
def Startable (s : Scheduler) (ids : List TaskId) : Prop :=
  ids.Nodup ∧ ∀ id ∈ ids, s.status? id = some .pending ∧ id ∉ s.inFlight

/-- The scheduler once the tasks are started. -/
def started (s : Scheduler) (now : Instant) (ids : List TaskId) : Scheduler :=
  { s with
    tasks := modifyAll s.tasks ids (Task.start now)
    inFlight := s.inFlight ++ ids }

/-- The result of a dependency is what its record holds. -/
theorem find?_resultsOf (deps : List TaskId) (d : TaskId) :
    Dict.find? (s.resultsOf deps) d = if d ∈ deps then (s.task? d).bind (·.result) else none :=
  Dict.find?_ofList_filterMap (fun d => (s.task? d).bind (·.result)) deps d

/-- Results depend on the records of the dependencies alone. -/
theorem resultsOf_congr (h : ∀ d, (s'.task? d).bind (·.result) = (s.task? d).bind (·.result))
    (deps : List TaskId) : s'.resultsOf deps = s.resultsOf deps := by
  simp only [resultsOf, h]

/-- The records once several tasks are started. -/
theorem task?_started (hids : ids.Nodup) :
    (s.started now ids).task? x =
      if x ∈ ids then (s.task? x).map (Task.start now) else s.task? x :=
  record?_modifyAll (fun t => Task.profile_start now t) hids

/-- Starting tasks takes no result away and adds none. -/
theorem resultsOf_started (hids : ids.Nodup) (deps : List TaskId) :
    (s.started now ids).resultsOf deps = s.resultsOf deps := by
  refine resultsOf_congr (fun d => ?_) deps
  rw [task?_started hids]
  split
  · cases s.task? d with
    | none => rfl
    | some t => rfl
  · rfl

/-- A pending task that is not in flight is started. -/
theorem startTask_eq (hst : s.status? id = some .pending) (hfl : id ∉ s.inFlight) :
    s.startTask now id = (s.assignment? id, s.started now [id]) := by
  obtain ⟨t, ht, hp⟩ := exists_task?_of_status? hst
  have hcond : ¬(t.status ≠ .pending ∨ s.inFlight.contains id = true) := by
    rw [List.contains_iff_mem]
    exact fun h => h.elim (fun hne => hne hp) hfl
  simp only [startTask, ht, assignment?, Option.map_some]
  rw [if_neg hcond]
  rfl

/-- Tasks that are on their way from the queue are all started, in their order. -/
theorem startAll_eq (h : s.Startable ids) :
    s.startAll now ids = (ids.filterMap s.assignment?, s.started now ids) := by
  induction ids generalizing s with
  | nil => simp [startAll, started, modifyAll]
  | cons id ids ih =>
    obtain ⟨hnd, hall⟩ := h
    obtain ⟨hid, hrest⟩ := List.nodup_cons.1 hnd
    obtain ⟨hst, hfl⟩ := hall id List.mem_cons_self
    have htask : ∀ x ∈ ids, (s.started now [id]).task? x = s.task? x := fun x hx => by
      rw [task?_started (List.nodup_singleton id), if_neg]
      exact fun he => hid (List.mem_singleton.1 he ▸ hx)
    have hnext : (s.started now [id]).Startable ids := by
      refine ⟨hrest, fun x hx => ⟨?_, fun hmem => ?_⟩⟩
      · rw [status?, htask x hx]
        exact (hall x (List.mem_cons_of_mem _ hx)).1
      · rcases List.mem_append.1 hmem with hmem | hmem
        · exact (hall x (List.mem_cons_of_mem _ hx)).2 hmem
        · exact hid (List.mem_singleton.1 hmem ▸ hx)
    have hout : ids.filterMap (s.started now [id]).assignment? = ids.filterMap s.assignment? :=
      List.filterMap_congr fun x hx => by
        simp only [assignment?, htask x hx, resultsOf_started (List.nodup_singleton id)]
    rw [startAll, startTask_eq hst hfl]
    dsimp only
    rw [ih hnext, hout]
    refine Prod.ext ?_ ?_
    · cases ha : s.assignment? id with
      | none => simp [ha]
      | some a => simp [ha]
    · simp [started, modifyAll]

/-- The tasks that a dispatch takes off the queue. -/
def taken (s : Scheduler) (limit : Option Nat) : List TaskId :=
  s.queued.take (s.queue.available limit)

/-- The scheduler once a dispatch took tasks off the queue. -/
def unqueued (s : Scheduler) (limit : Option Nat) : Scheduler :=
  { s with queue := (s.queue.drain limit).2 }

/-- A dispatch starts what it takes off the queue. -/
theorem dispatch_eq {limit : Option Nat} (h : s.Startable (s.taken limit)) :
    s.dispatch now limit =
      ((s.taken limit).filterMap s.assignment?,
        (s.unqueued limit).started now (s.taken limit)) := by
  have h' : (s.unqueued limit).Startable (s.taken limit) := h
  have heq : s.dispatch now limit = (s.unqueued limit).startAll now (s.taken limit) := by
    rw [dispatch, taken, queued, ← ReadyQueue.drain_fst]
    rfl
  rw [heq, startAll_eq h']
  rfl

/-- A dispatch that finds nothing to take changes nothing. -/
theorem dispatch_of_available_eq_zero {limit : Option Nat} (h : s.queue.available limit = 0) :
    s.dispatch now limit = ([], s) := by
  rw [dispatch, ReadyQueue.drain, h]
  rfl

/-! ## Unblocking tasks -/

/-- Of several tasks those that are blocked are made pending and queued. -/
theorem unblock_eq (hids : ids.Nodup) :
    s.unblock ids =
      (ids.filter fun x => s.status? x = some .blocked,
        { s with
          tasks := modifyAll s.tasks (ids.filter fun x => s.status? x = some .blocked)
            (Task.withStatus .pending)
          queue := (ids.filter fun x => s.status? x = some .blocked).foldl ReadyQueue.push
            s.queue }) := by
  induction ids generalizing s with
  | nil => rfl
  | cons id ids ih =>
    obtain ⟨hid, hrest⟩ := List.nodup_cons.1 hids
    rw [unblock]
    by_cases hb : s.status? id = some .blocked
    · rw [if_pos hb]
      dsimp only
      rw [ih hrest]
      have hfilter : (ids.filter fun x => Scheduler.status?
          { s with
            tasks := modifyTask s.tasks id (Task.withStatus .pending)
            queue := s.queue.push id } x = some .blocked) =
          ids.filter fun x => s.status? x = some .blocked := by
        refine List.filter_congr fun x hx => decide_eq_decide.2 ?_
        have hne : x ≠ id := fun he => hid (he ▸ hx)
        rw [status?, task?_eq_record?,
          record?_modifyTask fun t => Task.profile_withStatus t .pending, if_neg hne]
        rfl
      rw [hfilter, List.filter_cons_of_pos (by simpa using hb)]
      rfl
    · rw [if_neg hb, ih hrest, List.filter_cons_of_neg (by simpa using hb)]

/-! ## Ending tasks -/

/-- The scheduler without a task in flight. -/
def landed (s : Scheduler) (id : TaskId) : Scheduler :=
  { s with inFlight := s.inFlight.filter (· != id) }

/-- The tasks that become ready when `id` completes. -/
def released (s : Scheduler) (id : TaskId) : List TaskId :=
  (s.index.resolve id).1.filter fun x => s.status? x = some .blocked

/-- The scheduler once a task in flight has completed. -/
def succeeded (s : Scheduler) (now : Instant) (id : TaskId) (result : Json) : Scheduler where
  tasks := modifyAll (modifyTask s.tasks id (Task.complete now result)) (s.released id)
    (Task.withStatus .pending)
  index := (s.index.resolve id).2
  queue := (s.released id).foldl ReadyQueue.push s.queue
  inFlight := s.inFlight.filter (· != id)
  policy := s.policy

/-- The scheduler once a task in flight has failed, before anything cascades. -/
def failedAt (s : Scheduler) (now : Instant) (id : TaskId) (error : String) : Scheduler :=
  { s.landed id with tasks := modifyTask s.tasks id (Task.fail now error) }

/-- An outcome for a task that is not in flight is ignored. -/
theorem complete_of_not_mem {outcome : Outcome} (h : id ∉ s.inFlight) :
    s.complete now id outcome = (s.progress [] [], s) := by
  have hc : (!s.inFlight.contains id) = true := by simpa using h
  rw [complete, if_pos hc]

/-- A task without a record is in flight no more after an outcome. -/
theorem complete_of_not_has {outcome : Outcome} (hfl : id ∈ s.inFlight) (hhas : s.has id = false) :
    s.complete now id outcome = ((s.landed id).progress [] [], s.landed id) := by
  have hc : ¬(!s.inFlight.contains id) = true := by simpa using hfl
  have hlanded : (!(s.landed id).has id) = true := by
    have : (s.landed id).has id = false := hhas
    simp [this]
  rw [complete, if_neg hc]
  dsimp only
  rw [← landed, if_pos hlanded]

/-- The records once a task has ended. -/
theorem record?_complete {result : Json} :
    record? (modifyTask s.tasks id (Task.complete now result)) x =
      if x = id then (s.task? x).map (Task.complete now result) else s.task? x :=
  record?_modifyTask fun t => Task.profile_complete now t result

/-- A task in flight that completes releases the blocked tasks that waited for it alone. -/
theorem complete_success {result : Json} (hfl : id ∈ s.inFlight)
    (hst : s.status? id = some .inProgress) (hnd : (s.index.dependentsOf id).Nodup) :
    s.complete now id (.success result) =
      ((s.succeeded now id result).progress (s.released id) [], s.succeeded now id result) := by
  have hc : ¬(!s.inFlight.contains id) = true := by simpa using hfl
  have hhas : ¬(!(s.landed id).has id) = true := by
    have : (s.landed id).has id = true := has_of_status? hst
    simp [this]
  have hblocked : ∀ y, Scheduler.status?
      { s.landed id with
        tasks := modifyTask s.tasks id (Task.complete now result)
        index := (s.index.resolve id).2 } y = some .blocked ↔ s.status? y = some .blocked := by
    intro y
    rw [status?, task?_eq_record?, record?_complete]
    by_cases hy : y = id
    · subst hy
      rw [if_pos rfl, hst, Option.map_map]
      cases s.task? y with
      | none => simp
      | some t => simp
    · rw [if_neg hy, status?]
  have hready : ((s.index.resolve id).1.filter fun y => Scheduler.status?
      { s.landed id with
        tasks := modifyTask s.tasks id (Task.complete now result)
        index := (s.index.resolve id).2 } y = some .blocked) = s.released id :=
    List.filter_congr fun y _ => decide_eq_decide.2 (hblocked y)
  have hresolved : (s.index.resolve id).1.Nodup := hnd.filter _
  have hunblock := unblock_eq (s :=
    { s.landed id with
      tasks := modifyTask s.tasks id (Task.complete now result)
      index := (s.index.resolve id).2 }) hresolved
  rw [hready] at hunblock
  rw [complete, if_neg hc]
  dsimp only
  rw [← landed, if_neg hhas]
  simp only [landed] at hunblock ⊢
  rw [hunblock]
  rfl

/-- A task in flight that fails fails alone where failures block; where they cascade, so do the
tasks that wait for it. -/
theorem complete_failure {error : String} (hfl : id ∈ s.inFlight) (hhas : s.has id = true) :
    s.complete now id (.failure error) =
      match s.policy with
      | .block => ((s.failedAt now id error).progress [] [id], s.failedAt now id error)
      | .cascade =>
        (((s.failedAt now id error).cascade now id).2.progress []
            (id :: ((s.failedAt now id error).cascade now id).1),
          ((s.failedAt now id error).cascade now id).2) := by
  have hc : ¬(!s.inFlight.contains id) = true := by simpa using hfl
  have hlanded : ¬(!(s.landed id).has id) = true := by
    have : (s.landed id).has id = true := hhas
    simp [this]
  rw [complete, if_neg hc]
  dsimp only
  rw [← landed, if_neg hlanded]
  rfl

/-- A failure where failures block. -/
theorem complete_failure_block {error : String} (hfl : id ∈ s.inFlight) (hhas : s.has id = true)
    (hp : s.policy = .block) :
    s.complete now id (.failure error) =
      ((s.failedAt now id error).progress [] [id], s.failedAt now id error) := by
  rw [complete_failure hfl hhas, hp]

/-- A failure where failures cascade. -/
theorem complete_failure_cascade {error : String} (hfl : id ∈ s.inFlight) (hhas : s.has id = true)
    (hp : s.policy = .cascade) :
    s.complete now id (.failure error) =
      (((s.failedAt now id error).cascade now id).2.progress []
          (id :: ((s.failedAt now id error).cascade now id).1),
        ((s.failedAt now id error).cascade now id).2) := by
  rw [complete_failure hfl hhas, hp]

/-! ## Submitting tasks -/

/-- The record a task is submitted with, before failures are looked at. -/
def fresh (s : Scheduler) (now : Instant) (id : TaskId) (role : RoleName) (description : String)
    (deps : List TaskId) : Task :=
  Task.create now id role description deps.eraseDups
    (if (s.index.insert id deps.eraseDups s.isCompleted).1 then .pending else .blocked)

/-- The record of a task that fails on submission, for its dependency `d`. -/
def doomed (s : Scheduler) (now : Instant) (id : TaskId) (role : RoleName) (description : String)
    (deps : List TaskId) (d : TaskId) : Task :=
  (s.fresh now id role description deps).fail now (dependencyFailed d)

/-- The scheduler with one more record. -/
def entered (s : Scheduler) (t : Task) : Scheduler :=
  { s with
    tasks := s.tasks ++ [t]
    index := (s.index.insert t.id t.dependencies s.isCompleted).2
    queue := if t.status = .pending then s.queue.push t.id else s.queue }

/-- The records once a new task is entered. -/
theorem task?_entered {t : Task} (hnew : s.has t.id = false) :
    (s.entered t).task? x = if x = t.id then some t else s.task? x := by
  have hrec : (s.entered t).task? x = (s.task? x).or (if t.id = x then some t else none) :=
    record?_append_singleton
  rw [hrec]
  by_cases hx : x = t.id
  · rw [hx, task?_of_not_has hnew, Option.none_or]
  · rw [if_neg (Ne.symm hx), if_neg hx, Option.or_none]

section
variable {role : RoleName} {description : String} {deps : List TaskId}

/-- A name that is taken is refused. -/
theorem submit_of_has (h : s.has id = true) :
    s.submit now id role description deps = .error (.duplicateTask id) := by
  rw [submit, if_pos h]

/-- A task without a failed dependency to follow is entered as it is. -/
theorem submit_of_none (h : s.has id = false)
    (hd : s.failedDependency? deps.eraseDups = none) :
    s.submit now id role description deps =
      .ok (s.fresh now id role description deps,
        s.entered (s.fresh now id role description deps)) := by
  rw [submit, if_neg (by rw [h]; exact Bool.false_ne_true)]
  dsimp only
  rw [hd]
  have hstatus : (s.fresh now id role description deps).status = .pending ↔
      (s.index.insert id deps.eraseDups s.isCompleted).1 = true := by
    rw [fresh, Task.create]
    split
    · next hr => simp [hr]
    · next hr => simp [hr]
  simp only [entered, hstatus]
  rfl

/-- A task with a failed dependency, where failures cascade, is entered as failed, and the failure
cascades to the tasks that wait for it. -/
theorem submit_of_some {d : TaskId} (h : s.has id = false)
    (hd : s.failedDependency? deps.eraseDups = some d) :
    s.submit now id role description deps =
      .ok (s.doomed now id role description deps d,
        ((s.entered (s.doomed now id role description deps d)).cascade now id).2) := by
  rw [submit, if_neg (by rw [h]; exact Bool.false_ne_true)]
  dsimp only
  rw [hd]
  rfl

/-- Only a name that is taken is refused. -/
theorem exists_submit_eq_ok (h : s.has id = false) (now : Instant) (role : RoleName)
    (description : String) (deps : List TaskId) :
    ∃ r, s.submit now id role description deps = .ok r := by
  cases hd : s.failedDependency? deps.eraseDups with
  | none => exact ⟨_, submit_of_none h hd⟩
  | some d => exact ⟨_, submit_of_some h hd⟩

end

end

end Taskweave.Scheduler
