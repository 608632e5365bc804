import Taskweave.Proofs.Schedule.Reachable

/-!
# The life of a task

`Task.Move` lists the ways in which a record changes: a blocked task becomes ready, a pending one
starts, a running one ends, and, where failures cascade, a blocked one fails for a dependency. One
operation takes a record through at most one of them (`Scheduler.Coherent.move_perform`). From that
follow, by cases on the move, how its status goes on (`Status.Leads`), what the optional fields of a
record hold (`Task.Fits`), and that a result stays what it is. `performAll_lifecycle` puts them
together for every run.
-/

namespace Taskweave

/-- The ways in which an operation changes a record. -/
inductive Task.Move (policy : FailurePolicy) : Task → Task → Prop where
  | stay (t : Task) : Move policy t t
  | ready {t : Task} : t.status = .blocked → Move policy t (t.withStatus .pending)
  | start {t : Task} (now : Instant) : t.status = .pending → Move policy t (t.start now)
  | complete {t : Task} (now : Instant) (result : Json) : t.status = .inProgress →
      Move policy t (t.complete now result)
  | fail {t : Task} (now : Instant) (error : String) : t.status = .inProgress →
      Move policy t (t.fail now error)
  | follow {t : Task} (now : Instant) (dependency : TaskId) : policy = .cascade →
      t.status = .blocked → Move policy t (t.fail now (dependencyFailed dependency))

/-- The moves of a status. -/
inductive Status.Leads (policy : FailurePolicy) : Status → Status → Prop where
  | ready : Leads policy .blocked .pending
  | start : Leads policy .pending .inProgress
  | complete : Leads policy .inProgress .completed
  | fail : Leads policy .inProgress .failed
  | follow : policy = .cascade → Leads policy .blocked .failed

/-- What an operation leaves of a record: the fixed part, and the rest of it up to one move. -/
structure Task.Advances (policy : FailurePolicy) (t t' : Task) : Prop where
  profile_eq : t'.profile = t.profile
  move : Task.Move policy t t'
  /-- A status that does not lead on belongs to a record that stays as it is. -/
  leads : t' = t ∨ t.status.Leads policy t'.status

/-- The optional fields of a record fit its status. -/
def Task.Fits (t : Task) : Prop :=
  match t.status with
  | .pending | .blocked =>
    t.startedAt = none ∧ t.completedAt = none ∧ t.result = none ∧ t.error = none
  | .inProgress =>
    t.startedAt.isSome ∧ t.completedAt = none ∧ t.result = none ∧ t.error = none
  | .completed =>
    t.startedAt.isSome ∧ t.completedAt.isSome ∧ t.result.isSome ∧ t.error = none
  | .failed => t.completedAt.isSome ∧ t.result = none ∧ t.error.isSome

section
variable {policy : FailurePolicy} {t t' : Task}

/-- A record keeps its fixed part. -/
theorem Task.Move.profile_eq (h : Move policy t t') : t'.profile = t.profile := by
  cases h <;> rfl

/-- A move that changes a record moves its status. -/
theorem Task.Move.leads (h : Move policy t t') : t' = t ∨ t.status.Leads policy t'.status := by
  cases h with
  | stay => exact .inl rfl
  | ready hs =>
    rw [hs]
    exact .inr .ready
  | start now hs =>
    rw [hs]
    exact .inr .start
  | complete now result hs =>
    rw [hs]
    exact .inr .complete
  | fail now error hs =>
    rw [hs]
    exact .inr .fail
  | follow now dependency hp hs =>
    rw [hs]
    exact .inr (.follow hp)

/-- A record that moves is one that advances. -/
theorem Task.Move.advances (h : Move policy t t') : t.Advances policy t' :=
  ⟨h.profile_eq, h, h.leads⟩

/-- A record keeps fitting its status. -/
theorem Task.Move.fits (h : Move policy t t') (ht : t.Fits) : t'.Fits := by
  cases h with
  | stay => exact ht
  | ready hs => rw [Fits, hs] at ht; exact ht
  | start now hs => rw [Fits, hs] at ht; exact ⟨rfl, ht.2⟩
  | complete now result hs => rw [Fits, hs] at ht; exact ⟨ht.1, rfl, rfl, rfl⟩
  | fail now error hs => exact ⟨rfl, rfl, rfl⟩
  | follow now dependency hp hs => exact ⟨rfl, rfl, rfl⟩

/-- A record that fits its status has a result only if its task has completed. -/
theorem Task.Fits.result_eq_none (h : t.Fits) (hs : t.status ≠ .completed) : t.result = none := by
  unfold Fits at h
  cases hst : t.status with
  | completed => exact absurd hst hs
  | pending | blocked | inProgress => rw [hst] at h; exact h.2.2.1
  | failed => rw [hst] at h; exact h.2.1

/-- A completed record that fits its status has a result. -/
theorem Task.Fits.exists_result (h : t.Fits) (hs : t.status = .completed) :
    ∃ v, t.result = some v := by
  rw [Fits, hs] at h
  exact Option.isSome_iff_exists.1 h.2.2.1

/-- A task that has begun has been started, or has failed. -/
def Status.HasBegun (status : Status) : Prop := status ≠ .pending ∧ status ≠ .blocked

/-- A record whose task has begun has not begun again. -/
theorem Task.Move.hasBegun (h : Move policy t t') (ht : t.status.HasBegun) :
    t'.status.HasBegun := by
  cases h with
  | stay => exact ht
  | ready hs => exact absurd hs ht.2
  | start | complete | fail | follow => exact ⟨nofun, nofun⟩

/-- A record that has been started stays so. -/
theorem Task.Move.isSome_startedAt (h : Move policy t t') (ht : t.startedAt.isSome) :
    t'.startedAt.isSome := by
  cases h with
  | start => rfl
  | stay | ready | complete | fail | follow => exact ht

/-- A record is started when its task begins to run. -/
theorem Task.Move.startedAt_eq (h : Move policy t t') :
    t'.startedAt = t.startedAt ∨ t.status = .pending ∧ t'.status = .inProgress := by
  cases h with
  | start now hs => exact .inr ⟨hs, rfl⟩
  | stay | ready | complete | fail | follow => exact .inl rfl

/-- A task has ended once it has completed or failed. -/
theorem Task.isTerminal_iff : t.isTerminal = true ↔ t.status = .completed ∨ t.status = .failed := by
  rw [isTerminal]
  cases t.status <;> simp [Status.isTerminal]

/-- A record that has ended does not change. -/
theorem Task.Move.eq_of_isTerminal (h : Move policy t t') (ht : t.isTerminal = true) : t' = t := by
  rw [isTerminal] at ht
  cases h with
  | stay => rfl
  | ready hs | start _ hs | complete _ _ hs | fail _ _ hs | follow _ _ _ hs =>
    rw [hs] at ht
    cases ht

end

namespace Scheduler

section
variable {s s' : Scheduler} {now : Instant} {id x : TaskId} {t : Task}

/-! ## What each operation does to a record -/

/-- A dispatch starts pending tasks. -/
theorem Coherent.move_dispatch {limit : Option Nat} (h : s.Coherent) (ht : s.task? x = some t) :
    ∃ t', (s.dispatch now limit).2.task? x = some t' ∧ Task.Move s.policy t t' := by
  rw [h.dispatch_snd, task?_started h.startable.1]
  have ht' : (s.unqueued limit).task? x = some t := ht
  rw [ht']
  split
  · next hx =>
    exact ⟨_, rfl, .start now (status_of_status? ht (h.startable.2 x hx).1)⟩
  · exact ⟨t, rfl, .stay t⟩

/-- A cascade fails blocked tasks. -/
theorem Cascaded.move {ids : List TaskId} (h : s.Coherent) (hc : Cascaded s now id s' ids)
    (hid : s.isCompleted id = false) (hpolicy : s.policy = .cascade) (ht : s.task? x = some t) :
    ∃ t', s'.task? x = some t' ∧ Task.Move s.policy t t' := by
  by_cases hx : x ∈ ids
  · have hb := status_of_status? ht (hc.blocked h hid hx)
    obtain ⟨cause, -, -, hrec⟩ := hc.failed x hx
    rw [hrec, ht]
    exact ⟨_, rfl, .follow now cause hpolicy hb⟩
  · rw [hc.kept x hx, ht]
    exact ⟨t, rfl, .stay t⟩

/-- A success completes a running task and makes blocked ones ready. -/
theorem Coherent.move_succeeded {result : Json} (h : s.Coherent) (hfl : id ∈ s.inFlight)
    (ht : s.task? x = some t) :
    ∃ t', (s.succeeded now id result).task? x = some t' ∧ Task.Move s.policy t t' := by
  have hrun := (h.mem_inFlight id).1 hfl
  rw [h.task?_succeeded, ht]
  by_cases hx : x = id
  · subst hx
    have hnot := h.not_mem_released hfl
    rw [if_neg hnot, if_pos rfl]
    exact ⟨_, rfl, .complete now result (status_of_status? ht hrun)⟩
  · rw [if_neg hx]
    split
    · next hr => exact ⟨_, rfl, .ready (status_of_status? ht (h.mem_released.1 hr).1)⟩
    · exact ⟨t, rfl, .stay t⟩

/-- A failure fails a running task. -/
theorem Coherent.move_failedAt {error : String} (h : s.Coherent) (hfl : id ∈ s.inFlight)
    (ht : s.task? x = some t) :
    ∃ t', (s.failedAt now id error).task? x = some t' ∧ Task.Move s.policy t t' := by
  rw [task?_failedAt, ht]
  split
  · next hx =>
    exact ⟨_, rfl, .fail now error (status_of_status? ht ((h.mem_inFlight x).1 (hx ▸ hfl)))⟩
  · exact ⟨t, rfl, .stay t⟩

/-- A failure moves every record at most once, since a cascade leaves the task it starts from as it
is. -/
theorem Coherent.move_cascade {error : String} {ids : List TaskId} (h : s.Coherent)
    (hfl : id ∈ s.inFlight) (hp : s.policy = .cascade)
    (hc : Cascaded (s.failedAt now id error) now id s' ids) (ht : s.task? x = some t) :
    ∃ t', s'.task? x = some t' ∧ Task.Move s.policy t t' := by
  have hfailed := h.failedAt hfl now error
  have hopen : (s.failedAt now id error).isCompleted id = false := h.isCompleted_failedAt hfl
  by_cases hx : x = id
  · have hnot : x ∉ ids := hx ▸ hc.not_mem hfailed (h.failed_failedAt hfl)
    rw [hc.kept x hnot]
    exact h.move_failedAt hfl ht
  · have hsame : (s.failedAt now id error).task? x = some t := by
      rw [task?_failedAt, if_neg hx, ht]
    have hmove := hc.move hfailed hopen hp hsame
    exact hmove

/-- An outcome moves every record at most once. -/
theorem Ends.move {outcome : Outcome} (he : s.Ends now id outcome s') (h : s.Coherent)
    (ht : s.task? x = some t) : ∃ t', s'.task? x = some t' ∧ Task.Move s.policy t t' := by
  cases he with
  | ignored => exact ⟨t, ht, .stay t⟩
  | succeeded hfl => exact h.move_succeeded hfl ht
  | failed hfl => exact h.move_failedAt hfl ht
  | cascaded hfl hp hc => exact h.move_cascade hfl hp hc ht

/-- A failed dependency is found only where failures cascade. -/
theorem failedDependency?_eq_some {deps : List TaskId} {d : TaskId}
    (h : s.failedDependency? deps = some d) :
    s.policy = .cascade ∧ d ∈ deps ∧ s.status? d = some .failed := by
  rw [failedDependency?] at h
  cases hp : s.policy with
  | block => rw [hp] at h; cases h
  | cascade =>
    rw [hp] at h
    exact ⟨rfl, List.mem_of_find?_eq_some h, by simpa using List.find?_some h⟩

/-- What an accepted submission answers with, and what it adds to the scheduler. -/
structure Accepted (s : Scheduler) (now : Instant) (id : TaskId) (role : RoleName)
    (description : String) (deps : List TaskId) (t : Task) (s' : Scheduler) : Prop where
  profile_eq : t.profile = ⟨id, role, description, deps.eraseDups, now⟩
  fits : t.Fits
  /-- The answer is the record that is kept. -/
  task?_eq : s'.task? id = some t
  outline_eq : outline s'.tasks = outline s.tasks ++ [t.profile]
  isCompleted_eq : ∀ x, s'.isCompleted x = s.isCompleted x
  inFlight_eq : s'.inFlight = s.inFlight
  move : ∀ {x t₀}, s.task? x = some t₀ → ∃ t₁, s'.task? x = some t₁ ∧ Task.Move s.policy t₀ t₁

section
variable {role : RoleName} {description : String} {deps : List TaskId} {d : TaskId}

/-- A task that does not fail on submission has not ended. -/
theorem status_fresh : (s.fresh now id role description deps).status ≠ .completed ∧
    (s.fresh now id role description deps).status ≠ .failed := by
  unfold Scheduler.fresh Task.create
  split <;> exact ⟨nofun, nofun⟩

/-- A new record fits its status. -/
theorem fits_fresh : (s.fresh now id role description deps).Fits := by
  by_cases hr : (s.index.insert id deps.eraseDups s.isCompleted).1 = true
  · simp [fresh, Task.create, Task.Fits, hr]
  · simp [fresh, Task.create, Task.Fits, hr]

/-- Records that there were stay when a new task is entered. -/
theorem task?_entered_of_some {t₀ : Task} (hnew : s.has t.id = false) (ht : s.task? x = some t₀) :
    (s.entered t).task? x = some t₀ := by
  have hne : x ≠ t.id := fun hx => by
    rw [hx, task?_of_not_has hnew] at ht
    cases ht
  rw [task?_entered hnew, if_neg hne, ht]

/-- A submission that is accepted adds one record, and moves the others at most once. -/
theorem Enters.accepted (he : s.Enters now id role description deps t s') (h : s.Coherent) :
    Accepted s now id role description deps t s' := by
  cases he with
  | fresh hnew hd =>
    refine ⟨rfl, fits_fresh, (task?_entered hnew).trans (if_pos rfl), ?_,
      fun x => isCompleted_entered hnew status_fresh.1, rfl,
      fun ht => ⟨_, task?_entered_of_some hnew ht, .stay _⟩⟩
    simp [outline, Scheduler.entered]
  | @doomed d s' ids hnew hd hc =>
    have hcoh : (s.entered (s.doomed now id role description deps d)).Coherent :=
      h.entered_doomed hnew
    have hopen : (s.entered (s.doomed now id role description deps d)).isCompleted id = false :=
      isCompleted_entered_doomed hnew
    have hpolicy := (failedDependency?_eq_some hd).1
    have hnot : id ∉ ids := hc.not_mem hcoh (failed_entered_doomed hnew)
    refine ⟨rfl, ⟨rfl, rfl, rfl⟩, ?_, ?_, fun x => ?_, ?_, fun ht => ?_⟩
    · rw [hc.kept id hnot]
      exact (task?_entered hnew).trans (if_pos rfl)
    · rw [hc.outline_eq]
      simp [outline, Scheduler.entered]
    · rw [hc.isCompleted_eq hcoh hopen]
      exact isCompleted_entered hnew status_doomed_ne
    · rw [hc.frame]
      rfl
    · have hmove := hc.move hcoh hopen hpolicy (task?_entered_of_some hnew ht)
      exact hmove

/-- The tasks after a submission are those before it and the one that is submitted. -/
theorem Accepted.has_iff (h : Accepted s now id role description deps t s') :
    s'.has x = true ↔ s.has x = true ∨ x = id := by
  have hid : t.id = id := congrArg Task.Profile.id h.profile_eq
  have hnames : s'.tasks.map (·.id) = s.tasks.map (·.id) ++ [id] := by
    rw [← map_id_outline, h.outline_eq, List.map_append, map_id_outline, ← hid]
    rfl
  rw [Scheduler.has_iff, Scheduler.has_iff, hnames, List.mem_append, List.mem_singleton]

end

/-- An operation moves every record there is at most once. -/
theorem Coherent.move_perform (h : s.Coherent) (op : Operation) (ht : s.task? x = some t) :
    ∃ t', (s.perform op).task? x = some t' ∧ Task.Move s.policy t t' := by
  cases op with
  | submit now id role description deps =>
    cases hs : s.submit now id role description deps with
    | ok r => simpa only [Scheduler.perform, hs] using ((enters_of_submit hs).accepted h).move ht
    | error e => exact ⟨t, by simpa only [Scheduler.perform, hs] using ht, .stay t⟩
  | dispatch now limit => exact h.move_dispatch ht
  | complete now id outcome => exact (h.ends now id outcome).move h ht

/-- No operation changes the record of a task that has ended. -/
theorem Coherent.task?_perform_of_isTerminal (h : s.Coherent) (ht : s.task? x = some t)
    (hend : t.isTerminal = true) (op : Operation) : (s.perform op).task? x = some t := by
  obtain ⟨t', ht', hmove⟩ := h.move_perform op ht
  obtain rfl := hmove.eq_of_isTerminal hend
  exact ht'

/-- No operations change the record of a task that has ended. -/
theorem Coherent.task?_performAll_of_isTerminal (h : s.Coherent) (ht : s.task? x = some t)
    (hend : t.isTerminal = true) (ops : List Operation) :
    (s.performAll ops).task? x = some t := by
  induction ops generalizing s with
  | nil => exact ht
  | cons op ops ih => exact ih (h.perform op) (h.task?_perform_of_isTerminal ht hend op)

/-! ## Fixed parts -/

/-- An operation leaves the fixed part of a task as it is. -/
theorem Coherent.profile?_perform (h : s.Coherent) (op : Operation) {p : Task.Profile}
    (hp : s.profile? x = some p) : (s.perform op).profile? x = some p := by
  rw [profile?, Option.map_eq_some_iff] at hp
  obtain ⟨t, ht, rfl⟩ := hp
  obtain ⟨t', ht', hmove⟩ := h.move_perform op ht
  rw [profile?_of_task? ht', hmove.profile_eq]

/-- A task that has a record after an operation had one before, or is the answer to it. -/
theorem Coherent.task?_perform (h : s.Coherent) (op : Operation)
    (ht : (s.perform op).task? x = some t) :
    (∃ t₀, s.task? x = some t₀) ∨ ∃ now role description deps s',
      op = .submit now x role description deps ∧
        s.submit now x role description deps = .ok (t, s') := by
  have hof : ∀ {s' : Scheduler}, outline s'.tasks = outline s.tasks → s'.task? x = some t →
      ∃ t₀, s.task? x = some t₀ := fun {s'} hout ht => by
    have hp := profile?_congr hout x
    rw [profile?_of_task? ht] at hp
    obtain ⟨t₀, ht₀, -⟩ := Option.map_eq_some_iff.1 hp.symm
    exact ⟨t₀, ht₀⟩
  cases op with
  | submit now id role description deps =>
    cases hs : s.submit now id role description deps with
    | ok r =>
      simp only [Scheduler.perform, hs] at ht
      have hacc := (enters_of_submit hs).accepted h
      by_cases hx : x = id
      · subst hx
        have heq : r.1 = t := Option.some.inj (hacc.task?_eq.symm.trans ht)
        exact .inr ⟨now, role, description, deps, r.2, rfl, by rw [hs, ← heq]⟩
      · have hp := profile?_of_task? ht
        have hid : r.1.id = id := congrArg Task.Profile.id hacc.profile_eq
        have hlast : [r.1.profile].find? (fun p => p.id == x) = none := by
          simp [hid, Ne.symm hx]
        rw [profile?_eq_find?, hacc.outline_eq, List.find?_append, hlast, Option.or_none,
          ← profile?_eq_find?] at hp
        obtain ⟨t₀, ht₀, -⟩ := Option.map_eq_some_iff.1 hp
        exact .inl ⟨t₀, ht₀⟩
    | error e =>
      simp only [Scheduler.perform, hs] at ht
      exact .inl ⟨t, ht⟩
  | dispatch now limit => exact .inl (hof h.outline_dispatch ht)
  | complete now id outcome => exact .inl (hof (h.ends now id outcome).outline_eq ht)

/-! ## Records fit their statuses -/

/-- Every record fits its status. -/
def AllFit (s : Scheduler) : Prop := ∀ x t, s.task? x = some t → t.Fits

/-- There is no record to fit in a scheduler without tasks. -/
theorem AllFit.new (policy : FailurePolicy) : (Scheduler.new policy).AllFit := by
  intro x t ht
  rw [task?_new] at ht
  cases ht

/-- An operation keeps the records fitting. -/
theorem AllFit.perform (hf : s.AllFit) (h : s.Coherent) (op : Operation) :
    (s.perform op).AllFit := by
  intro x t ht
  rcases h.task?_perform op ht with ⟨t₀, ht₀⟩ | ⟨now, role, description, deps, s', rfl, hs⟩
  · obtain ⟨t₁, ht₁, hmove⟩ := h.move_perform op ht₀
    obtain rfl : t₁ = t := Option.some.inj (ht₁.symm.trans ht)
    exact hmove.fits (hf x t₀ ht₀)
  · exact ((enters_of_submit hs).accepted h).fits

/-- Whatever is asked of a scheduler without tasks, every record fits its status. -/
theorem allFit_performAll (policy : FailurePolicy) (ops : List Operation) :
    ((Scheduler.new policy).performAll ops).AllFit := by
  have hgen : ∀ {s : Scheduler}, s.Coherent → s.AllFit → (s.performAll ops).AllFit := by
    induction ops with
    | nil => exact fun _ hf => hf
    | cons op ops ih => exact fun h hf => ih (h.perform op) (hf.perform h op)
  exact hgen (.new policy) (.new policy)

/-! ## Results -/

/-- A task has completed with a result. -/
def Yields (s : Scheduler) (id : TaskId) (result : Json) : Prop :=
  ∃ t, s.task? id = some t ∧ t.status = .completed ∧ t.result = some result

/-- A task that yields a result has completed. -/
theorem Yields.isCompleted {v : Json} (hy : s.Yields x v) : s.isCompleted x = true := by
  obtain ⟨t, ht, hst, -⟩ := hy
  rw [isCompleted_iff, status?_of_task? ht, hst]

/-- A completed task yields a result. -/
theorem AllFit.exists_yields (hf : s.AllFit) (hc : s.isCompleted x = true) : ∃ v, s.Yields x v := by
  rw [isCompleted_iff, status?, Option.map_eq_some_iff] at hc
  obtain ⟨t, ht, hst⟩ := hc
  obtain ⟨v, hv⟩ := (hf x t ht).exists_result hst
  exact ⟨v, t, ht, hst, hv⟩

/-- What a task yields is what its record holds as a result. -/
theorem AllFit.yields_iff (hf : s.AllFit) {v : Json} :
    s.Yields x v ↔ (s.task? x).bind (·.result) = some v := by
  constructor
  · rintro ⟨t, ht, -, hv⟩
    rw [ht]
    exact hv
  · intro hv
    obtain ⟨t, ht, hv⟩ := Option.bind_eq_some_iff.1 hv
    refine ⟨t, ht, ?_, hv⟩
    by_contra hne
    rw [(hf x t ht).result_eq_none hne] at hv
    cases hv

/-- A task that did not complete just now yields what it yielded. -/
theorem yields_congr {policy : FailurePolicy} {v : Json}
    (hmove : ∀ {t}, s.task? x = some t → ∃ t', s'.task? x = some t' ∧ Task.Move policy t t')
    (hcomp : s'.isCompleted x = s.isCompleted x) : s'.Yields x v ↔ s.Yields x v := by
  constructor
  · intro hy
    have hc := hy.isCompleted
    rw [hcomp, isCompleted_iff, status?, Option.map_eq_some_iff] at hc
    obtain ⟨t, ht, hst⟩ := hc
    obtain ⟨t', ht', hm⟩ := hmove ht
    obtain rfl := hm.eq_of_isTerminal (Task.isTerminal_iff.2 (.inl hst))
    obtain ⟨t₁, ht₁, -, hv⟩ := hy
    obtain rfl : t₁ = t' := Option.some.inj (ht₁.symm.trans ht')
    exact ⟨t₁, ht, hst, hv⟩
  · rintro ⟨t, ht, hst, hv⟩
    obtain ⟨t', ht', hm⟩ := hmove ht
    obtain rfl := hm.eq_of_isTerminal (Task.isTerminal_iff.2 (.inl hst))
    exact ⟨t', ht', hst, hv⟩

/-- What the tasks yield after a success: what they yielded, and the result of the one that
succeeded. -/
theorem Coherent.yields_succeeded {result v : Json} (h : s.Coherent) (hfl : id ∈ s.inFlight) :
    (s.succeeded now id result).Yields x v ↔ s.Yields x v ∨ x = id ∧ v = result := by
  by_cases hx : x = id
  · subst hx
    have hrun := (h.mem_inFlight x).1 hfl
    have hnot := h.not_mem_released hfl
    have hold : ¬ s.Yields x v := fun hy => by
      have := isCompleted_iff.1 hy.isCompleted
      rw [hrun] at this
      cases this
    obtain ⟨t, ht, -⟩ := exists_task?_of_status? hrun
    have hrec : (s.succeeded now x result).task? x = some (t.complete now result) := by
      rw [h.task?_succeeded, if_neg hnot, if_pos rfl, ht]
      rfl
    constructor
    · rintro ⟨t', ht', -, hv⟩
      obtain rfl := Option.some.inj (hrec.symm.trans ht')
      exact .inr ⟨rfl, (Option.some.inj hv).symm⟩
    · rintro (hy | ⟨-, rfl⟩)
      · exact absurd hy hold
      · exact ⟨_, hrec, rfl, rfl⟩
  · rw [yields_congr (fun ht => h.move_succeeded hfl ht)
      (by rw [h.isCompleted_succeeded hfl, beq_false_of_ne hx, Bool.or_false])]
    exact ⟨.inl, fun hor => hor.resolve_right fun hand => hx hand.1⟩

end

end Scheduler

/-- Whatever is asked of a scheduler without tasks: one more operation, whether it is accepted,
refused or ignored, takes the record of a task through one move at most; no operations change the
record of a task that has ended; and every record fits its status. -/
theorem performAll_lifecycle (policy : FailurePolicy) (ops : List Operation) :
    (∀ op id t, ((Scheduler.new policy).performAll ops).task? id = some t →
      ∃ t', (((Scheduler.new policy).performAll ops).perform op).task? id = some t' ∧
        t.Advances policy t') ∧
    (∀ more id t, ((Scheduler.new policy).performAll ops).task? id = some t →
      t.isTerminal = true →
      (((Scheduler.new policy).performAll ops).performAll more).task? id = some t) ∧
    ∀ id t, ((Scheduler.new policy).performAll ops).task? id = some t → t.Fits := by
  have hc := Scheduler.coherent_performAll policy ops
  refine ⟨?_, ?_, Scheduler.allFit_performAll policy ops⟩
  · intro op id t ht
    obtain ⟨t', ht', hmove⟩ := hc.move_perform op ht
    rw [Scheduler.policy_performAll] at hmove
    exact ⟨t', ht', hmove.advances⟩
  · intro more id t ht hend
    exact hc.task?_performAll_of_isTerminal ht hend more

end Taskweave
