import Taskweave.Proofs.Schedule.Release

/-!
# What a submission comes to

A submission enters the edges of the new task before it looks for a dependency that has failed, and
answers with the record as it is before the failure cascades, to tasks that may have listed the new
one long before it was there. `Scheduler.Admitted` says what comes of it by the statuses of the
dependencies alone: which record is kept and answered, whether the task is queued, what it waits
for, and which other records change. The dependencies of the record are the listed ones in the order
in which they were seen first (`FirstSeen`), and the first failed one of either list is the same
(`Scheduler.failedDependency?_eraseDups`). `performAll_submits` covers every submission in every
run, those of a taken name included.
-/

namespace Taskweave

open Scheduler

/-! ## Lists without repetitions -/

/-- The names `xs` are those of `listed`, each once, in the order in which they are seen first. -/
structure FirstSeen (listed xs : List TaskId) : Prop where
  mem_iff : ∀ d, d ∈ xs ↔ d ∈ listed
  ordered : xs.Pairwise fun a b => listed.idxOf a < listed.idxOf b

section
variable {a b : TaskId} {listed : List TaskId} {p : TaskId → Bool}

/-- What is kept of a list is seen first in the order of the list. -/
theorem idxOf_lt_of_filter (ha : p a = true) (hb : p b = true)
    (h : (listed.filter p).idxOf a < (listed.filter p).idxOf b) :
    listed.idxOf a < listed.idxOf b := by
  induction listed with
  | nil => exact h
  | cons c listed ih =>
    rw [List.idxOf_cons, List.idxOf_cons]
    cases hc : p c with
    | true =>
      rw [List.filter_cons_of_pos hc, List.idxOf_cons, List.idxOf_cons] at h
      cases hca : c == a <;> cases hcb : c == b <;>
        simp only [hca, hcb, cond_true, cond_false] at h ⊢
      · exact Nat.succ_lt_succ (ih (Nat.lt_of_succ_lt_succ h))
      · exact absurd h (Nat.not_lt_zero _)
      · exact Nat.succ_pos _
      · exact h
    | false =>
      have hca : (c == a) = false := beq_false_of_ne fun he => by simp [he, ha] at hc
      have hcb : (c == b) = false := beq_false_of_ne fun he => by simp [he, hb] at hc
      rw [List.filter_cons_of_neg (by simp [hc])] at h
      rw [hca, hcb]
      exact Nat.succ_lt_succ (ih h)

/-- A list without its repetitions holds what it holds, in the order in which it is seen first. -/
theorem firstSeen_eraseDups : ∀ listed : List TaskId, FirstSeen listed listed.eraseDups
  | [] => ⟨fun _ => Iff.rfl, .nil⟩
  | c :: listed => by
    refine ⟨fun d => List.mem_eraseDups, ?_⟩
    have hrest := firstSeen_eraseDups (listed.filter fun y => !y == c)
    have hne : ∀ x ∈ (listed.filter fun y => !y == c).eraseDups, (!x == c) = true := fun x hx =>
      (List.mem_filter.1 ((hrest.mem_iff x).1 hx)).2
    have hself : ∀ x, (!x == c) = true → (c == x) = false := fun x hx => by
      rw [Bool.not_eq_true', beq_eq_false_iff_ne] at hx
      exact beq_false_of_ne hx.symm
    rw [List.eraseDups_cons]
    refine List.Pairwise.cons (fun x hx => ?_) (hrest.ordered.imp_of_mem fun {a b} ha hb hlt => ?_)
    · rw [List.idxOf_cons_self, List.idxOf_cons, hself x (hne x hx)]
      exact Nat.succ_pos _
    · rw [List.idxOf_cons, List.idxOf_cons, hself a (hne a ha), hself b (hne b hb)]
      exact Nat.succ_lt_succ (idxOf_lt_of_filter (hne a ha) (hne b hb) hlt)
termination_by listed => listed.length
decreasing_by exact Nat.lt_succ_of_le (List.length_filter_le _ listed)

/-- The first match in a list is the first match in it without its repetitions. -/
theorem find?_eraseDups (p : TaskId → Bool) : ∀ listed : List TaskId,
    listed.eraseDups.find? p = listed.find? p
  | [] => rfl
  | c :: listed => by
    rw [List.eraseDups_cons]
    cases hc : p c with
    | true => rw [List.find?_cons_of_pos hc, List.find?_cons_of_pos hc]
    | false =>
      have hneg : ¬p c = true := by rw [hc]; exact Bool.false_ne_true
      have hkeep : (fun y => decide ((!y == c) = true ∧ p y = true)) = p := by
        funext y
        by_cases hy : y = c
        · simp [hy, hc]
        · simp [hy]
      rw [List.find?_cons_of_neg hneg, List.find?_cons_of_neg hneg, find?_eraseDups p,
        List.find?_filter, hkeep]
termination_by listed => listed.length
decreasing_by exact Nat.lt_succ_of_le (List.length_filter_le _ listed)

end

namespace Scheduler

/-- What the submission of a new task with the record `t` does to the other records: it takes the
blocked tasks downstream of it along if it has failed. -/
structure TakesAlong (s : Scheduler) (now : Instant) (t : Task) (s' : Scheduler) : Prop where
  /-- A task that is taken along names a dependency that has failed. -/
  inherited : ∀ x, t.status = .failed → s.status? x = some .blocked →
    Relation.TransGen s'.DependsOn x t.id → ∃ t₀ d, s.task? x = some t₀ ∧ d ∈ t₀.dependencies ∧
      s'.status? d = some .failed ∧ s'.task? x = some (t₀.fail now (dependencyFailed d))
  /-- No other record changes. -/
  kept : ∀ x, x ≠ t.id → ¬(t.status = .failed ∧ s.status? x = some .blocked ∧
    Relation.TransGen s'.DependsOn x t.id) → s'.task? x = s.task? x

/-- What the submission of a new task `id` that lists the dependencies `listed` comes to: the record
`t` that is answered, and the scheduler `s'` afterwards. -/
structure Admitted (s : Scheduler) (now : Instant) (id : TaskId) (role : RoleName)
    (description : String) (listed : List TaskId) (t : Task) (s' : Scheduler) : Prop where
  /-- The answer is the record that is kept. -/
  stored : s'.task? id = some t
  profile_eq : t.profile = ⟨id, role, description, t.dependencies, now⟩
  dependencies : FirstSeen listed t.dependencies
  pending_iff : t.status = .pending ↔ ∀ d ∈ listed, s.status? d = some .completed
  failed_iff : t.status = .failed ↔
    s.policy = .cascade ∧ ∃ d ∈ listed, s.status? d = some .failed
  blocked_iff : t.status = .blocked ↔ t.status ≠ .pending ∧ t.status ≠ .failed
  /-- The error of a record that has failed names the first of the listed tasks that has. -/
  error_iff : ∀ error, t.error = some error ↔ t.status = .failed ∧
    ∃ d earlier later, listed = earlier ++ d :: later ∧ s.status? d = some .failed ∧
      (∀ y ∈ earlier, s.status? y ≠ some .failed) ∧ error = dependencyFailed d
  fits : t.Fits
  queued_eq : s'.queued = s.queued ++ if t.status = .pending then [id] else []
  remaining : ∃ waiting, s'.remaining? id = some waiting ∧ waiting.Nodup ∧
    ∀ d, d ∈ waiting ↔ d ∈ listed ∧ s.status? d ≠ some .completed
  remaining_of_ne : ∀ x, x ≠ id → s'.remaining? x = s.remaining? x
  /-- The records are those that there were and that of the new task, as far as they are fixed. -/
  outline_eq : outline s'.tasks = outline s.tasks ++ [t.profile]
  dependents_eq : ∀ d,
    s'.index.dependentsOf d = s.index.dependentsOf d ++ if d ∈ listed then [id] else []
  inFlight_eq : s'.inFlight = s.inFlight
  policy_eq : s'.policy = s.policy
  others : s.TakesAlong now t s'

section
variable {s s' : Scheduler} {now : Instant} {id x d : TaskId} {role : RoleName}
  {description : String} {listed : List TaskId} {t : Task}

/-! ## The record of a new task -/

/-- The first failed dependency is the first of those that are listed. -/
theorem failedDependency?_eraseDups :
    s.failedDependency? listed.eraseDups = s.failedDependency? listed := by
  unfold failedDependency?
  split
  · rfl
  · exact find?_eraseDups _ listed

/-- The failed dependency that a submission finds is the first of those it lists. -/
theorem failedDependency?_eq_some_iff : s.failedDependency? listed = some d ↔
    s.policy = .cascade ∧ ∃ earlier later, listed = earlier ++ d :: later ∧
      s.status? d = some .failed ∧ ∀ y ∈ earlier, s.status? y ≠ some .failed := by
  unfold failedDependency?
  cases hp : s.policy with
  | block => simp
  | cascade =>
    rw [List.find?_eq_some_iff_append]
    simp [and_left_comm]

/-- No failed dependency is found where failures block, or if no listed task has failed. -/
theorem failedDependency?_eq_none_iff : s.failedDependency? listed = none ↔
    ¬(s.policy = .cascade ∧ ∃ d ∈ listed, s.status? d = some .failed) := by
  unfold failedDependency?
  cases hp : s.policy with
  | block => simp
  | cascade => simp

/-- A new task that does not fail is pending if all that it lists has completed. -/
theorem pending_fresh_iff : (s.fresh now id role description listed).status = .pending ↔
    ∀ d ∈ listed, s.status? d = some .completed := by
  have hready : (s.index.insert id listed.eraseDups s.isCompleted).1 = true ↔
      ∀ d ∈ listed, s.status? d = some .completed := by
    simp only [DependencyIndex.insert_fst, List.mem_eraseDups, isCompleted_iff]
  rw [← hready, fresh, Task.create]
  split
  · next hr => simp [hr]
  · next hr => simp [hr]

/-! ## The other tasks -/

/-- What is fixed about the tasks there were stays when one is submitted. -/
theorem Accepted.profile?_of_ne (h : Accepted s now id role description listed t s') (hx : x ≠ id) :
    s'.profile? x = s.profile? x := by
  have hid : t.profile.id ≠ x := by
    rw [h.profile_eq]
    exact hx.symm
  rw [profile?_eq_find?, profile?_eq_find?, h.outline_eq, List.find?_append,
    List.find?_cons_of_neg (by simpa using hid), List.find?_nil, Option.or_none]

/-- A new task that fails takes the blocked tasks downstream of it along. -/
theorem Cascaded.takesAlong {ids : List TaskId} (h : s.Coherent) (hnew : s.has id = false)
    (hc : Cascaded (s.entered (s.doomed now id role description listed d)) now id s' ids)
    (hclosed : ∀ d, s'.Closes d) :
    s.TakesAlong now (s.doomed now id role description listed d) s' := by
  have hid : (s.entered (s.doomed now id role description listed d)).status? id = some .failed :=
    failed_entered_doomed hnew
  have hcoh : (s.entered (s.doomed now id role description listed d)).Coherent :=
    h.entered_doomed hnew
  have hsame : ∀ y, y ≠ id → (s.entered (s.doomed now id role description listed d)).task? y =
      s.task? y := fun y hy => (task?_entered hnew).trans (if_neg hy)
  have hmem : ∀ y, y ≠ id → (y ∈ ids ↔
      s.status? y = some .blocked ∧ Relation.TransGen s'.DependsOn y id) := fun y hy => by
    rw [hc.mem_iff hcoh hid hclosed, Scheduler.status?, hsame y hy, ← Scheduler.status?,
      dependsOn_congr hc.outline_eq]
  refine ⟨fun y _ hb hy => ?_, fun y hy hnot => ?_⟩
  · have hne : y ≠ id := fun he => by
      rw [he, status?_of_not_has hnew] at hb
      cases hb
    obtain ⟨t₀, d, ht₀, hcause⟩ := hc.exists_cause hcoh hid ((hmem y hne).2 ⟨hb, hy⟩)
    rw [hsame y hne] at ht₀
    exact ⟨t₀, d, ht₀, hcause⟩
  · have hout : y ∉ ids := fun hy' => hnot ⟨rfl, (hmem y hy).1 hy'⟩
    rw [hc.kept y hout, hsame y hy]

/-! ## Submissions -/

/-- The status and the error of a new task say how its dependencies stand. -/
theorem Enters.verdict (he : s.Enters now id role description listed t s') :
    (t.status = .pending ↔ ∀ d ∈ listed, s.status? d = some .completed) ∧
    (t.status = .failed ↔ s.policy = .cascade ∧ ∃ d ∈ listed, s.status? d = some .failed) ∧
    t.error = (s.failedDependency? listed).map dependencyFailed := by
  cases he with
  | fresh hnew hd =>
    rw [failedDependency?_eraseDups] at hd
    refine ⟨pending_fresh_iff, ⟨fun hf => absurd hf status_fresh.2, fun hf => ?_⟩, ?_⟩
    · exact absurd hf (failedDependency?_eq_none_iff.1 hd)
    · rw [hd]
      rfl
  | @doomed d s' ids hnew hd hc =>
    rw [failedDependency?_eraseDups] at hd
    obtain ⟨hp, hmem, hfd⟩ := failedDependency?_eq_some hd
    refine ⟨⟨nofun, fun hall => ?_⟩, ⟨fun _ => ⟨hp, d, hmem, hfd⟩, fun _ => rfl⟩, ?_⟩
    · rw [hall d hmem] at hfd
      cases hfd
    · rw [hd]
      rfl

/-- A new task is pending, blocked or failed. -/
theorem Enters.status_cases (he : s.Enters now id role description listed t s') :
    t.status = .pending ∨ t.status = .blocked ∨ t.status = .failed := by
  cases he with
  | fresh =>
    rcases admissible_fresh.cases with ⟨hst, -⟩ | ⟨hst, -⟩ | hst
    · exact .inl hst
    · exact .inr (.inl hst)
    · exact .inr (.inr hst)
  | doomed => exact .inr (.inr rfl)

/-- Only a new task that fails changes the records there were. -/
theorem Enters.takesAlong (he : s.Enters now id role description listed t s') (h : s.Followed) :
    s.TakesAlong now t s' := by
  have hcloses : s.policy = .cascade → ∀ d, s'.Closes d := fun hp d =>
    he.closes h.coherent hp (h.closed hp)
  cases he with
  | fresh hnew =>
    refine ⟨fun x hf => absurd hf status_fresh.2, fun x hx _ => ?_⟩
    exact (task?_entered hnew).trans (if_neg hx)
  | doomed hnew hd hc =>
    exact hc.takesAlong h.coherent hnew (hcloses (failedDependency?_eq_some hd).1)

/-- A submission that is accepted comes to what `Admitted` says. -/
theorem Enters.admitted (he : s.Enters now id role description listed t s') (h : s.Followed) :
    Admitted s now id role description listed t s' := by
  have hc := h.coherent
  have hacc := he.accepted hc
  have hc' := he.coherent hc
  have hid : t.id = id := congrArg Task.Profile.id hacc.profile_eq
  have hdeps : t.dependencies = listed.eraseDups :=
    congrArg Task.Profile.dependencies hacc.profile_eq
  have hprof : s'.profile? id = some t.profile := profile?_of_task? hacc.task?_eq
  obtain ⟨hpending, hfailed, herror⟩ := he.verdict
  refine ⟨hacc.task?_eq, ?_, hdeps ▸ firstSeen_eraseDups listed, hpending, hfailed, ?_,
    fun error => ?_, hacc.fits, hid ▸ he.queued_eq hc, ?_, fun x hx => ?_, hacc.outline_eq,
    fun d => ?_, hacc.inFlight_eq, he.policy_eq, he.takesAlong h⟩
  · rw [hdeps]
    exact hacc.profile_eq
  · rcases he.status_cases with hst | hst | hst <;> simp [hst]
  · rw [herror, hfailed, Option.map_eq_some_iff]
    constructor
    · rintro ⟨d, hd, rfl⟩
      obtain ⟨hp, earlier, later, heq, hf, hbefore⟩ := failedDependency?_eq_some_iff.1 hd
      have hmem : d ∈ listed := heq ▸ List.mem_append_right _ List.mem_cons_self
      exact ⟨⟨hp, d, hmem, hf⟩, d, earlier, later, heq, hf, hbefore, rfl⟩
    · rintro ⟨⟨hp, -⟩, d, earlier, later, heq, hf, hbefore, rfl⟩
      exact ⟨d, failedDependency?_eq_some_iff.2 ⟨hp, earlier, later, heq, hf, hbefore⟩, rfl⟩
  · refine ⟨_, hc'.remaining?_eq hprof, ?_, fun d => ?_⟩
    · exact nodup_sortedStrings ((hc'.deps_nodup _ (id_of_profile? hprof).1).filter _)
    · rw [mem_sortedStrings, List.mem_filter, Task.profile_dependencies, hdeps,
        List.mem_eraseDups, hacc.isCompleted_eq, Bool.not_eq_true', ← Bool.not_eq_true,
        isCompleted_iff]
  · rw [remaining?, hc'.remaining, hacc.profile?_of_ne hx, remaining?, hc.remaining]
    simp only [hacc.isCompleted_eq]
  · rw [hc'.dependents, hacc.outline_eq, List.filter_append, List.map_append, ← hc.dependents]
    by_cases hd : d ∈ listed
    · simp [hd, hdeps, hid]
    · simp [hd, hdeps]

end

end Scheduler

/-- Whatever is asked of a scheduler without tasks, and whatever is submitted then, with whatever
dependencies: a taken name is refused without any change, and a new task is entered as `Admitted`
says. -/
theorem performAll_submits (policy : FailurePolicy) (ops : List Operation) (now : Instant)
    (id : TaskId) (role : RoleName) (description : String) (listed : List TaskId) :
    (((Scheduler.new policy).performAll ops).has id = true →
      ((Scheduler.new policy).performAll ops).submit now id role description listed =
          .error (.duplicateTask id) ∧
        ((Scheduler.new policy).performAll ops).perform (.submit now id role description listed) =
          (Scheduler.new policy).performAll ops) ∧
    (((Scheduler.new policy).performAll ops).has id = false → ∃ t s',
      ((Scheduler.new policy).performAll ops).submit now id role description listed =
          .ok (t, s') ∧
        ((Scheduler.new policy).performAll ops).perform (.submit now id role description listed) =
          s' ∧
        Admitted ((Scheduler.new policy).performAll ops) now id role description listed t s') := by
  have h := (Followed.new policy).performAll ops
  generalize (Scheduler.new policy).performAll ops = s at h ⊢
  refine ⟨fun htaken => ?_, fun hnew => ?_⟩
  · have hs : s.submit now id role description listed = .error (.duplicateTask id) :=
      submit_of_has htaken
    exact ⟨hs, by simp only [Scheduler.perform, hs]⟩
  · obtain ⟨⟨t, s'⟩, hs⟩ := exists_submit_eq_ok hnew now role description listed
    exact ⟨t, s', hs, by simp only [Scheduler.perform, hs], (enters_of_submit hs).admitted h⟩

/-- A run after which one task has failed and another completed, and two wait for a task `n` that is
not there yet. -/
def expectantRun : List Operation :=
  [.submit ⟨0⟩ "f" "r" "" [], .submit ⟨0⟩ "g" "r" "" [], .submit ⟨0⟩ "x" "r" "" ["n", "g"],
    .submit ⟨0⟩ "y" "r" "" ["x", "n"], .dispatch ⟨1⟩ none, .complete ⟨2⟩ "f" (.failure "no"),
    .complete ⟨2⟩ "g" (.success .null)]

/-- After `expectantRun`, the name `f` is refused, and `n` is entered although it lists itself, a
task that waits for it, one that nobody knows and, twice, one that has failed. -/
theorem submits_expectantRun :
    (((Scheduler.new .cascade).performAll expectantRun).has "f" = true ∧
      ((Scheduler.new .cascade).performAll expectantRun).submit ⟨3⟩ "f" "r" "" ["g"] =
        .error (.duplicateTask "f")) ∧
    ((Scheduler.new .cascade).performAll expectantRun).has "n" = false ∧
      ∃ t s', Admitted ((Scheduler.new .cascade).performAll expectantRun) ⟨3⟩ "n" "r" ""
        ["g", "n", "y", "u", "f", "f", "g"] t s' := by
  have hnames : ((Scheduler.new .cascade).performAll expectantRun).tasks.map (·.id) =
      ["f", "g", "x", "y"] := by
    rw [(Coherent.new .cascade).map_id_performAll]
    decide
  have hf : ((Scheduler.new .cascade).performAll expectantRun).has "f" = true := by
    rw [has_iff, hnames]
    decide
  have hn : ((Scheduler.new .cascade).performAll expectantRun).has "n" = false := by
    rw [← Bool.not_eq_true, has_iff, hnames]
    decide
  refine ⟨⟨hf, ?_⟩, hn, ?_⟩
  · exact ((performAll_submits .cascade expectantRun ⟨3⟩ "f" "r" "" ["g"]).1 hf).1
  · obtain ⟨t, s', -, -, hadmitted⟩ := (performAll_submits .cascade expectantRun ⟨3⟩ "n" "r" ""
      ["g", "n", "y", "u", "f", "f", "g"]).2 hn
    exact ⟨t, s', hadmitted⟩

end Taskweave
