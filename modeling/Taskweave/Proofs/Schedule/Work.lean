import Mathlib.Algebra.GroupWithZero.Nat
import Mathlib.Algebra.Order.BigOperators.Group.List
import Mathlib.Data.List.Perm.Subperm
import Taskweave.Proofs.Schedule.Lifecycle

/-!
# A scheduler does not stall

`Scheduler.work` counts what is left to do: two steps for a task that waits, one for a task that
runs. No operation but a submission adds to it, every dispatch that hands something out and every
outcome for a task in flight takes something away (`Scheduler.Coherent.progresses`), and one of the
two is possible until the scheduler is at rest. The tasks that have not ended (`Scheduler.unended`)
become fewer with every outcome, and no more by anything but a submission.
-/

namespace Taskweave

/-- The steps that are left for a task: it is started, and it ends. -/
def Status.stepsLeft : Status → Nat
  | .pending | .blocked => 2
  | .inProgress => 1
  | .completed | .failed => 0

/-- No move adds a step. -/
theorem Task.Move.stepsLeft_le {policy : FailurePolicy} {t t' : Task} (h : Move policy t t') :
    t'.status.stepsLeft ≤ t.status.stepsLeft := by
  cases h with
  | stay => exact Nat.le_refl _
  | ready hs =>
    rw [hs]
    exact Nat.le_refl _
  | start now hs =>
    rw [hs]
    exact Nat.le_succ 1
  | complete | fail | follow => exact Nat.zero_le _

/-- A running task that does not run any more has ended. -/
theorem Task.Move.isTerminal_of_ne {policy : FailurePolicy} {t t' : Task} (h : Move policy t t')
    (ht : t.status = .inProgress) (ht' : t'.status ≠ .inProgress) : t'.isTerminal = true := by
  cases h with
  | stay => exact absurd ht ht'
  | ready hs | start _ hs | follow _ _ _ hs =>
    rw [hs] at ht
    cases ht
  | complete | fail => rfl

/-- A task that has ended has no step left. -/
theorem Task.stepsLeft_of_isTerminal {t : Task} (h : t.isTerminal = true) :
    t.status.stepsLeft = 0 := by
  rcases isTerminal_iff.1 h with hst | hst <;> rw [hst] <;> rfl

namespace Scheduler

/-- The steps that are left for all tasks. -/
def work (s : Scheduler) : Nat := (s.tasks.map (·.status.stepsLeft)).sum

/-- The tasks that have not ended. -/
def unended (s : Scheduler) : List TaskId := (s.tasks.filter fun t => !t.isTerminal).map (·.id)

/-- What a scheduler can do to get to rest, and that it gets nearer. -/
structure Progressing (s : Scheduler) : Prop where
  /-- Unless it is at rest, every dispatch with a free slot hands something out, or something is in
  flight. -/
  active : s.isQuiescent = false →
    (∀ now limit, limit ≠ some 0 → (s.dispatch now limit).1 ≠ []) ∨ s.inFlight ≠ []
  dispatch : ∀ now limit, (s.dispatch now limit).1 ≠ [] → (s.dispatch now limit).2.work < s.work
  complete : ∀ now id outcome, id ∈ s.inFlight → (s.complete now id outcome).2.work < s.work

section
variable {s s' : Scheduler} {policy : FailurePolicy} {now : Instant} {limit : Option Nat}
  {id x : TaskId} {outcome : Outcome}

/-- Work is counted by the names of the tasks. -/
theorem Coherent.work_eq (h : s.Coherent) :
    s.work = ((outline s.tasks).map fun p => (s.status? p.id).elim 0 Status.stepsLeft).sum := by
  rw [work, outline, List.map_map]
  refine congrArg List.sum (List.map_congr_left fun t ht => ?_)
  have hrec : s.task? t.id = some t := record?_of_mem h.distinct ht
  rw [Function.comp_apply, Task.profile_id, status?_of_task? hrec]
  rfl

/-- When records only move, and one of them loses a step, there is less to do. -/
theorem Coherent.work_lt {t t' : Task} (h : s.Coherent) (h' : s'.Coherent)
    (hout : outline s'.tasks = outline s.tasks)
    (hmove : ∀ {x t}, s.task? x = some t → ∃ t', s'.task? x = some t' ∧ Task.Move policy t t')
    (ht : s.task? x = some t) (ht' : s'.task? x = some t')
    (hlt : t'.status.stepsLeft < t.status.stepsLeft) : s'.work < s.work := by
  rw [h.work_eq, h'.work_eq, hout]
  refine List.sum_lt_sum _ _ (fun p hp => ?_) ⟨t.profile, ?_, ?_⟩
  · obtain ⟨u, hu, -⟩ := Option.map_eq_some_iff.1 (h.profile?_of_mem hp)
    obtain ⟨u', hu', hm⟩ := hmove hu
    rw [status?_of_task? hu, status?_of_task? hu']
    exact hm.stepsLeft_le
  · exact List.mem_map_of_mem (mem_of_record? ht).1
  · have hid : t.profile.id = x := (mem_of_record? ht).2
    rw [hid, status?_of_task? ht, status?_of_task? ht']
    exact hlt

/-- A dispatch that hands something out gets work done. -/
theorem Coherent.work_dispatch_lt (h : s.Coherent) (hne : (s.dispatch now limit).1 ≠ []) :
    (s.dispatch now limit).2.work < s.work := by
  obtain ⟨a, ha⟩ := List.exists_mem_of_ne_nil _ hne
  obtain ⟨x, hx, -⟩ := h.mem_dispatch.1 ha
  obtain ⟨t, ht, hst⟩ := exists_task?_of_status? (h.startable.2 x hx).1
  obtain ⟨t', ht', -⟩ : ∃ t', (s.dispatch now limit).2.task? x = some t' ∧
      Task.Move s.policy t t' := h.move_dispatch ht
  have hst' : t'.status = .inProgress :=
    status_of_status? ht' (h.status?_dispatch.trans (if_pos hx))
  refine h.work_lt (h.dispatched now limit) h.outline_dispatch (fun ht => h.move_dispatch ht) ht ht'
    ?_
  rw [hst, hst']
  decide

/-- A task in flight has ended once its outcome is noted. -/
theorem Coherent.exists_ended (h : s.Coherent) (hfl : id ∈ s.inFlight) :
    ∃ t', (s.complete now id outcome).2.task? id = some t' ∧ t'.isTerminal = true := by
  have hends := h.ends now id outcome
  obtain ⟨t, ht, hst⟩ := exists_task?_of_status? ((h.mem_inFlight id).1 hfl)
  obtain ⟨t', ht', hm⟩ := hends.move h ht
  refine ⟨t', ht', hm.isTerminal_of_ne hst fun he => ?_⟩
  have hmem : id ∈ (s.complete now id outcome).2.inFlight := by
    rw [(hends.coherent h).mem_inFlight, status?_of_task? ht', he]
  rw [hends.inFlight_eq] at hmem
  exact absurd (List.mem_filter.1 hmem).2 (by simp)

/-- The outcome of a task in flight gets work done. -/
theorem Coherent.work_complete_lt (h : s.Coherent) (hfl : id ∈ s.inFlight) :
    (s.complete now id outcome).2.work < s.work := by
  have hends := h.ends now id outcome
  obtain ⟨t, ht, hst⟩ := exists_task?_of_status? ((h.mem_inFlight id).1 hfl)
  obtain ⟨t', ht', hended⟩ := h.exists_ended hfl
  refine h.work_lt (hends.coherent h) hends.outline_eq (fun ht => hends.move h ht) ht ht' ?_
  rw [Task.stepsLeft_of_isTerminal hended, hst]
  decide

/-- A scheduler whose parts agree does not stall. -/
theorem Coherent.progresses (h : s.Coherent) : s.Progressing where
  active hq := by
    by_cases hfl : s.inFlight = []
    · refine .inl fun now limit hl => h.dispatch_ne_nil (fun hnil => ?_) hl
      rw [isQuiescent_eq_true.2 ⟨hnil, hfl⟩] at hq
      cases hq
    · exact .inr hfl
  dispatch _ _ hne := h.work_dispatch_lt hne
  complete _ _ _ hfl := h.work_complete_lt hfl

/-! ## Tasks that have not ended -/

/-- A task has not ended if its record says so. -/
theorem Coherent.mem_unended (h : s.Coherent) :
    x ∈ s.unended ↔ ∃ t, s.task? x = some t ∧ t.isTerminal = false := by
  rw [unended, List.mem_map]
  constructor
  · rintro ⟨t, ht, rfl⟩
    obtain ⟨hmem, hopen⟩ := List.mem_filter.1 ht
    exact ⟨t, record?_of_mem h.distinct hmem, by simpa using hopen⟩
  · rintro ⟨t, ht, hopen⟩
    obtain ⟨hmem, hid⟩ := mem_of_record? ht
    exact ⟨t, List.mem_filter.2 ⟨hmem, by simpa using hopen⟩, hid⟩

theorem Coherent.nodup_unended (h : s.Coherent) : s.unended.Nodup :=
  h.distinct.sublist (List.filter_sublist.map _)

theorem length_unended_le : s.unended.length ≤ s.tasks.length := by
  rw [unended, List.length_map]
  exact List.length_filter_le _ _

/-- What is in flight has not ended. -/
theorem Coherent.inFlight_subset_unended (h : s.Coherent) : s.inFlight ⊆ s.unended := fun x hx => by
  obtain ⟨t, ht, hst⟩ := exists_task?_of_status? ((h.mem_inFlight x).1 hx)
  exact h.mem_unended.2 ⟨t, ht, by rw [Task.isTerminal, hst]; rfl⟩

theorem Coherent.length_inFlight_le (h : s.Coherent) : s.inFlight.length ≤ s.unended.length :=
  (h.inFlight_nodup.subperm h.inFlight_subset_unended).length_le

/-- When records only move, no task that has ended has not ended afterwards. -/
theorem Coherent.unended_subset (h : s.Coherent) (h' : s'.Coherent)
    (hout : outline s'.tasks = outline s.tasks)
    (hmove : ∀ {x t}, s.task? x = some t → ∃ t', s'.task? x = some t' ∧ Task.Move policy t t') :
    s'.unended ⊆ s.unended := fun x hx => by
  obtain ⟨t', ht', hopen⟩ := h'.mem_unended.1 hx
  have hhas : s.has x = true := by
    rw [has_iff, ← map_id_outline, ← hout, map_id_outline, ← has_iff]
    exact has_of_status? (status?_of_task? ht')
  obtain ⟨t, ht⟩ := Option.isSome_iff_exists.1 hhas
  obtain ⟨u, hu, hm⟩ := hmove ht
  obtain rfl := Option.some.inj (ht'.symm.trans hu)
  refine h.mem_unended.2 ⟨t, ht, Bool.eq_false_iff.2 fun hend => ?_⟩
  rw [hm.eq_of_isTerminal hend, hend] at hopen
  cases hopen

/-- A dispatch leaves no more tasks to end. -/
theorem Coherent.length_unended_dispatch_le (h : s.Coherent) :
    (s.dispatch now limit).2.unended.length ≤ s.unended.length :=
  ((h.dispatched now limit).nodup_unended.subperm
    (h.unended_subset (h.dispatched now limit) h.outline_dispatch fun ht =>
      h.move_dispatch ht)).length_le

/-- The outcome of a task in flight leaves fewer tasks to end. -/
theorem Coherent.length_unended_complete_lt (h : s.Coherent) (hfl : id ∈ s.inFlight) :
    (s.complete now id outcome).2.unended.length < s.unended.length := by
  have hends := h.ends now id outcome
  have h' := hends.coherent h
  have hnot : id ∉ (s.complete now id outcome).2.unended := fun hmem => by
    obtain ⟨t, ht, hopen⟩ := h'.mem_unended.1 hmem
    obtain ⟨t', ht', hended⟩ := h.exists_ended  hfl
    obtain rfl := Option.some.inj (ht'.symm.trans ht)
    rw [hended] at hopen
    cases hopen
  have hid : id ∈ s.unended := h.inFlight_subset_unended hfl
  have hsub : id :: (s.complete now id outcome).2.unended ⊆ s.unended :=
    List.cons_subset.2 ⟨hid, h.unended_subset h' hends.outline_eq fun ht => hends.move h ht⟩
  exact ((List.nodup_cons.2 ⟨hnot, h'.nodup_unended⟩).subperm hsub).length_le

end

end Scheduler

end Taskweave
