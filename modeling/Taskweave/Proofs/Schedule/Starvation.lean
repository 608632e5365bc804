import Mathlib.Data.Finset.Card
import Mathlib.Data.Nat.Find
import Mathlib.Logic.Relation
import Taskweave.Proofs.Schedule.Consistency
import Taskweave.Proofs.Schedule.Failures
import Taskweave.Proofs.Schedule.Plan

/-!
# Why tasks stay blocked

A scheduler may come to rest with tasks that are blocked for good. Whoever goes from such a task to
one of the dependencies it waits for, and on from there, finds out why: the walk comes to a task
that was never submitted, to one that has failed, or back to where it has been
(`StarvationExplained`). The scheduler does not look for any of these. A blocked task always waits
for something (`Scheduler.Coherent.exists_waitsFor`), so a walk ends at a task that is not blocked,
or it goes on until it has seen more names than there are tasks (`Scheduler.IsWalk.exists_end`).
-/

namespace Taskweave

open Occurrence Scheduler

namespace Occurrence

/-- A submission of `x` was accepted. -/
def Submitted (history : List Occurrence) (x : TaskId) : Prop :=
  ∃ listed t, .submitted listed t ∈ history ∧ t.id = x

/-- The submission of `x` listed `d`. -/
def Listed (history : List Occurrence) (x d : TaskId) : Prop :=
  ∃ listed t, .submitted listed t ∈ history ∧ t.id = x ∧ d ∈ listed

end Occurrence

namespace Scheduler

/-- Among the dependencies that are left of `x` is `d`. -/
def WaitsFor (s : Scheduler) (x d : TaskId) : Prop :=
  ∃ waiting, s.remaining? x = some waiting ∧ d ∈ waiting

/-- A walk that goes from every blocked task to one of those it waits for. -/
def IsWalk (s : Scheduler) (walk : Nat → TaskId) : Prop :=
  ∀ n, s.status? (walk n) = some .blocked → s.WaitsFor (walk n) (walk (n + 1))

section
variable {s : Scheduler} {x d : TaskId} {walk : Nat → TaskId}

/-! ## Walks -/

/-- A task waits for the dependencies that have not completed. -/
theorem Coherent.waitsFor_iff (h : s.Coherent) :
    s.WaitsFor x d ↔ ∃ p, s.profile? x = some p ∧ d ∈ p.dependencies ∧ s.isCompleted d = false := by
  constructor
  · rintro ⟨waiting, hwaiting, hd⟩
    cases hp : s.profile? x with
    | none =>
      rw [remaining?, h.remaining, hp] at hwaiting
      cases hwaiting
    | some p =>
      rw [h.remaining?_eq hp] at hwaiting
      obtain rfl := Option.some.inj hwaiting
      rw [mem_sortedStrings, List.mem_filter, Bool.not_eq_true'] at hd
      exact ⟨p, rfl, hd⟩
  · rintro ⟨p, hp, hd⟩
    refine ⟨_, h.remaining?_eq hp, ?_⟩
    rw [mem_sortedStrings, List.mem_filter, Bool.not_eq_true']
    exact hd

/-- A blocked task waits for something. -/
theorem Coherent.exists_waitsFor (h : s.Coherent) (hx : s.status? x = some .blocked) :
    ∃ d, s.WaitsFor x d := by
  obtain ⟨p, hp⟩ := exists_profile? hx
  obtain ⟨d, hd, hopen⟩ := h.blocked hp hx
  exact ⟨d, h.waitsFor_iff.2 ⟨p, hp, hd, hopen⟩⟩

/-- There is a walk from every task. -/
theorem Coherent.exists_walk (h : s.Coherent) (x : TaskId) :
    ∃ walk, walk 0 = x ∧ s.IsWalk walk := by
  have hnext : ∀ y, ∃ d, s.status? y = some .blocked → s.WaitsFor y d := by
    intro y
    by_cases hy : s.status? y = some .blocked
    · obtain ⟨d, hd⟩ := h.exists_waitsFor hy
      exact ⟨d, fun _ => hd⟩
    · exact ⟨y, fun hb => absurd hb hy⟩
  choose next hnext using hnext
  refine ⟨fun n => next^[n] x, rfl, fun n hn => ?_⟩
  dsimp only at hn ⊢
  rw [Function.iterate_succ_apply']
  exact hnext _ hn

/-- Among more names than there are tasks, one is that of no blocked task, or comes twice. -/
theorem exists_not_blocked_or_eq (walk : Nat → TaskId) :
    ∃ n ≤ s.tasks.length, s.status? (walk n) ≠ some .blocked ∨ ∃ m < n, walk m = walk n := by
  by_contra hall
  push Not at hall
  have hcard : (s.tasks.map (·.id)).toFinset.card < (Finset.range (s.tasks.length + 1)).card := by
    have := List.toFinset_card_le (s.tasks.map (·.id))
    rw [List.length_map] at this
    rw [Finset.card_range]
    omega
  have hmaps : ∀ n ∈ Finset.range (s.tasks.length + 1),
      walk n ∈ (s.tasks.map (·.id)).toFinset := by
    intro n hn
    rw [List.mem_toFinset, ← has_iff]
    exact has_of_status? (hall n (Nat.le_of_lt_succ (Finset.mem_range.1 hn))).1
  obtain ⟨i, hi, j, hj, hne, heq⟩ := Finset.exists_ne_map_eq_of_card_lt_of_maps_to hcard hmaps
  have hi := Nat.le_of_lt_succ (Finset.mem_range.1 hi)
  have hj := Nat.le_of_lt_succ (Finset.mem_range.1 hj)
  rcases Nat.lt_or_gt_of_ne hne with hlt | hlt
  · exact (hall j hj).2 i hlt heq
  · exact (hall i hi).2 j hlt heq.symm

/-- A walk from a blocked task comes to one that is not blocked, or back to where it has been, in no
more steps than there are tasks. -/
theorem IsWalk.exists_end (hw : s.IsWalk walk) (h0 : s.status? (walk 0) = some .blocked) :
    ∃ n < s.tasks.length, (∀ m ≤ n, s.status? (walk m) = some .blocked) ∧
      (∀ i j, i < j → j ≤ n → walk i ≠ walk j) ∧ s.WaitsFor (walk n) (walk (n + 1)) ∧
      (s.status? (walk (n + 1)) ≠ some .blocked ∨ ∃ m ≤ n, walk m = walk (n + 1)) := by
  classical
  have hex := exists_not_blocked_or_eq (s := s) walk
  obtain ⟨hle, hend⟩ := Nat.find_spec hex
  have hmin : ∀ m < Nat.find hex,
      s.status? (walk m) = some .blocked ∧ ∀ i < m, walk i ≠ walk m := by
    intro m hm
    have hnot := Nat.find_min hex hm
    push Not at hnot
    exact hnot (Nat.le_trans (Nat.le_of_lt hm) hle)
  cases hn : Nat.find hex with
  | zero =>
    rw [hn] at hend
    rcases hend with hnot | ⟨m, hm, -⟩
    · exact absurd h0 hnot
    · cases hm
  | succ n =>
    rw [hn] at hle hend hmin
    refine ⟨n, hle, fun m hm => (hmin m (Nat.lt_succ_of_le hm)).1, fun i j hij hj =>
      (hmin j (Nat.lt_succ_of_le hj)).2 i hij, hw n (hmin n (Nat.lt_succ_self n)).1, ?_⟩
    rcases hend with hnot | ⟨m, hm, heq⟩
    · exact .inl hnot
    · exact .inr ⟨m, Nat.le_of_lt_succ hm, heq⟩

/-! ## Rest -/

/-- At rest, a blocked task waits for a blocked one, for one that was not submitted, or, where
failures block, for one that has failed. -/
theorem Followed.cases_of_waitsFor (h : s.Followed) (hq : s.isQuiescent = true)
    (hx : s.status? x = some .blocked) (hd : s.WaitsFor x d) :
    s.status? d = some .blocked ∨ s.has d = false ∨
      s.policy = .block ∧ s.status? d = some .failed := by
  obtain ⟨p, hp, hmem, hopen⟩ := h.coherent.waitsFor_iff.1 hd
  cases hhas : s.has d with
  | false => exact .inr (.inl rfl)
  | true =>
    rcases h.coherent.status?_of_isQuiescent hq hhas with hst | hst | hst
    · rw [isCompleted_iff.2 hst] at hopen
      cases hopen
    · cases hpolicy : s.policy with
      | block => exact .inr (.inr ⟨rfl, hst⟩)
      | cascade =>
        have hfailed := h.closed hpolicy d x p hp hmem hst
        rw [hx] at hfailed
        cases hfailed
    · exact .inl hst

/-- At rest, operations that submit nothing change nothing. -/
theorem performAll_of_isQuiescent {ops : List Operation} (hq : s.isQuiescent = true)
    (hops : Plan.submissions ops = []) : s.performAll ops = s := by
  obtain ⟨hqueue, hflight⟩ := isQuiescent_eq_true.1 hq
  induction ops with
  | nil => rfl
  | cons op ops ih =>
    have hstep : s.perform op = s := by
      cases op with
      | submit now id role description deps => cases hops
      | dispatch now limit =>
        have hnone : s.queue.available limit = 0 := by
          rw [ReadyQueue.available, ReadyQueue.size, ← queued, hqueue]
          exact Nat.min_zero _
        rw [Scheduler.perform, dispatch_of_available_eq_zero hnone]
      | complete now id outcome =>
        have hnot : id ∉ s.inFlight := by
          rw [hflight]
          exact List.not_mem_nil
        rw [Scheduler.perform, complete_of_not_mem hnot]
    have hrest : Plan.submissions ops = [] := by
      cases op with
      | submit now id role description deps => cases hops
      | dispatch | complete => exact hops
    show (s.perform op).performAll ops = s
    rw [hstep]
    exact ih hrest

end

end Scheduler

section
variable {history : List Occurrence} {s : Scheduler} {x d : TaskId}

/-- The dependencies of a task were listed by its submission. -/
theorem Recorded.listed_of_waitsFor (h : Recorded history s) (hd : s.WaitsFor x d) :
    Listed history x d := by
  obtain ⟨p, hp, hmem, -⟩ := h.coherent.waitsFor_iff.1 hd
  obtain ⟨listed, t, ht, rfl⟩ := h.known x p hp
  have hid : t.id = x := (id_of_profile? hp).2
  rw [Task.profile_dependencies, (h.submitted listed t ht).2, List.mem_eraseDups] at hmem
  exact ⟨listed, t, ht, hid, hmem⟩

end

/-- What can be said of a scheduler at rest. -/
structure StarvationExplained (policy : FailurePolicy) (history : List Occurrence) (s : Scheduler) :
    Prop where
  ended : ∀ x, Submitted history x →
    s.status? x = some .completed ∨ s.status? x = some .failed ∨ s.status? x = some .blocked
  /-- There is a walk from every blocked task. -/
  walks : ∀ x, s.status? x = some .blocked → ∃ walk, walk 0 = x ∧ s.IsWalk walk
  /-- Every walk passes different blocked tasks, and then comes to one that was not submitted, to
  one that has failed where failures block, or back to where it has been. -/
  explained : ∀ walk, s.IsWalk walk → s.status? (walk 0) = some .blocked →
    ∃ n < s.tasks.length, (∀ m ≤ n, s.status? (walk m) = some .blocked) ∧
      (∀ i j, i < j → j ≤ n → walk i ≠ walk j) ∧
      (¬Submitted history (walk (n + 1)) ∨
        policy = .block ∧ s.status? (walk (n + 1)) = some .failed ∨
        ∃ m ≤ n, walk m = walk (n + 1))
  /-- If all dependencies were submitted, no task depends on itself, and none has failed, all have
  completed. -/
  completes : (∀ x d, Listed history x d → Submitted history d) →
    (∀ x, ¬Relation.TransGen (Listed history) x x) → (∀ x, s.status? x ≠ some .failed) →
    ∀ x, Submitted history x → s.status? x = some .completed
  still : ∀ more, Plan.submissions more = [] → s.performAll more = s

section
variable {history : List Occurrence} {s : Scheduler} {walk : Nat → TaskId}

/-- A walk from a blocked task at rest finds out why it is blocked. -/
theorem Recorded.explained (h : Recorded history s) (hf : s.Followed) (hq : s.isQuiescent = true)
    (hw : s.IsWalk walk) (h0 : s.status? (walk 0) = some .blocked) :
    ∃ n < s.tasks.length, (∀ m ≤ n, s.status? (walk m) = some .blocked) ∧
      (∀ i j, i < j → j ≤ n → walk i ≠ walk j) ∧
      (¬Submitted history (walk (n + 1)) ∨
        s.policy = .block ∧ s.status? (walk (n + 1)) = some .failed ∨
        ∃ m ≤ n, walk m = walk (n + 1)) := by
  obtain ⟨n, hn, hblocked, hdistinct, hwaits, hend⟩ := hw.exists_end h0
  refine ⟨n, hn, hblocked, hdistinct, ?_⟩
  rcases hend with hnot | hback
  · rcases hf.cases_of_waitsFor hq (hblocked n (Nat.le_refl n)) hwaits with hb | hnew | hfailed
    · exact absurd hb hnot
    · refine .inl fun hsub => ?_
      rw [h.has_iff.2 hsub] at hnew
      cases hnew
    · exact .inr (.inl hfailed)
  · exact .inr (.inr hback)

/-- A walk that comes back to where it has been shows that a task depends on itself. -/
theorem Recorded.transGen_of_isWalk (h : Recorded history s) (hw : s.IsWalk walk) {m n : Nat}
    (hblocked : ∀ k ≤ n, s.status? (walk k) = some .blocked) (hm : m ≤ n) :
    Relation.TransGen (Listed history) (walk m) (walk (n + 1)) := by
  have hlast : Listed history (walk n) (walk (n + 1)) :=
    h.listed_of_waitsFor (hw n (hblocked n (Nat.le_refl n)))
  induction n, hm using Nat.le_induction with
  | base => exact .single hlast
  | succ n hm ih =>
    have hbefore : ∀ k ≤ n, s.status? (walk k) = some .blocked := fun k hk =>
      hblocked k (Nat.le_succ_of_le hk)
    exact (ih hbefore (h.listed_of_waitsFor (hw n (hbefore n (Nat.le_refl n))))).tail hlast

/-- At rest, with nothing that could keep a task blocked, every task has completed. -/
theorem Recorded.completed_of_acyclic {x : TaskId} (h : Recorded history s) (hf : s.Followed)
    (hq : s.isQuiescent = true) (hclosed : ∀ x d, Listed history x d → Submitted history d)
    (hacyclic : ∀ x, ¬Relation.TransGen (Listed history) x x)
    (hnone : ∀ x, s.status? x ≠ some .failed) (hx : Submitted history x) :
    s.status? x = some .completed := by
  rcases h.coherent.status?_of_isQuiescent hq (h.has_iff.2 hx) with hst | hst | hst
  · exact hst
  · exact absurd hst (hnone x)
  · obtain ⟨walk, rfl, hw⟩ := h.coherent.exists_walk x
    obtain ⟨n, -, hblocked, -, hend⟩ := h.explained hf hq hw hst
    rcases hend with hnot | ⟨-, hfailed⟩ | ⟨m, hm, heq⟩
    · have hlisted := h.listed_of_waitsFor (hw n (hblocked n (Nat.le_refl n)))
      exact absurd (hclosed _ _ hlisted) hnot
    · exact absurd hfailed (hnone _)
    · have hcycle := h.transGen_of_isWalk hw hblocked hm
      rw [heq] at hcycle
      exact absurd hcycle (hacyclic _)

end

/-- Whatever is asked of a scheduler without tasks: if it comes to rest, the tasks that stay blocked
are explained. -/
theorem performAll_starvationExplained (policy : FailurePolicy) (ops : List Operation)
    (hq : ((Scheduler.new policy).performAll ops).isQuiescent = true) :
    StarvationExplained policy ((Scheduler.new policy).history ops)
      ((Scheduler.new policy).performAll ops) := by
  have hrec := recorded_history policy ops
  have hfollowed := (Followed.new policy).performAll ops
  refine ⟨fun x hx => ?_, fun x _ => hrec.coherent.exists_walk x, fun walk hw h0 => ?_,
    fun hclosed hacyclic hnone x hx => ?_, fun more hmore => performAll_of_isQuiescent hq hmore⟩
  · exact hrec.coherent.status?_of_isQuiescent hq (hrec.has_iff.2 hx)
  · have hexplained := hrec.explained hfollowed hq hw h0
    rw [policy_performAll] at hexplained
    exact hexplained
  · exact hrec.completed_of_acyclic hfollowed hq hclosed hacyclic hnone hx

/-- A run that comes to rest with a task whose dependency was never submitted, one whose dependency
has failed, and two that wait for each other. -/
theorem starvationExplained_blocked_run :
    ((Scheduler.new .block).performAll
        [.submit ⟨0⟩ "a" "r" "" ["ghost"], .submit ⟨0⟩ "b" "r" "" [], .submit ⟨0⟩ "c" "r" "" ["b"],
          .submit ⟨0⟩ "d" "r" "" ["e"], .submit ⟨0⟩ "e" "r" "" ["d"], .dispatch ⟨1⟩ none,
          .complete ⟨2⟩ "b" (.failure "no")]).isQuiescent = true ∧
      StarvationExplained .block
        ((Scheduler.new .block).history
          [.submit ⟨0⟩ "a" "r" "" ["ghost"], .submit ⟨0⟩ "b" "r" "" [],
            .submit ⟨0⟩ "c" "r" "" ["b"], .submit ⟨0⟩ "d" "r" "" ["e"],
            .submit ⟨0⟩ "e" "r" "" ["d"], .dispatch ⟨1⟩ none, .complete ⟨2⟩ "b" (.failure "no")])
        ((Scheduler.new .block).performAll
          [.submit ⟨0⟩ "a" "r" "" ["ghost"], .submit ⟨0⟩ "b" "r" "" [],
            .submit ⟨0⟩ "c" "r" "" ["b"], .submit ⟨0⟩ "d" "r" "" ["e"],
            .submit ⟨0⟩ "e" "r" "" ["d"], .dispatch ⟨1⟩ none,
            .complete ⟨2⟩ "b" (.failure "no")]) :=
  ⟨by decide, performAll_starvationExplained .block _ (by decide)⟩

end Taskweave
