import Taskweave.Proofs.Schedule.Settling

/-!
# Carrying out a plan

Operations that follow a plan can be continued until all its tasks are submitted and the scheduler
is at rest (`Plan.Tracks.exists_rest`, by induction on the work that is left), and then every task
is as the plan settles it, whatever the order of the operations was: `Plan.carriedOut_settles`.
-/

namespace Taskweave

open Scheduler

namespace Scheduler

section
variable {s : Scheduler} {now : Instant} {id x : TaskId} {role : RoleName} {description : String}
  {deps : List TaskId}

/-- No operation takes a task away. -/
theorem Coherent.has_perform (h : s.Coherent) (op : Operation) (hx : s.has x = true) :
    (s.perform op).has x = true := by
  obtain ⟨t, ht⟩ := Option.isSome_iff_exists.1 hx
  obtain ⟨t', ht', -⟩ := h.move_perform op ht
  exact Option.isSome_iff_exists.2 ⟨t', ht'⟩

/-- A task has a record after its submission, since only a name that is taken is refused. -/
theorem Coherent.has_submit (h : s.Coherent) :
    (s.perform (.submit now id role description deps)).has id = true := by
  cases hnew : s.has id with
  | true => exact h.has_perform _ hnew
  | false =>
    obtain ⟨r, hs⟩ := exists_submit_eq_ok hnew now role description deps
    simp only [Scheduler.perform, hs]
    exact Option.isSome_iff_exists.2 ⟨r.1, ((enters_of_submit hs).accepted h).task?_eq⟩

end

end Scheduler

/-- The operation that submits a task. -/
def Submission.operation (now : Instant) (spec : Submission) : Operation :=
  .submit now spec.id spec.role spec.description spec.dependencies

namespace Plan

section
variable {plan : Plan} {s : Scheduler} {now : Instant} {x : TaskId} {spec : Submission}
  {specs : List Submission} {ops : List Operation}

/-- No operations take a task away. -/
theorem has_performAll (h : s.Coherent) (hx : s.has x = true) :
    (s.performAll ops).has x = true := by
  induction ops generalizing s with
  | nil => exact hx
  | cons op ops ih => exact ih (h.perform op) (h.has_perform op hx)

/-- What operations submit has a record after them. -/
theorem has_of_mem_submissions (h : s.Coherent) (hspec : spec ∈ submissions ops) :
    (s.performAll ops).has spec.id = true := by
  induction ops generalizing s with
  | nil => cases hspec
  | cons op ops ih =>
    cases op with
    | submit now id role description deps =>
      rcases List.mem_cons.1 hspec with rfl | hspec
      · exact has_performAll (s := s.perform (.submit now id role description deps)) (h.perform _)
          h.has_submit
      · exact ih (h.perform _) hspec
    | dispatch now limit => exact ih (h.perform _) hspec
    | complete now id outcome => exact ih (h.perform _) hspec

/-- Submissions submit what they are made of. -/
@[simp] theorem submissions_operations : submissions (specs.map (·.operation now)) = specs := by
  induction specs with
  | nil => rfl
  | cons spec specs ih => exact congrArg (spec :: ·) ih

/-- Submissions of a plan fit it. -/
theorem follows_operations (h : ∀ spec ∈ specs, spec ∈ plan.specs) :
    plan.Follows s (specs.map (·.operation now)) := by
  induction specs generalizing s with
  | nil => trivial
  | cons spec specs ih =>
    exact ⟨h spec List.mem_cons_self, ih fun spec' h' => h spec' (List.mem_cons_of_mem spec h')⟩

/-- Without further submissions, a scheduler that tracks a plan can be brought to rest. -/
theorem Tracks.exists_rest (now : Instant) (h : plan.Tracks s) :
    ∃ ops, submissions ops = [] ∧ plan.Follows s ops ∧ (s.performAll ops).isQuiescent = true := by
  induction hn : s.work using Nat.strong_induction_on generalizing s with
  | _ n ih =>
    subst hn
    cases hq : s.isQuiescent with
    | true => exact ⟨[], rfl, trivial, hq⟩
    | false =>
      have hp := h.coherent.progresses
      rcases hp.active hq with hdispatch | hfl
      · have hlt := hp.dispatch now none (hdispatch now none nofun)
        have hallowed : plan.Allows s (.dispatch now none) := trivial
        obtain ⟨ops, hsub, hops, hrest⟩ := ih _ hlt (h.perform hallowed) rfl
        exact ⟨.dispatch now none :: ops, hsub, ⟨hallowed, hops⟩, hrest⟩
      · obtain ⟨id, hid⟩ := List.exists_mem_of_ne_nil _ hfl
        have hallowed : plan.Allows s (.complete now id (plan.outcome id)) := ⟨hid, rfl⟩
        have hlt := hp.complete now id (plan.outcome id) hid
        obtain ⟨ops, hsub, hops, hrest⟩ := ih _ hlt (h.perform hallowed) rfl
        exact ⟨.complete now id (plan.outcome id) :: ops, hsub, ⟨hallowed, hops⟩, hrest⟩

end

/-- However a plan is carried out, in the end every task is as the plan settles it. On the way, and
whatever else is asked of a scheduler, it does not stall; and operations that follow the plan can
always be continued to an end. -/
theorem carriedOut_settles (plan : Plan) :
    (∀ ops, plan.CarriedOut ops →
      ((Scheduler.new plan.policy).performAll ops).isQuiescent = true →
      ∀ spec ∈ plan.specs, ∃ t,
        ((Scheduler.new plan.policy).performAll ops).task? spec.id = some t ∧
          plan.Settles spec.id t) ∧
    (∀ policy ops, ((Scheduler.new policy).performAll ops).Progressing) ∧
    ∀ ops rest, plan.Follows (.new plan.policy) ops →
      (submissions ops ++ rest).Perm plan.specs →
      ∃ more, plan.CarriedOut (ops ++ more) ∧
        ((Scheduler.new plan.policy).performAll (ops ++ more)).isQuiescent = true := by
  refine ⟨fun ops hops hq spec hspec => ?_, fun policy ops =>
    (coherent_performAll policy ops).progresses, fun ops rest hops hrest => ?_⟩
  · have hall : ∀ spec ∈ plan.specs,
        ((Scheduler.new plan.policy).performAll ops).has spec.id = true := fun spec hspec =>
      has_of_mem_submissions (.new plan.policy) (hops.submitted.mem_iff.2 hspec)
    obtain ⟨t, ht⟩ := Option.isSome_iff_exists.1 (hall spec hspec)
    exact ⟨t, ht, ((Tracks.new plan).performAll hops.follows).settles hq hall ht⟩
  · -- What is left of the plan is submitted, then the scheduler is brought to rest.
    have hleft : plan.Follows ((Scheduler.new plan.policy).performAll ops)
        (rest.map (·.operation ⟨0⟩)) :=
      follows_operations fun spec hspec => hrest.mem_iff.1 (List.mem_append_right _ hspec)
    obtain ⟨more, hsub, hmore, hq⟩ :=
      (((Tracks.new plan).performAll hops).performAll hleft).exists_rest ⟨0⟩
    refine ⟨rest.map (·.operation ⟨0⟩) ++ more, ⟨?_, ?_⟩, ?_⟩
    · exact follows_append.2 ⟨hops, follows_append.2 ⟨hleft, hmore⟩⟩
    · rw [submissions_append, submissions_append, submissions_operations, hsub, List.append_nil]
      exact hrest
    · rw [performAll, List.foldl_append, List.foldl_append]
      exact hq

end Plan

end Taskweave
