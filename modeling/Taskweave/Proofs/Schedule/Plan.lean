import Taskweave.Proofs.Schedule.Lifecycle

/-!
# Plans

A `Plan` fixes the tasks of a workflow and how each of them ends if it runs. It leaves open in which
order they are submitted, when and how many are dispatched, and in which order they end: a sequence
of operations that fits a plan is one that the plan is `CarriedOut` by. What the plan does settle is
which tasks complete (`Plan.Completes`), which fail (`Plan.Fails`), and that the others stay
blocked; `Plan.Settles` compares a record with that.
-/

namespace Taskweave

/-- A task as it is submitted. -/
structure Submission where
  id : TaskId
  role : RoleName
  description : String
  dependencies : List TaskId
deriving DecidableEq

/-- The tasks of a workflow, and how each ends if it runs. Dependencies need not be among the tasks,
and may go round in cycles. -/
structure Plan where
  policy : FailurePolicy
  specs : List Submission
  outcome : TaskId → Outcome
  distinct : (specs.map (·.id)).Nodup

namespace Plan

/-- The least set of tasks that have nothing but completed dependencies and end with a success. -/
inductive Completes (plan : Plan) : TaskId → Prop where
  | intro {spec : Submission} {v : Json} : spec ∈ plan.specs →
      (∀ d ∈ spec.dependencies, Completes plan d) → plan.outcome spec.id = .success v →
      Completes plan spec.id

/-- The least set of tasks that have nothing but completed dependencies and end with a failure, or,
where failures cascade, have a dependency that fails. -/
inductive Fails (plan : Plan) : TaskId → Prop where
  | own {spec : Submission} {error : String} : spec ∈ plan.specs →
      (∀ d ∈ spec.dependencies, plan.Completes d) → plan.outcome spec.id = .failure error →
      Fails plan spec.id
  | inherited {spec : Submission} {d : TaskId} : plan.policy = .cascade → spec ∈ plan.specs →
      d ∈ spec.dependencies → Fails plan d → Fails plan spec.id

/-- The record of a task is as the plan settles it. -/
structure Settles (plan : Plan) (id : TaskId) (t : Task) : Prop where
  completed_iff : t.status = .completed ↔ plan.Completes id
  failed_iff : t.status = .failed ↔ plan.Fails id
  blocked_iff : t.status = .blocked ↔ ¬plan.Completes id ∧ ¬plan.Fails id
  result_iff : ∀ v, t.result = some v ↔ plan.Completes id ∧ plan.outcome id = .success v

/-- What operations submit, in order. -/
def submissions (ops : List Operation) : List Submission :=
  ops.filterMap fun
    | .submit _ id role description dependencies => some ⟨id, role, description, dependencies⟩
    | _ => none

/-- An operation fits the plan: it submits one of its tasks, dispatches, or ends a task in flight
with the outcome that the plan has for it. -/
def Allows (plan : Plan) (s : Scheduler) : Operation → Prop
  | .submit _ id role description dependencies =>
    ⟨id, role, description, dependencies⟩ ∈ plan.specs
  | .dispatch _ _ => True
  | .complete _ id outcome => id ∈ s.inFlight ∧ outcome = plan.outcome id

/-- Every operation fits the plan when its turn comes. -/
def Follows (plan : Plan) (s : Scheduler) : List Operation → Prop
  | [] => True
  | op :: ops => plan.Allows s op ∧ Follows plan (s.perform op) ops

/-- Operations that fit the plan submit each of its tasks once, in whatever order. -/
structure CarriedOut (plan : Plan) (ops : List Operation) : Prop where
  follows : plan.Follows (.new plan.policy) ops
  submitted : (submissions ops).Perm plan.specs

section
variable {plan : Plan} {spec spec' : Submission} {s : Scheduler} {ops ops' : List Operation}
  {id : TaskId}

/-! ## Which tasks complete, and which fail -/

/-- Tasks of a plan are told apart by their names. -/
theorem eq_of_id_eq (h : spec ∈ plan.specs) (h' : spec' ∈ plan.specs) (hid : spec.id = spec'.id) :
    spec = spec' :=
  List.inj_on_of_nodup_map plan.distinct h h' hid

/-- A task that completes ends with a success. -/
theorem Completes.exists_success (h : plan.Completes id) : ∃ v, plan.outcome id = .success v := by
  cases h with
  | intro _ _ hv => exact ⟨_, hv⟩

/-- No task both completes and fails. -/
theorem Completes.not_fails (h : plan.Completes id) : ¬plan.Fails id := by
  induction h with
  | @intro spec v hspec hdeps hv ih =>
    intro hfails
    generalize hid : spec.id = id at hfails
    cases hfails with
    | own _ _ he =>
      rw [← hid, hv] at he
      cases he
    | inherited _ hspec' hd hf =>
      obtain rfl := eq_of_id_eq hspec hspec' hid
      exact ih _ hd hf

/-! ## Sequences of operations -/

@[simp] theorem submissions_append :
    submissions (ops ++ ops') = submissions ops ++ submissions ops' := List.filterMap_append

/-- Operations that follow a plan one after the other. -/
theorem follows_append : plan.Follows s (ops ++ ops') ↔
    plan.Follows s ops ∧ plan.Follows (s.performAll ops) ops' := by
  induction ops generalizing s with
  | nil => exact ⟨fun h => ⟨trivial, h⟩, And.right⟩
  | cons op ops ih =>
    rw [List.cons_append, Follows, Follows, ih, and_assoc]
    rfl

end

end Plan

end Taskweave
