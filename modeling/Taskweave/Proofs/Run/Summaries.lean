import Taskweave.Proofs.Run.Operations
import Taskweave.Proofs.Schedule.Completion
import Taskweave.Proofs.Schedule.QueueOrder

/-!
# What the summary of a run tells

A summary has a list for each status but pending. It accounts for the tasks that were submitted
(`RunSummary.AccountsFor`) if none of them is pending when the run returns, and only then
(`Coordinator.accountsFor_iff`). A run that is interrupted may leave a task pending: one that waits
for a slot when the run ends is in no list (`Coordinator.not_accountsFor_waiting_task`). A run that
goes on until the scheduler is at rest leaves none pending, but a task may be submitted between the
last turn and the return. Such tasks are late (`Coordinator.late`), and only they can be pending
when a run returns that was not interrupted (`Coordinator.Accounted.exists_late`).
-/

namespace Taskweave

open Scheduler

variable {α : Type}

/-- The list of a summary for the tasks with a status; there is none for tasks that are pending. -/
def RunSummary.listOf (summary : RunSummary) : Status → List TaskId
  | .completed => summary.completed
  | .failed => summary.failed
  | .blocked => summary.blocked
  | .inProgress => summary.inProgress
  | .pending => []

/-- A summary tells for each of the tasks `ids` where it stands in `s`. -/
structure RunSummary.AccountsFor (summary : RunSummary) (s : Scheduler) (ids : List TaskId) :
    Prop where
  /-- The lists are sorted, and none of them names a task twice. -/
  ascending : ∀ st, (summary.listOf st).Pairwise (· < ·)
  /-- A task is in one list. -/
  listed : ∀ id ∈ ids, ∃! st, id ∈ summary.listOf st
  /-- A task that is in a list has the status of the list. -/
  status : ∀ st, ∀ id ∈ summary.listOf st, s.status? id = some st
  inProgress : summary.inProgress ≠ [] → summary.interrupted = true

/-- Whether an operation hands tasks out. -/
def Operation.isDispatch : Operation → Bool
  | .dispatch _ _ => true
  | .submit _ _ _ _ _ | .complete _ _ _ => false

namespace Coordinator

/-- The summaries of the runs that have returned, in order. -/
def summaries (journal : List (Entry α)) : List RunSummary :=
  journal.filterMap fun
    | .runOver summary => some summary
    | _ => none

/-- The last of the steps ends a run, which returns a summary. -/
def Returns (c : Coordinator α) (steps : List (Step α)) (summary : RunSummary) : Prop :=
  ∃ before step, steps = before ++ [step] ∧ summary ∈ summaries ((c.after before).act step).1

/-- Whether a step is a turn of a run, in which the scheduler hands out what can start. -/
def takesTurn (c : Coordinator α) (step : Step α) : Bool :=
  (c.operations step).any Operation.isDispatch

/-- The tasks that no turn has come after, if those of `specs` are such before the steps. -/
def lateFrom (c : Coordinator α) (specs : List Submission) : List (Step α) → List Submission
  | [] => specs
  | step :: steps =>
    (c.act step).2.lateFrom (if c.takesTurn step then [] else specs ++ c.accepts step) steps

/-- The tasks that are accepted after the last turn. -/
def late (c : Coordinator α) (steps : List (Step α)) : List Submission := c.lateFrom [] steps

/-- No task that was accepted after the last turn is pending. -/
def CaughtUp (c : Coordinator α) (steps : List (Step α)) : Prop :=
  ∀ spec ∈ c.late steps, (c.after steps).core.scheduler.status? spec.id ≠ some .pending

/-- When a run has come to rest, no other tasks wait in the queue than those of `specs`. -/
def WaitsOnly (c : Coordinator α) (specs : List Submission) : Prop :=
  c.phase = .leaving false → ∀ id ∈ c.core.scheduler.queued, id ∈ specs.map (·.id)

section
variable {c c' : Coordinator α} {options : RunOptions} {J : List (Entry α)} {now : Instant}
  {policy : FailurePolicy} {step : Step α} {steps steps' : List (Step α)} {summary : RunSummary}
  {id : TaskId} {entries : List (Entry α)} {ops : List Operation} {specs specs' : List Submission}
  {spec : Submission}

/-- A run has returned a summary if that is seen. -/
theorem mem_summaries : summary ∈ summaries J ↔ .runOver summary ∈ J := by
  rw [summaries, List.mem_filterMap]
  constructor
  · rintro ⟨entry, hentry, he⟩
    cases entry with
    | runOver summary' => exact Option.some.inj he ▸ hentry
    | called | ended | received => cases he
  · exact fun hentry => ⟨_, hentry, rfl⟩

/-- A run returns with the last of the steps, before which it takes no further turn. -/
theorem Returns.exists_leaving (h : c.Returns steps summary) : ∃ before,
    steps = before ++ [.conclude] ∧ (c.after before).phase = .leaving summary.interrupted ∧
      c.after steps = { c.after before with phase := .idle } := by
  obtain ⟨before, step, rfl, hover⟩ := h
  obtain ⟨rfl, hphase, -, hafter⟩ := ((c.after before).acts step).returns (mem_summaries.1 hover)
  exact ⟨before, rfl, hphase, after_append.trans hafter⟩

/-- A run that returns tells where the tasks stand. -/
theorem Returns.closing (hreturns : c.Returns steps summary) (h : Accounted options J c) :
    (c.after steps).Closing summary := by
  obtain ⟨before, step, rfl, hover⟩ := hreturns
  rw [after_append]
  exact (h.after before).closing (mem_summaries.1 hover)

/-- A task that has been accepted has a record. -/
theorem has_of_accepted (h : Coordinator.new policy options = .ok c)
    (hspec : spec ∈ c.accepted steps) : (c.after steps).core.scheduler.has spec.id = true := by
  have hacc : Accounted options [] c := .new h
  rw [hacc.scheduler_after steps]
  rw [← submissions_asked] at hspec
  exact Plan.has_of_mem_submissions hacc.coherent hspec

/-- The lists of a summary hold the tasks with their statuses, but for those that are pending. -/
theorem Closing.mem_listOf (h : c.Closing summary) (hc : c.core.scheduler.Coherent) {st : Status} :
    id ∈ summary.listOf st ↔ c.core.scheduler.status? id = some st ∧ st ≠ .pending := by
  rw [h.1]
  cases st with
  | pending => simp [RunSummary.listOf]
  | completed | failed | blocked | inProgress =>
    exact hc.mem_idsWithStatus.trans (and_iff_left nofun).symm

/-- The lists of a summary are sorted, and none of them names a task twice. -/
theorem Closing.ascending (h : c.Closing summary) (hc : c.core.scheduler.Coherent) (st : Status) :
    (summary.listOf st).Pairwise (· < ·) := by
  rw [h.1]
  cases st with
  | pending => exact List.Pairwise.nil
  | completed | failed | blocked | inProgress => exact hc.ascending_idsWithStatus

/-- A task with a record is in one list of a summary, unless it is pending. -/
theorem Closing.listed_iff (h : c.Closing summary) (hc : c.core.scheduler.Coherent)
    (hid : c.core.scheduler.has id = true) :
    (∃! st, id ∈ summary.listOf st) ↔ c.core.scheduler.status? id ≠ some .pending := by
  obtain ⟨t, ht⟩ := Option.isSome_iff_exists.1 hid
  have hst := status?_of_task? ht
  have hmem : ∀ st, id ∈ summary.listOf st ↔ t.status = st ∧ st ≠ .pending := fun st => by
    rw [h.mem_listOf hc, hst, Option.some_inj]
  rw [hst, Ne, Option.some_inj]
  constructor
  · rintro ⟨st, hlist, -⟩
    obtain ⟨rfl, hne⟩ := (hmem st).1 hlist
    exact hne
  · intro hne
    exact ⟨t.status, (hmem _).2 ⟨rfl, hne⟩, fun st hlist => ((hmem st).1 hlist).1.symm⟩

/-- A run that is over without an interruption leaves no task in progress. -/
theorem Closing.status_ne (h : c.Closing summary) (hc : c.core.scheduler.Coherent)
    (hi : summary.interrupted = false) : c.core.scheduler.status? id ≠ some .inProgress := by
  intro hrun
  have hmem := (hc.mem_inFlight id).2 hrun
  rw [h.2 hi] at hmem
  cases hmem

/-- A summary accounts for tasks that have records if none of them is pending, and only then. -/
theorem Closing.accounts_iff (h : c.Closing summary) (hc : c.core.scheduler.Coherent)
    {ids : List TaskId} (hids : ∀ id ∈ ids, c.core.scheduler.has id = true) :
    summary.AccountsFor c.core.scheduler ids ↔
      ∀ id ∈ ids, c.core.scheduler.status? id ≠ some .pending := by
  constructor
  · exact fun hacc id hid => (h.listed_iff hc (hids id hid)).1 (hacc.listed id hid)
  · intro hnone
    refine ⟨h.ascending hc, fun id hid => (h.listed_iff hc (hids id hid)).2 (hnone id hid),
      fun st id hmem => ((h.mem_listOf hc).1 hmem).1, fun hne => ?_⟩
    obtain ⟨id, hid⟩ := List.exists_mem_of_ne_nil _ hne
    have hlist : id ∈ summary.listOf .inProgress := hid
    have hrun := ((h.mem_listOf hc).1 hlist).1
    cases hi : summary.interrupted with
    | true => rfl
    | false => exact absurd hrun (h.status_ne hc hi)

/-! ## Late tasks -/

/-- Late tasks after steps one after the other. -/
theorem lateFrom_append : c.lateFrom specs (steps ++ steps') =
    (c.after steps).lateFrom (c.lateFrom specs steps) steps' := by
  induction steps generalizing c specs with
  | nil => rfl
  | cons step steps ih => exact ih

/-- A task that is late was so before, or has been accepted. -/
theorem mem_of_mem_lateFrom (h : spec ∈ c.lateFrom specs steps) :
    spec ∈ specs ∨ spec ∈ c.accepted steps := by
  induction steps generalizing c specs with
  | nil => exact .inl h
  | cons step steps ih =>
    rcases ih h with hspec | hspec
    · split at hspec
      · cases hspec
      · exact (List.mem_append.1 hspec).imp_right (List.mem_append_left _)
    · exact .inr (List.mem_append_right _ hspec)

/-- Where nothing is late, no late task is pending. -/
theorem caughtUp_of_late_eq_nil (h : c.late steps = []) : c.CaughtUp steps := by
  rw [CaughtUp, h]
  exact List.forall_mem_nil _

/-- A turn that leaves the scheduler at rest leaves nothing in the queue. -/
theorem waitsOnly_wake : (c.wake now).WaitsOnly [] := by
  intro hphase id hid
  rwa [(isQuiescent_eq_true.1 (isQuiescent_of_leaving hphase)).1] at hid

/-- A task that waits when the run has come to rest was accepted after the last turn, since only a
submission adds to the queue then. -/
theorem Accounted.waitsOnly_acts (h : Accounted options J c) (hwaits : c.WaitsOnly specs)
    (ha : c.Acts step entries ops specs' c') :
    c'.WaitsOnly (if ops.any Operation.isDispatch then [] else specs ++ specs') := by
  cases ha with
  | nothing | announce | finish => exact (List.append_nil specs).symm ▸ hwaits
  | register hr =>
    obtain ⟨registry, -, rfl⟩ := register_eq_ok hr
    exact (List.append_nil specs).symm ▸ hwaits
  | @submit _ now id role description deps t hs =>
    obtain ⟨-, s', hsub, rfl⟩ := accept_eq_ok hs
    have henters := enters_of_submit hsub
    have hid : t.id = id := congrArg Task.Profile.id (henters.accepted h.coherent).profile_eq
    show WaitsOnly _ (specs ++ [⟨id, role, description, deps⟩])
    intro hphase x hx
    rw [withScheduler, henters.queued_eq h.coherent] at hx
    rw [List.map_append]
    rcases List.mem_append.1 hx with hx | hx
    · exact List.mem_append_left _ (hwaits hphase x hx)
    · dsimp only at hx
      split at hx
      · exact List.mem_append_right _ (hid ▸ hx)
      · cases hx
  | begin | wake => exact waitsOnly_wake
  | @receive now e rest _ he =>
    have hturn : (noting now e ++ [(c.taken now e rest).refill now]).any
        Operation.isDispatch = true := by
      cases e <;> rfl
    rw [if_pos hturn, receive_eq he]
    exact waitsOnly_wake
  | shutdown | conclude =>
    intro hphase
    cases hphase

/-- After steps, a task that waits when the run has come to rest is late. -/
theorem Accounted.waitsOnly_after (h : Accounted options J c) (hwaits : c.WaitsOnly specs)
    (steps : List (Step α)) : (c.after steps).WaitsOnly (c.lateFrom specs steps) := by
  induction steps generalizing c J specs with
  | nil => exact hwaits
  | cons step steps ih => exact ih (h.act step) (h.waitsOnly_acts hwaits (c.acts step))

/-- A task that is pending when a run returns without an interruption is late. -/
theorem Accounted.exists_late (h : Accounted options J c) (hidle : c.phase = .idle)
    (hreturns : c.Returns steps summary) (hi : summary.interrupted = false)
    (hid : (c.after steps).core.scheduler.status? id = some .pending) :
    ∃ spec ∈ c.late steps, spec.id = id := by
  obtain ⟨before, rfl, hphase, hafter⟩ := hreturns.exists_leaving
  have hwaits : (c.after before).WaitsOnly (c.late before) := by
    refine h.waitsOnly_after (fun hleaving => ?_) before
    rw [hidle] at hleaving
    cases hleaving
  have hlate : c.late (before ++ [.conclude]) = c.late before :=
    lateFrom_append.trans (List.append_nil _)
  rw [hlate]
  rw [hafter] at hid
  have hqueued := ((h.after before).coherent.mem_queued id).2 hid
  exact List.mem_map.1 (hwaits (hi ▸ hphase) id hqueued)

/-- A run that returns without an interruption leaves the scheduler at rest, unless a late task is
pending. -/
theorem Accounted.isQuiescent_after (h : Accounted options J c) (hidle : c.phase = .idle)
    (hreturns : c.Returns steps summary) (hi : summary.interrupted = false)
    (hcaught : c.CaughtUp steps) : (c.after steps).core.scheduler.isQuiescent = true := by
  have hc := (h.after steps).coherent
  refine hc.isQuiescent_iff.2 fun id => ⟨fun hpending => ?_, (hreturns.closing h).status_ne hc hi⟩
  obtain ⟨spec, hspec, rfl⟩ := h.exists_late hidle hreturns hi hpending
  exact hcaught spec hspec hpending

/-! ## Summaries that account for all tasks -/

/-- A summary accounts for all tasks that were submitted if none of them is pending when the run
returns, and only then. If the run was not interrupted, no other tasks can be pending than those that
were submitted after its last turn. -/
theorem accountsFor_iff (h : Coordinator.new policy options = .ok c)
    (hreturns : c.Returns steps summary) :
    (summary.AccountsFor (c.after steps).core.scheduler ((c.accepted steps).map (·.id)) ↔
        ∀ spec ∈ c.accepted steps,
          (c.after steps).core.scheduler.status? spec.id ≠ some .pending) ∧
      (summary.interrupted = false →
        (summary.AccountsFor (c.after steps).core.scheduler ((c.accepted steps).map (·.id)) ↔
          c.CaughtUp steps)) := by
  have hacc : Accounted options [] c := .new h
  have hiff : summary.AccountsFor (c.after steps).core.scheduler ((c.accepted steps).map (·.id)) ↔
      ∀ spec ∈ c.accepted steps,
        (c.after steps).core.scheduler.status? spec.id ≠ some .pending := by
    rw [(hreturns.closing hacc).accounts_iff (hacc.after steps).coherent, List.forall_mem_map]
    exact List.forall_mem_map.2 fun spec hspec => has_of_accepted h hspec
  refine ⟨hiff, fun hi => hiff.trans ⟨fun hnone spec hspec => ?_, fun hnone spec _ hpending => ?_⟩⟩
  · exact hnone spec ((mem_of_mem_lateFrom hspec).resolve_left List.not_mem_nil)
  · obtain ⟨spec', hspec', heq⟩ := hacc.exists_late (phase_new h) hreturns hi hpending
    exact hnone spec' hspec' (heq ▸ hpending)

end

/-- A new coordinator that runs one task at a time. -/
def serial : Coordinator Unit := ⟨⟨.new .block, .empty, ⟨some 1, .ofSeconds 1⟩⟩, [], [], .idle⟩

/-- Steps of a run that goes on until its task has ended. -/
def carriedOn : List (Step Unit) :=
  [.register "r" (), .submit ⟨0⟩ "a" "r" "" [], .announce "a", .begin ⟨0⟩,
    .finish "a" (.returned (.ok .null)), .receive ⟨1⟩, .receive ⟨1⟩, .conclude]

/-- The summary of a run that goes on to the end accounts for its task. -/
theorem accountsFor_carriedOn : Coordinator.new .block ⟨some 1, .ofSeconds 1⟩ = .ok serial ∧
    serial.Returns carriedOn ⟨["a"], [], [], [], false⟩ ∧
    RunSummary.AccountsFor ⟨["a"], [], [], [], false⟩ (serial.after carriedOn).core.scheduler
      ((serial.accepted carriedOn).map (·.id)) := by
  have hnew : Coordinator.new .block ⟨some 1, .ofSeconds 1⟩ = .ok serial := rfl
  have hreturns : serial.Returns carriedOn ⟨["a"], [], [], [], false⟩ :=
    ⟨carriedOn.dropLast, .conclude, rfl, by decide +kernel⟩
  have hcaught : serial.CaughtUp carriedOn := caughtUp_of_late_eq_nil (by decide +kernel)
  exact ⟨hnew, hreturns, ((accountsFor_iff hnew hreturns).2 rfl).2 hcaught⟩

/-- Steps that interrupt a run while a task waits for the only slot. -/
def cutShort : List (Step Unit) :=
  [.register "r" (), .submit ⟨0⟩ "a" "r" "" [], .announce "a", .submit ⟨0⟩ "b" "r" "" [],
    .announce "b", .begin ⟨0⟩, .shutdown, .conclude]

/-- The summary of an interrupted run does not account for a task that waits for a slot. -/
theorem not_accountsFor_waiting_task :
    Coordinator.new .block ⟨some 1, .ofSeconds 1⟩ = .ok serial ∧
      serial.Returns cutShort ⟨[], [], [], ["a"], true⟩ ∧
      "b" ∈ (serial.accepted cutShort).map (·.id) ∧
      ¬RunSummary.AccountsFor ⟨[], [], [], ["a"], true⟩ (serial.after cutShort).core.scheduler
        ((serial.accepted cutShort).map (·.id)) := by
  have hreturns : serial.Returns cutShort ⟨[], [], [], ["a"], true⟩ :=
    ⟨cutShort.dropLast, .conclude, rfl, by decide +kernel⟩
  have hmem : "b" ∈ (serial.accepted cutShort).map (·.id) := by decide +kernel
  refine ⟨rfl, hreturns, hmem, fun hacc => ?_⟩
  obtain ⟨st, hlist, -⟩ := hacc.listed "b" hmem
  cases st with
  | pending | completed | failed | blocked => exact List.not_mem_nil hlist
  | inProgress => exact absurd (List.mem_singleton.1 hlist) (by decide)

end Coordinator

end Taskweave
