import Taskweave.Proofs.Dict
import Taskweave.Proofs.Workflow.Order
import Taskweave.Workflow.Basic

/-!
# Which workflows are accepted

`Draft.Sound` lists what a draft is checked for, without the order of the checks, and one lemma for
each check says which part of it the check decides. `Draft.After` is the relation between the
entries of a draft that its graph stands for, since each task has one entry (`Draft.dependsOn_iff`).
A draft is accepted when it is sound and no task comes after itself by way of others; then its tasks
stand in an order that keeps to the relation, and a sound draft that is refused is refused for a
task that comes after itself (`Draft.judged`).
-/

namespace Taskweave

/-- A role that can serve tasks. -/
structure RoleSpec.Sound (isPattern : String → Bool) (role : RoleSpec) : Prop where
  command : ∃ c ∈ role.command.toList, Text.isBlank c = false
  pattern : ∀ p, role.failOnStdout = some p → isPattern p = true
  timeout : ∀ text, role.timeout = some text → ∃ limit, Duration.parse text = .ok limit

namespace Draft

/-- A draft without faults, but for tasks that may come after themselves by way of others. -/
structure Sound (isPattern : String → Bool) (d : Draft) : Prop where
  tasks : d.tasks ≠ []
  limit : d.settings.maxConcurrency ≠ some 0
  pollInterval : ∃ wait, Duration.parse d.settings.pollInterval = .ok wait
  roles : ∀ e ∈ d.roles, e.2.Sound isPattern
  taskRoles : ∀ e ∈ d.tasks, e.2.role ∈ Dict.keys d.roles
  after : ∀ e ∈ d.tasks, ∀ x ∈ e.2.after, x ≠ e.1 ∧ x ∈ Dict.keys d.tasks

/-- One task lists another that it comes after. -/
def After (d : Draft) (id x : TaskId) : Prop := ∃ task, (id, task) ∈ d.tasks ∧ x ∈ task.after

/-- No task comes after itself by way of others. -/
def Acyclic (d : Draft) : Prop := ∀ id, ¬Relation.TransGen d.After id id

/-- The tasks, each once, and each after those that it lists. -/
structure IsOrder (d : Draft) (order : List TaskId) : Prop where
  perm : order.Perm (Dict.keys d.tasks)
  nodup : order.Nodup
  after : ∀ before id later, order = before ++ id :: later → ∀ x, d.After id x → x ∈ before

/-- What becomes of a draft. -/
structure Judged (isPattern : String → Bool) (d : Draft) : Prop where
  accepted : (∃ w, Workflow.ofDraft isPattern d = .ok w) ↔ d.Sound isPattern ∧ d.Acyclic
  ordered : ∀ w, Workflow.ofDraft isPattern d = .ok w → w.draft = d ∧ d.IsOrder w.order
  cyclic : (∃ task, Workflow.ofDraft isPattern d = .error (.cycle task)) ↔
    d.Sound isPattern ∧ ¬d.Acyclic
  onCycle : ∀ task, Workflow.ofDraft isPattern d = .error (.cycle task) →
    Relation.TransGen d.After task task

/-! ## Checks -/

section
variable {ε α : Type} {isPattern : String → Bool} {d : Draft}

/-- Two checks, one after the other, pass if both pass. -/
theorem seq_eq_ok {x y : Except ε Unit} : (do x; y) = .ok () ↔ x = .ok () ∧ y = .ok () := by
  cases x with
  | error e => exact ⟨nofun, fun h => (nomatch h.1)⟩
  | ok u => exact ⟨fun h => ⟨rfl, h⟩, And.right⟩

/-- A check of every entry passes if it passes for each. -/
theorem forM_eq_ok {xs : List α} {check : α → Except ε Unit} :
    xs.forM check = .ok () ↔ ∀ x ∈ xs, check x = .ok () := by
  induction xs with
  | nil => exact ⟨fun _ => List.forall_mem_nil _, fun _ => rfl⟩
  | cons x xs ih =>
    have hcons : (x :: xs).forM check = (do check x; xs.forM check) := rfl
    rw [hcons, seq_eq_ok, ih, List.forall_mem_cons]

/-- A choice that refuses passes if it does not choose to. -/
theorem ite_error_eq_ok {p : Prop} [Decidable p] {fault : ε} {rest : Except ε Unit} :
    (if p then .error fault else rest) = .ok () ↔ ¬p ∧ rest = .ok () := by
  by_cases hp : p <;> simp [hp]

theorem checkTasks_iff : d.checkTasks = .ok () ↔ d.tasks ≠ [] := by
  rw [checkTasks, ite_error_eq_ok, List.isEmpty_iff]
  exact and_iff_left rfl

theorem checkSettings_iff : d.checkSettings = .ok () ↔
    d.settings.maxConcurrency ≠ some 0 ∧
      ∃ wait, Duration.parse d.settings.pollInterval = .ok wait := by
  rw [checkSettings, ite_error_eq_ok]
  refine and_congr_right fun _ => ?_
  cases Duration.parse d.settings.pollInterval <;> simp

theorem checkTimeout_iff {name : RoleName} {timeout : Option String} :
    checkTimeout name timeout = .ok () ↔
      ∀ text, timeout = some text → ∃ limit, Duration.parse text = .ok limit := by
  cases timeout with
  | none => exact ⟨fun _ => nofun, fun _ => rfl⟩
  | some text =>
    rw [checkTimeout]
    cases hparse : Duration.parse text <;> simp [hparse]

theorem checkRole_iff {name : RoleName} {role : RoleSpec} :
    checkRole isPattern name role = .ok () ↔ role.Sound isPattern := by
  have hcommand : ¬Text.isBlankText role.command = true ↔
      ∃ c ∈ role.command.toList, Text.isBlank c = false := by
    simp [Text.isBlankText]
  have hpattern : ¬(role.failOnStdout.any fun p => !isPattern p) = true ↔
      ∀ p, role.failOnStdout = some p → isPattern p = true := by
    cases role.failOnStdout <;> simp
  rw [checkRole, ite_error_eq_ok, ite_error_eq_ok, hcommand, hpattern, checkTimeout_iff]
  exact ⟨fun h => ⟨h.1, h.2.1, h.2.2⟩, fun h => ⟨h.command, h.pattern, h.timeout⟩⟩

theorem checkRoles_iff : d.checkRoles isPattern = .ok () ↔ ∀ e ∈ d.roles, e.2.Sound isPattern := by
  rw [checkRoles, forM_eq_ok]
  exact forall₂_congr fun e _ => checkRole_iff

theorem checkTaskRoles_iff :
    d.checkTaskRoles = .ok () ↔ ∀ e ∈ d.tasks, e.2.role ∈ Dict.keys d.roles := by
  rw [checkTaskRoles, forM_eq_ok]
  refine forall₂_congr fun e _ => ?_
  rw [← Dict.find?_isSome_iff, Dict.has]
  cases (Dict.find? d.roles e.2.role).isSome <;> simp

theorem checkAfter_iff {id : TaskId} {task : TaskSpec} : d.checkAfter id task = .ok () ↔
    ∀ x ∈ task.after, x ≠ id ∧ x ∈ Dict.keys d.tasks := by
  rw [checkAfter, forM_eq_ok]
  refine forall₂_congr fun x _ => ?_
  rw [ite_error_eq_ok, ← Dict.find?_isSome_iff, Dict.has]
  cases (Dict.find? d.tasks x).isSome <;> simp

theorem checkDependencies_iff : d.checkDependencies = .ok () ↔
    ∀ e ∈ d.tasks, ∀ x ∈ e.2.after, x ≠ e.1 ∧ x ∈ Dict.keys d.tasks := by
  rw [checkDependencies, forM_eq_ok]
  exact forall₂_congr fun e _ => checkAfter_iff

/-- The checks pass for the drafts that are sound. -/
theorem check_iff : d.check isPattern = .ok () ↔ d.Sound isPattern := by
  have hseq : d.check isPattern = (do
    d.checkTasks; d.checkSettings; d.checkRoles isPattern; d.checkTaskRoles; d.checkDependencies) :=
      rfl
  rw [hseq, seq_eq_ok, seq_eq_ok, seq_eq_ok, seq_eq_ok, checkTasks_iff, checkSettings_iff,
    checkRoles_iff, checkTaskRoles_iff, checkDependencies_iff]
  exact ⟨fun ⟨htasks, ⟨hlimit, hpoll⟩, hroles, htaskRoles, hafter⟩ =>
      ⟨htasks, hlimit, hpoll, hroles, htaskRoles, hafter⟩,
    fun h => ⟨h.tasks, ⟨h.limit, h.pollInterval⟩, h.roles, h.taskRoles, h.after⟩⟩

end

/-! ## The graph of a draft -/

section
variable {isPattern : String → Bool} {d : Draft} (hkeys : (Dict.keys d.tasks).Nodup)
include hkeys

/-- What a task comes after is what its entry lists. -/
theorem mem_afterOf_iff {id x : TaskId} : x ∈ d.afterOf id ↔ d.After id x := by
  rw [afterOf]
  constructor
  · intro hx
    split at hx
    · next task hfind => exact ⟨task, (Dict.find?_eq_some_iff hkeys).1 hfind, hx⟩
    · exact absurd hx List.not_mem_nil
  · rintro ⟨task, hmem, hx⟩
    rw [(Dict.find?_eq_some_iff hkeys).2 hmem]
    exact hx

/-- The graph has an edge where the entry of a task lists another. -/
theorem dependsOn_iff {id x : TaskId} : d.graph.DependsOn id x ↔ d.After id x := by
  refine ⟨fun h => (mem_afterOf_iff hkeys).1 h.2, fun h => ⟨?_, (mem_afterOf_iff hkeys).2 h⟩⟩
  obtain ⟨task, hmem, -⟩ := h
  exact List.mem_map_of_mem hmem

/-- A way along edges is a way from entry to entry. -/
theorem transGen_dependsOn : Relation.TransGen d.graph.DependsOn = Relation.TransGen d.After := by
  have hrel : d.graph.DependsOn = d.After := funext₂ fun _ _ => propext (dependsOn_iff hkeys)
  rw [hrel]

/-- The graph of a draft that passed the checks has an edge only between two of its nodes. -/
theorem Sound.closed (h : d.Sound isPattern) : d.graph.Closed where
  nodup := hkeys
  dependency id x hedge := by
    obtain ⟨task, hmem, hx⟩ := (dependsOn_iff hkeys).1 hedge
    exact (h.after (id, task) hmem x hx).symm

/-- An order of the graph is an order of the draft. -/
theorem Sound.isOrder (h : d.Sound isPattern) {order : List TaskId}
    (horder : d.graph.order? = .ok order) : d.IsOrder order := by
  obtain ⟨hperm, hafter⟩ := Graph.isOrder_of_order? (h.closed hkeys) horder
  exact ⟨hperm, hperm.nodup_iff.2 hkeys, fun before id later heq x hx =>
    hafter before id later heq x ((mem_afterOf_iff hkeys).2 hx)⟩

omit hkeys in
/-- A draft is accepted if it passes the checks and an order is found. -/
theorem ofDraft_eq_ok_iff {w : Workflow} : Workflow.ofDraft isPattern d = .ok w ↔
    d.Sound isPattern ∧ w.draft = d ∧ d.graph.order? = .ok w.order := by
  rw [Workflow.ofDraft, ← check_iff]
  cases d.check isPattern with
  | error fault => exact ⟨nofun, fun h => nomatch h.1⟩
  | ok _ =>
    cases d.graph.order? with
    | error task => exact ⟨nofun, fun h => nomatch h.2.2⟩
    | ok order =>
      constructor
      · intro h
        cases h
        exact ⟨rfl, rfl, rfl⟩
      · rintro ⟨-, rfl, h⟩
        cases h
        rfl

omit hkeys in
/-- A cycle is reported if the draft passes the checks and no order is found. -/
theorem ofDraft_eq_cycle_iff {task : TaskId} :
    Workflow.ofDraft isPattern d = .error (.cycle task) ↔
      d.Sound isPattern ∧ d.graph.order? = .error task := by
  rw [Workflow.ofDraft, ← check_iff]
  cases d.check isPattern with
  | error fault => exact ⟨nofun, fun h => nomatch h.1⟩
  | ok _ =>
    cases d.graph.order? with
    | error task' => simp
    | ok order => exact ⟨nofun, fun h => nomatch h.2⟩

/-- A sound draft has an order unless a task comes after itself. -/
theorem Sound.order?_iff (h : d.Sound isPattern) :
    (∃ order, d.graph.order? = .ok order) ↔ d.Acyclic := by
  rw [Graph.order?_eq_ok_iff (h.closed hkeys), Graph.Acyclic, transGen_dependsOn hkeys]
  exact Iff.rfl

/-- A draft is accepted if it is sound and without a cycle, and the order that it gets keeps to what
its tasks list. A cycle is reported if there is one and all else is sound, and the task that is
named is on it. -/
theorem judged (isPattern : String → Bool) : d.Judged isPattern where
  accepted := by
    constructor
    · rintro ⟨w, hw⟩
      obtain ⟨hsound, -, horder⟩ := ofDraft_eq_ok_iff.1 hw
      exact ⟨hsound, (hsound.order?_iff hkeys).1 ⟨w.order, horder⟩⟩
    · rintro ⟨hsound, hacyclic⟩
      obtain ⟨order, horder⟩ := (hsound.order?_iff hkeys).2 hacyclic
      exact ⟨⟨d, order⟩, ofDraft_eq_ok_iff.2 ⟨hsound, rfl, horder⟩⟩
  ordered w hw := by
    obtain ⟨hsound, hdraft, horder⟩ := ofDraft_eq_ok_iff.1 hw
    exact ⟨hdraft, hsound.isOrder hkeys horder⟩
  cyclic := by
    constructor
    · rintro ⟨task, htask⟩
      obtain ⟨hsound, herror⟩ := ofDraft_eq_cycle_iff.1 htask
      refine ⟨hsound, fun hacyclic => ?_⟩
      obtain ⟨order, horder⟩ := (hsound.order?_iff hkeys).2 hacyclic
      rw [horder] at herror
      cases herror
    · rintro ⟨hsound, hcycle⟩
      cases horder : d.graph.order? with
      | error task => exact ⟨task, ofDraft_eq_cycle_iff.2 ⟨hsound, horder⟩⟩
      | ok order => exact absurd ((hsound.order?_iff hkeys).1 ⟨order, horder⟩) hcycle
  onCycle task htask := by
    obtain ⟨hsound, herror⟩ := ofDraft_eq_cycle_iff.1 htask
    exact transGen_dependsOn hkeys ▸
      Graph.dependsOn_self_of_order? (hsound.closed hkeys) herror

end

/-- Two tasks, one of which comes after the other. -/
def pair (after : List TaskId) : Draft where
  settings := Settings.default
  roles := [("r", ⟨"true", none, none, []⟩)]
  tasks := [("a", ⟨"r", "", ["b"]⟩), ("b", ⟨"r", "", after⟩)]

/-- Two tasks are put in order, unless they come after each other. -/
theorem judged_pair : (Dict.keys (pair []).tasks).Nodup ∧ (pair []).IsOrder ["b", "a"] ∧
    (Dict.keys (pair ["a"]).tasks).Nodup ∧ Relation.TransGen (pair ["a"]).After "b" "b" := by
  have haccepted : Workflow.ofDraft (fun _ => true) (pair []) = .ok ⟨pair [], ["b", "a"]⟩ := by
    decide +kernel
  have hcycle : Workflow.ofDraft (fun _ => true) (pair ["a"]) = .error (.cycle "b") := by
    decide +kernel
  have hkeys : (Dict.keys (pair []).tasks).Nodup := by decide
  have hkeys' : (Dict.keys (pair ["a"]).tasks).Nodup := by decide
  exact ⟨hkeys, ((judged hkeys _).ordered _ haccepted).2, hkeys',
    (judged hkeys' _).onCycle "b" hcycle⟩

end Draft

end Taskweave
