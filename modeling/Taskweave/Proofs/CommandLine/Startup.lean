import Taskweave.CommandLine.Program
import Taskweave.Proofs.Run.Sessions
import Taskweave.Proofs.Workflow.Acceptance

/-!
# A workflow that is accepted starts

What the checks of a workflow accept is read once more when the program prepares a run: durations
and patterns are parsed again, roles bound and tasks submitted one by one, and each of these steps
could refuse. None does, since the checks ask the same of the same texts, a role and a task have one
entry each, and the roles of all tasks are bound by then. What comes of it is `Program.Started`: all
roles and tasks are there, every task waits for what its entry lists, and the run that the program
carries out returns, with all tasks completed if every execution succeeds.
-/

namespace Taskweave

open Coordinator

namespace Draft

/-- The submissions that the entries of tasks stand for. -/
def submissions (d : Draft) (order : List TaskId) : List Submission :=
  order.filterMap fun id =>
    (Dict.find? d.tasks id).map fun task => ⟨id, task.role, task.description, task.after⟩

section
variable {d : Draft} {order : List TaskId} {spec : Submission}

/-- A submission stands for the entry of its task. -/
theorem mem_submissions (hkeys : (Dict.keys d.tasks).Nodup) (h : spec ∈ d.submissions order) :
    (spec.id, ⟨spec.role, spec.description, spec.dependencies⟩) ∈ d.tasks := by
  obtain ⟨id, -, he⟩ := List.mem_filterMap.1 h
  obtain ⟨task, hfind, rfl⟩ := Option.map_eq_some_iff.1 he
  exact (Dict.find?_eq_some_iff hkeys).1 hfind

/-- The tasks of an order have entries, and are submitted in this order. -/
theorem IsOrder.map_id_submissions (h : d.IsOrder order) :
    (d.submissions order).map (·.id) = order := by
  have hall : ∀ id ∈ order, id ∈ Dict.keys d.tasks := fun id hid => h.perm.mem_iff.1 hid
  clear h
  induction order with
  | nil => rfl
  | cons id order ih =>
    obtain ⟨hid, horder⟩ := List.forall_mem_cons.1 hall
    obtain ⟨task, hfind⟩ := Option.isSome_iff_exists.1 (Dict.find?_isSome_iff.2 hid)
    have hcons : d.submissions (id :: order) =
        ⟨id, task.role, task.description, task.after⟩ :: d.submissions order :=
      List.filterMap_cons_some (by rw [hfind]; rfl)
    rw [hcons, List.map_cons, ih horder]

/-- Every entry of a task is submitted. -/
theorem IsOrder.submission_of_mem {id : TaskId} {task : TaskSpec} (h : d.IsOrder order)
    (hkeys : (Dict.keys d.tasks).Nodup) (hmem : (id, task) ∈ d.tasks) :
    ⟨id, task.role, task.description, task.after⟩ ∈ d.submissions order := by
  have hid : id ∈ order := h.perm.mem_iff.2 (List.mem_map_of_mem hmem)
  exact List.mem_filterMap.2 ⟨id, hid, by rw [(Dict.find?_eq_some_iff hkeys).2 hmem]; rfl⟩

/-- Each task is submitted after those that it lists. -/
theorem IsOrder.ordered (h : d.IsOrder order) (hkeys : (Dict.keys d.tasks).Nodup) :
    Submission.Ordered (d.submissions order) := by
  intro before spec later heq x hx
  have hsplit : order = before.map (·.id) ++ spec.id :: later.map (·.id) := by
    rw [← h.map_id_submissions, heq, List.map_append]
    rfl
  have hmem : spec ∈ d.submissions order := by
    rw [heq]
    exact List.mem_append_right _ List.mem_cons_self
  exact h.after _ spec.id _ hsplit x ⟨_, mem_submissions hkeys hmem, hx⟩

end

end Draft

namespace Program

/-- What serves a role in a run: the executor that the entry of the role describes, and a memory if
the workflow has a workspace. -/
def executor (p : Program) (withMemory : Bool) (name : RoleName) (spec : RoleSpec) :
    Except Error CommandExecutor :=
  (CommandExecutor.ofSpec p.compile name spec).map fun e =>
    { e with memory := if withMemory then some ⟨name, spec.context⟩ else none }

/-- The session in which the program has carried out a run; what `Program.perform` prints is the
snapshot of its coordinator. -/
def session {σ : Type} [Store σ] (p : Program) (now : Instant) (c : Coordinator CommandExecutor)
    (store : σ) : Session σ :=
  Session.finish p.host p.digest ⟨c, store, now, [], [.info, .debug], none⟩

/-- A coordinator with all that a workflow needs, before its run. -/
structure Started (p : Program) (o : Options) (w : Workflow) (c : Coordinator CommandExecutor) :
    Prop where
  policy_eq : c.core.scheduler.policy = o.policy.getD w.draft.settings.failurePolicy
  limit_eq : c.core.options.maxConcurrency =
    o.maxConcurrency.orElse fun _ => w.draft.settings.maxConcurrency
  pollInterval : w.pollInterval = .ok c.core.options.pollInterval
  /-- The roles that are bound are those of the workflow. -/
  bound_iff : ∀ name, c.core.registry.contains name = true ↔ name ∈ Dict.keys w.draft.roles
  /-- Every role is bound to an executor as its entry describes it. -/
  served : ∀ name spec, (name, spec) ∈ w.draft.roles → ∃ e,
    p.executor w.draft.settings.workspace.isSome name spec = .ok e ∧
      c.core.registry.find? name = some e
  /-- The tasks are those of the workflow. -/
  has_iff : ∀ id, c.core.scheduler.has id = true ↔ id ∈ Dict.keys w.draft.tasks
  /-- A task is kept as its entry describes it, and is pending if it comes after no other, blocked if
  it does. -/
  task : ∀ id spec, (id, spec) ∈ w.draft.tasks → ∃ t, c.task? id = some t ∧ t.role = spec.role ∧
    t.description = spec.description ∧ t.dependencies = spec.after.eraseDups ∧
      t.status = if spec.after = [] then .pending else .blocked
  /-- A task waits for those that it lists, each once, and all of them have been submitted. -/
  remaining : ∀ id spec, (id, spec) ∈ w.draft.tasks →
    c.core.scheduler.remaining? id = some (sortedStrings spec.after.eraseDups) ∧
      ∀ x ∈ spec.after, c.core.scheduler.has x = true
  /-- A run can go on to its end, whatever the executions report. -/
  returns : ∀ outcome now, ∃ (turns : List (Step CommandExecutor)) (summary : RunSummary),
    (∀ step ∈ turns, step.CarriesOn outcome) ∧ c.Returns (.begin now :: turns) summary
  /-- If nothing is requested meanwhile, no run is shut down and every execution succeeds, all tasks
  have completed when a run returns. -/
  completes : ∀ (steps : List (Step CommandExecutor)) (summary : RunSummary),
    (∀ step ∈ steps, ¬step.IsRequest ∧ step ≠ .shutdown) →
    (∀ id ending, .ended id ending ∈ c.journal steps → ∃ v, ending = .returned (.ok v)) →
    c.Returns steps summary →
    summary = ⟨sortedStrings (Dict.keys w.draft.tasks), [], [], [], false⟩ ∧
      ∀ id ∈ Dict.keys w.draft.tasks,
        (c.after steps).core.scheduler.status? id = some .completed
  /-- The run that the program carries out returns, and if all that the executors of the roles execute
  succeeds, all tasks have completed then. -/
  performs : ∀ (σ : Type) [Store σ] (store : σ) (now : Instant), ∃ summary,
    (p.session now c store).summary = some summary ∧
      ((∀ name spec e, (name, spec) ∈ w.draft.roles →
          p.executor w.draft.settings.workspace.isSome name spec = .ok e →
            ∀ a, ∃ v, (e.execute p.host a).1 = .ok v) →
        summary = ⟨sortedStrings (Dict.keys w.draft.tasks), [], [], [], false⟩ ∧
          ∀ id ∈ Dict.keys w.draft.tasks,
            (p.session now c store).coordinator.core.scheduler.status? id = some .completed)

section
variable {p : Program} {o : Options} {now : Instant} {w : Workflow} {d : Draft} {withMemory : Bool}
  {options : RunOptions} {policy : FailurePolicy} {c : Coordinator CommandExecutor}
  {order : List TaskId}

/-! ## Roles -/

/-- A role that passed its checks has an executor. -/
theorem exists_executor {spec : RoleSpec} (h : spec.Sound fun t => (p.compile t).isSome)
    (withMemory : Bool) (name : RoleName) : ∃ e, p.executor withMemory name spec = .ok e := by
  have hlimit : ∃ limit, spec.timeLimit = .ok limit := by
    unfold RoleSpec.timeLimit
    cases htimeout : spec.timeout with
    | none => exact ⟨none, rfl⟩
    | some text =>
      obtain ⟨limit, hparse⟩ := h.timeout text htimeout
      exact ⟨some limit, by simp only [hparse]⟩
  obtain ⟨limit, hlimit⟩ := hlimit
  unfold executor CommandExecutor.ofSpec
  cases hpattern : spec.failOnStdout with
  | none => exact ⟨_, by simp only [hlimit]; rfl⟩
  | some text =>
    obtain ⟨lines, hlines⟩ := Option.isSome_iff_exists.1 (h.pattern text hpattern)
    exact ⟨_, by simp only [hlines, hlimit]; rfl⟩

/-- Roles are bound one after the other. -/
theorem registerRoles_cons {name : RoleName} {spec : RoleSpec} {roles : Dict RoleSpec} :
    p.registerRoles withMemory ((name, spec) :: roles) c = (do
      let e ← p.executor withMemory name spec
      let c ← c.register name e
      p.registerRoles withMemory roles c) := by
  rw [registerRoles, List.foldlM_cons, executor]
  dsimp only
  cases CommandExecutor.ofSpec p.compile name spec with
  | error e => rfl
  | ok e => rfl

/-- Roles that passed their checks, none of which is bound yet, are bound one after the other. -/
theorem exists_registerRoles {roles : Dict RoleSpec} (withMemory : Bool)
    (h : Prepared options policy now [] c)
    (hsound : ∀ e ∈ roles, e.2.Sound fun t => (p.compile t).isSome)
    (hnew : ∀ name ∈ Dict.keys roles, c.core.registry.find? name = none)
    (hnd : (Dict.keys roles).Nodup) :
    ∃ c', p.registerRoles withMemory roles c = .ok c' ∧ Prepared options policy now [] c' ∧
      (∀ name, name ∉ Dict.keys roles →
        c'.core.registry.find? name = c.core.registry.find? name) ∧
      ∀ name spec, (name, spec) ∈ roles → ∃ e, p.executor withMemory name spec = .ok e ∧
        c'.core.registry.find? name = some e := by
  induction roles generalizing c with
  | nil => exact ⟨c, rfl, h, fun _ _ => rfl, nofun⟩
  | cons entry roles ih =>
    obtain ⟨name, spec⟩ := entry
    obtain ⟨hhead, htail⟩ := List.forall_mem_cons.1 hsound
    obtain ⟨hfirst, hrest⟩ := List.forall_mem_cons.1 hnew
    obtain ⟨hnot, hnd⟩ := List.nodup_cons.1 hnd
    obtain ⟨e, he⟩ := exists_executor hhead withMemory name
    have hunbound : c.core.registry.contains name = false := Option.isSome_eq_false_iff.2
      (Option.isNone_iff_eq_none.2 hfirst)
    obtain ⟨c₁, hregister, hprepared, hexecutors⟩ := h.register e hunbound
    have hfind : ∀ role, c₁.core.registry.find? role =
        if role = name then some e else c.core.registry.find? role := fun role => by
      rw [Registry.find?, hexecutors, Dict.find?_insert]
      rfl
    have hnew' : ∀ role ∈ Dict.keys roles, c₁.core.registry.find? role = none :=
      fun role hrole => by
        have hne : role ≠ name := fun heq => hnot (heq ▸ hrole)
        rw [hfind, if_neg hne]
        exact hrest role hrole
    obtain ⟨c', hroles, hprepared', hother, hserved⟩ := ih hprepared htail hnew' hnd
    refine ⟨c', ?_, hprepared', fun role hrole => ?_, fun role spec' hmem => ?_⟩
    · rw [registerRoles_cons, he]
      show (c.register name e >>= fun c => p.registerRoles withMemory roles c) = .ok c'
      rw [hregister]
      exact hroles
    · obtain ⟨hne, hrole⟩ := not_or.1 fun hmem => hrole (List.mem_cons.2 hmem)
      rw [hother role hrole, hfind, if_neg hne]
    · rcases List.mem_cons.1 hmem with heq | hmem
      · obtain ⟨rfl, rfl⟩ := Prod.mk.inj heq
        exact ⟨e, he, by rw [hother role hnot, hfind, if_pos rfl]⟩
      · exact hserved role spec' hmem

/-- The roles that are bound are those that have been bound. -/
theorem contains_iff {roles : Dict RoleSpec} {name : RoleName}
    (hother : ∀ name, name ∉ Dict.keys roles → c.core.registry.find? name = none)
    (hserved : ∀ name spec, (name, spec) ∈ roles → ∃ e, p.executor withMemory name spec = .ok e ∧
      c.core.registry.find? name = some e) :
    c.core.registry.contains name = true ↔ name ∈ Dict.keys roles := by
  constructor
  · intro hname
    by_contra hnot
    rw [Registry.contains, Dict.has, ← Registry.find?, hother name hnot] at hname
    cases hname
  · intro hname
    obtain ⟨⟨name, spec⟩, hmem, rfl⟩ := List.mem_map.1 hname
    obtain ⟨e, -, hfind⟩ := hserved name spec hmem
    exact Option.isSome_iff_exists.2 ⟨e, hfind⟩

/-! ## Tasks -/

/-- Tasks are submitted one after the other; a name without an entry is passed over. -/
theorem submitTasks_cons {id : TaskId} :
    submitTasks now ⟨d, id :: order⟩ c =
      match Dict.find? d.tasks id with
      | none => submitTasks now ⟨d, order⟩ c
      | some t => (do
        let r ← c.submit now id t.role t.description t.after
        submitTasks now ⟨d, order⟩ r.2) := by
  rw [submitTasks, List.foldlM_cons]
  cases Dict.find? d.tasks id with
  | none => rfl
  | some t => dsimp only; cases c.submit now id t.role t.description t.after <;> rfl

/-- Tasks of bound roles, whose names are not taken, are submitted one after the other. -/
theorem exists_submitTasks {specs : List Submission}
    (h : Prepared options policy now specs c)
    (hroles : ∀ spec ∈ d.submissions order, c.core.registry.contains spec.role = true)
    (hnd : ((specs ++ d.submissions order).map (·.id)).Nodup) :
    ∃ c', submitTasks now ⟨d, order⟩ c = .ok c' ∧
      Prepared options policy now (specs ++ d.submissions order) c' ∧
      c'.core.registry = c.core.registry := by
  induction order generalizing c specs with
  | nil => exact ⟨c, rfl, by simpa [Draft.submissions] using h, rfl⟩
  | cons id order ih =>
    rw [submitTasks_cons]
    cases hfind : Dict.find? d.tasks id with
    | none =>
      have hcons : d.submissions (id :: order) = d.submissions order :=
        List.filterMap_cons_none (by rw [hfind]; rfl)
      rw [hcons] at hroles hnd ⊢
      exact ih h hroles hnd
    | some task =>
      have hcons : d.submissions (id :: order) =
          ⟨id, task.role, task.description, task.after⟩ :: d.submissions order :=
        List.filterMap_cons_some (by rw [hfind]; rfl)
      rw [hcons] at hroles hnd ⊢
      obtain ⟨hrole, hroles⟩ := List.forall_mem_cons.1 hroles
      have hnew : id ∉ specs.map (·.id) := by
        rw [List.map_append] at hnd
        exact fun hmem => (List.nodup_append.1 hnd).2.2 id hmem id List.mem_cons_self rfl
      obtain ⟨t, c₁, hsubmit, hprepared, hregistry⟩ := h.submit hrole hnew
      rw [List.append_cons] at hnd ⊢
      obtain ⟨c', htasks, hprepared', hregistry'⟩ := ih hprepared (hregistry ▸ hroles) hnd
      refine ⟨c', ?_, hprepared', hregistry'.trans hregistry⟩
      show (c.submit now id task.role task.description task.after >>= fun r =>
        submitTasks now ⟨d, order⟩ r.2) = .ok c'
      rw [hsubmit]
      exact htasks

/-! ## Starting -/

/-- If nothing is requested or shut down and every call that ends has succeeded, all tasks of a
workflow have completed when a run returns. -/
theorem completed_of_prepared {steps : List (Step CommandExecutor)} {summary : RunSummary}
    (h : Prepared options policy now (d.submissions order) c) (horder : d.IsOrder order)
    (hkeys : (Dict.keys d.tasks).Nodup)
    (hsteps : ∀ step ∈ steps, ¬step.IsRequest ∧ step ≠ .shutdown)
    (hsuccess : ∀ id ending, .ended id ending ∈ c.journal steps → ∃ v, ending = .returned (.ok v))
    (hreturns : c.Returns steps summary) :
    summary = ⟨sortedStrings (Dict.keys d.tasks), [], [], [], false⟩ ∧
      ∀ id ∈ Dict.keys d.tasks, (c.after steps).core.scheduler.status? id = some .completed := by
  have hids := horder.map_id_submissions
  have hnd : ((d.submissions order).map (·.id)).Nodup := by
    rw [hids]
    exact horder.nodup
  obtain ⟨hsummary, hall⟩ := h.completed hnd (horder.ordered hkeys) hsteps hsuccess hreturns
  have hsorted : sortedStrings order = sortedStrings (Dict.keys d.tasks) :=
    (ascending_sortedStrings horder.nodup).eq_of_mem_iff (ascending_sortedStrings hkeys)
      fun id => by rw [mem_sortedStrings, mem_sortedStrings, horder.perm.mem_iff]
  rw [hids, hsorted] at hsummary
  refine ⟨hsummary, fun id hid => ?_⟩
  obtain ⟨⟨id, spec⟩, hmem, rfl⟩ := List.mem_map.1 hid
  exact hall _ (horder.submission_of_mem hkeys hmem)

/-- The session of a coordinator that has been prepared carries the run to its end. -/
theorem exists_session {σ : Type} [Store σ] {specs : List Submission}
    (h : Prepared options policy now specs c) (hlimit : options.maxConcurrency ≠ some 0)
    (p : Program) (store : σ) (later : Instant) :
    ∃ steps summary, (∀ step ∈ steps, step.Executes p.host c.core.registry) ∧
      c.Returns (.begin later :: steps) summary ∧
      (p.session later c store).coordinator = c.after (.begin later :: steps) ∧
      (p.session later c store).summary = some summary := by
  -- Nothing has been called yet.
  have hcalls : c.calls = [] := by
    have hperm := h.accounted.calls
    rw [called, List.filterMap_nil, List.map_nil, List.nil_perm, List.append_eq_nil_iff,
      List.map_eq_nil_iff] at hperm
    exact hperm.1
  have hserved : c.Served := by
    rw [Served, hcalls]
    exact List.forall_mem_nil _
  exact Session.exists_finish (s := ⟨c, store, later, [], [.info, .debug], none⟩) h.accounted hserved
    hlimit h.phase_eq rfl p.host p.digest

/-- A coordinator that has been given the tasks of a workflow, and its roles, has started. -/
theorem started_of_prepared {isPattern : String → Bool}
    (h : Prepared options (o.policy.getD d.settings.failurePolicy) now (d.submissions order) c)
    (hsound : d.Sound isPattern) (horder : d.IsOrder order)
    (hkeys : (Dict.keys d.tasks).Nodup)
    (hlimit : options.maxConcurrency = o.maxConcurrency.orElse fun _ => d.settings.maxConcurrency)
    (hpositive : options.maxConcurrency ≠ some 0)
    (hwait : Workflow.pollInterval ⟨d, order⟩ = .ok options.pollInterval)
    (hbound : ∀ name, name ∉ Dict.keys d.roles → c.core.registry.find? name = none)
    (hserved : ∀ name spec, (name, spec) ∈ d.roles → ∃ e,
      p.executor d.settings.workspace.isSome name spec = .ok e ∧
        c.core.registry.find? name = some e) : p.Started o ⟨d, order⟩ c := by
  have hids := horder.map_id_submissions
  have hhas : ∀ id, c.core.scheduler.has id = true ↔ id ∈ Dict.keys d.tasks := fun id => by
    rw [h.filled.has_iff, hids]
    exact horder.perm.mem_iff
  have hoptions := h.accounted.options_eq
  have hcontains : ∀ name, c.core.registry.contains name = true ↔ name ∈ Dict.keys d.roles :=
    fun _ => contains_iff hbound hserved
  refine ⟨h.policy_eq, hoptions ▸ hlimit, hoptions ▸ hwait, hcontains, hserved, hhas, ?_, ?_, ?_,
    fun _ _ => completed_of_prepared h horder hkeys, ?_⟩
  · intro id spec hmem
    exact ⟨_, h.filled.task?_eq (horder.submission_of_mem hkeys hmem), rfl, rfl, rfl, rfl⟩
  · intro id spec hmem
    exact ⟨h.filled.remaining?_eq (horder.submission_of_mem hkeys hmem),
      fun x hx => (hhas x).2 (hsound.after _ hmem x hx).2⟩
  · intro outcome later
    obtain ⟨turns, summary, hturns, hreturns, -⟩ :=
      h.accounted.exists_returns_begin hpositive h.phase_eq outcome later
    exact ⟨turns, summary, hturns, hreturns⟩
  · intro σ _ store later
    obtain ⟨steps, summary, hsteps, hreturns, hafter, hsummary⟩ :=
      exists_session h hpositive p store later
    refine ⟨summary, hsummary, fun hsuccess => ?_⟩
    rw [hafter]
    refine completed_of_prepared h horder hkeys (List.forall_mem_cons.2 ⟨⟨id, nofun⟩,
      fun step hstep => Step.Executes.goesOn (hsteps step hstep)⟩)
      (fun id ending hended => ?_) hreturns
    refine Step.Executes.ended_success hsteps (fun e a hfind => ?_) hended
    -- The executor that is called is that of a role of the workflow.
    have hrole : a.role ∈ Dict.keys d.roles :=
      (hcontains a.role).1 (Option.isSome_iff_exists.2 ⟨e, hfind⟩)
    obtain ⟨⟨name, spec⟩, hmem, hname⟩ := List.mem_map.1 hrole
    obtain rfl : name = a.role := hname
    obtain ⟨e', he', hfind'⟩ := hserved _ spec hmem
    obtain rfl := Option.some.inj (hfind.symm.trans hfind')
    exact hsuccess _ spec e hmem he' a

/-- A workflow that is accepted is prepared without an error, under every policy and every limit that
lets tasks run, and all that a run needs is there then. -/
theorem exists_prepare_eq_ok
    (h : Workflow.ofDraft (fun text => (p.compile text).isSome) d = .ok w)
    (hroles : (Dict.keys d.roles).Nodup) (htasks : (Dict.keys d.tasks).Nodup)
    (hlimit : o.maxConcurrency ≠ some 0) :
    ∃ c, p.prepare o now w = .ok c ∧ p.Started o w c := by
  obtain ⟨hsound, hdraft, horder⟩ := Draft.ofDraft_eq_ok_iff.1 h
  obtain ⟨d', order⟩ := w
  obtain rfl : d' = d := hdraft
  have hisOrder : d'.IsOrder order := hsound.isOrder htasks horder
  obtain ⟨wait, hparse⟩ := hsound.pollInterval
  have hwait : Workflow.pollInterval ⟨d', order⟩ = .ok wait := by
    simp only [Workflow.pollInterval, hparse]
  have hpositive : (o.maxConcurrency.orElse fun _ => d'.settings.maxConcurrency) ≠ some 0 := by
    cases hm : o.maxConcurrency with
    | none => exact hsound.limit
    | some m =>
      rw [hm] at hlimit
      exact hlimit
  obtain ⟨c₀, hnew⟩ : ∃ c₀ : Coordinator CommandExecutor,
      Coordinator.new (o.policy.getD d'.settings.failurePolicy)
        ⟨o.maxConcurrency.orElse fun _ => d'.settings.maxConcurrency, wait⟩ = .ok c₀ :=
    exists_new_eq_ok hpositive
  have hempty : ∀ name, c₀.core.registry.find? name = none := fun name => by
    rw [new_eq_ok hnew]
    rfl
  obtain ⟨c₁, hregistered, hprepared₁, hother, hserved⟩ := exists_registerRoles
    d'.settings.workspace.isSome (Prepared.new hnew now) hsound.roles (fun name _ => hempty name)
    hroles
  have hbound : ∀ spec ∈ d'.submissions order, c₁.core.registry.contains spec.role = true := by
    intro spec hspec
    have hrole := hsound.taskRoles _ (Draft.mem_submissions htasks hspec)
    obtain ⟨⟨name, role⟩, hmem, hname⟩ := List.mem_map.1 hrole
    obtain rfl : name = spec.role := hname
    obtain ⟨e, -, hfind⟩ := hserved _ role hmem
    exact Option.isSome_iff_exists.2 ⟨e, hfind⟩
  obtain ⟨c, hsubmitted, hprepared, hregistry⟩ := exists_submitTasks hprepared₁ hbound (by
      rw [List.nil_append, hisOrder.map_id_submissions]
      exact hisOrder.nodup)
  refine ⟨c, ?_, started_of_prepared hprepared hsound hisOrder htasks rfl hpositive hwait
    (fun name hname => ?_) (hregistry ▸ hserved)⟩
  rotate_left
  · rw [hregistry, hother name hname, hempty]
  have hprepare : p.prepare o now ⟨d', order⟩ = (do
      let c ← p.registerRoles d'.settings.workspace.isSome d'.roles c₀
      submitTasks now ⟨d', order⟩ c) := by
    simp only [prepare, hwait]
    show (Coordinator.new _ _ >>= _) = _
    rw [hnew]
    rfl
  rw [hprepare, hregistered]
  exact hsubmitted

end

/-- A program that takes every text for a pattern, and whose commands write nothing. -/
def silent : Program where
  host := fun _ => .ok (⟨.exited 0, [], []⟩, ⟨0⟩)
  digest := id
  compile := fun _ => some fun _ => false
  folder := "/"

/-- Three tasks of a role with all that a role can have; two of them come after others, and one lists
another twice. -/
def chain : Workflow where
  draft :=
    { settings := ⟨some 2, .cascade, "500ms", some "state"⟩
      roles := [("r", ⟨"make", some "^error", some "5m", [("k", .null)]⟩)]
      tasks := [("a", ⟨"r", "", ["b", "c", "b"]⟩), ("b", ⟨"r", "", []⟩), ("c", ⟨"r", "", ["b"]⟩)] }
  order := ["b", "c", "a"]

/-- What is executed for this role succeeds. -/
theorem execute_silent {name : RoleName} {spec : RoleSpec} {e : CommandExecutor}
    (hmem : (name, spec) ∈ chain.draft.roles) (he : silent.executor true name spec = .ok e)
    (a : Assignment) : ∃ v, (e.execute silent.host a).1 = .ok v := by
  obtain ⟨rfl, rfl⟩ := Prod.mk.inj (List.mem_singleton.1 hmem)
  obtain rfl : (⟨"r", "make", some fun _ => false, some (.ofSeconds 300),
    some ⟨"r", [("k", .null)]⟩⟩ : CommandExecutor) = e := Except.ok.inj he
  exact ⟨_, rfl⟩

/-- A workflow of three tasks starts under another policy and another limit than its own, and its run
completes all of them. -/
theorem started_chain :
    Workflow.ofDraft (fun text => (silent.compile text).isSome) chain.draft = .ok chain ∧
      (Dict.keys chain.draft.roles).Nodup ∧ (Dict.keys chain.draft.tasks).Nodup ∧
      ∃ c, silent.prepare ⟨"", none, false, some 1, some .block, false⟩ ⟨0⟩ chain = .ok c ∧
        silent.Started ⟨"", none, false, some 1, some .block, false⟩ chain c ∧
        (silent.session ⟨0⟩ c MemoryStore.empty).summary =
          some ⟨["a", "b", "c"], [], [], [], false⟩ := by
  have haccepted : Workflow.ofDraft (fun text => (silent.compile text).isSome) chain.draft =
      .ok chain := by decide +kernel
  have hroles : (Dict.keys chain.draft.roles).Nodup := by decide
  have htasks : (Dict.keys chain.draft.tasks).Nodup := by decide
  obtain ⟨c, hprepared, hstarted⟩ :=
    exists_prepare_eq_ok (o := ⟨"", none, false, some 1, some .block, false⟩) haccepted hroles htasks
      (by decide)
  obtain ⟨summary, hsummary, hcompletes⟩ := hstarted.performs _ MemoryStore.empty ⟨0⟩
  obtain ⟨rfl, -⟩ := hcompletes fun name spec e hmem he a => execute_silent hmem he a
  refine ⟨haccepted, hroles, htasks, c, hprepared, hstarted, hsummary.trans ?_⟩
  have hsorted : sortedStrings (Dict.keys chain.draft.tasks) = ["a", "b", "c"] :=
    List.mergeSort_of_pairwise (by decide)
  rw [hsorted]

end Program

end Taskweave
