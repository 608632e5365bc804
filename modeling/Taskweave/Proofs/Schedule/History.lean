import Taskweave.Proofs.Schedule.Lifecycle

/-!
# What a caller sees of a run

A run of a scheduler leaves behind a list of occurrences (`Scheduler.history`): the submissions that
were accepted, the assignments that were handed out, and the outcomes that were accepted. An outcome
is accepted for a task in flight; any other is ignored and leaves no occurrence. `Recorded` relates
such a list to the scheduler at its end, and `Recorded.perform` is the step that carries it along a
run. From it come what a task needs before it is handed out (`Justified`) and that it is handed out
once.
-/

namespace Taskweave

/-- What happens in a run, as its caller sees it. -/
inductive Occurrence where
  /-- A submission that listed these dependencies was answered with a record. -/
  | submitted (listed : List TaskId) (task : Task)
  | handedOut (assignment : Assignment)
  /-- An outcome was accepted. -/
  | ended (id : TaskId) (outcome : Outcome)

namespace Occurrence

/-- What was handed out, in order. -/
def assignments (history : List Occurrence) : List Assignment :=
  history.filterMap fun
    | .handedOut a => some a
    | _ => none

/-- What a history has to show before `a` is handed out: the task was submitted, each dependency it
listed has ended with a success, and the results it is given are exactly these. -/
def Justified (history : List Occurrence) (a : Assignment) : Prop :=
  ∃ listed t, .submitted listed t ∈ history ∧
    a.id = t.id ∧ a.role = t.role ∧ a.description = t.description ∧
    (∀ d ∈ listed, ∃ v, .ended d (.success v) ∈ history) ∧
    (Dict.keys a.dependencyResults).Nodup ∧
    (∀ d, d ∈ Dict.keys a.dependencyResults ↔ d ∈ listed) ∧
    ∀ d v, Dict.find? a.dependencyResults d = some v ↔
      d ∈ listed ∧ .ended d (.success v) ∈ history

section
variable {history later : List Occurrence} {as : List Assignment} {a : Assignment}

@[simp] theorem assignments_append :
    assignments (history ++ later) = assignments history ++ assignments later :=
  List.filterMap_append

@[simp] theorem assignments_map_handedOut : assignments (as.map .handedOut) = as := by
  induction as with
  | nil => rfl
  | cons a as ih => exact congrArg (a :: ·) ih

/-- An assignment was handed out if it is among those handed out. -/
theorem mem_assignments : a ∈ assignments history ↔ .handedOut a ∈ history := by
  rw [assignments, List.mem_filterMap]
  constructor
  · rintro ⟨o, ho, he⟩
    cases o with
    | handedOut b => exact Option.some.inj he ▸ ho
    | submitted | ended => cases he
  · exact fun h => ⟨_, h, rfl⟩

/-- Handing out other tasks takes no justification away. -/
theorem Justified.append (h : Justified history a) (as : List Assignment) :
    Justified (history ++ as.map .handedOut) a := by
  have hsub : ∀ listed t, .submitted listed t ∈ history ++ as.map .handedOut ↔
      .submitted listed t ∈ history := by simp
  have hend : ∀ d v, .ended d (.success v) ∈ history ++ as.map .handedOut ↔
      .ended d (.success v) ∈ history := by simp
  obtain ⟨listed, t, ht, hid, hrole, hdesc, hended, hnd, hkeys, hfind⟩ := h
  refine ⟨listed, t, (hsub listed t).2 ht, hid, hrole, hdesc, fun d hd => ?_, hnd, hkeys,
    fun d v => ?_⟩
  · obtain ⟨v, hv⟩ := hended d hd
    exact ⟨v, (hend d v).2 hv⟩
  · rw [hfind, hend]

end

end Occurrence

open Occurrence

namespace Scheduler

/-- What a caller sees of one operation. -/
def occurrences (s : Scheduler) : Operation → List Occurrence
  | .submit now id role description dependencies =>
    match s.submit now id role description dependencies with
    | .ok (t, _) => [.submitted dependencies t]
    | .error _ => []
  | .dispatch now limit => (s.dispatch now limit).1.map .handedOut
  | .complete _ id outcome => if id ∈ s.inFlight then [.ended id outcome] else []

/-- What a caller sees of a run. -/
def history (s : Scheduler) : List Operation → List Occurrence
  | [] => []
  | op :: ops => s.occurrences op ++ (s.perform op).history ops

end Scheduler

open Scheduler

/-- A history tells what its scheduler `s` knows. -/
structure Recorded (history : List Occurrence) (s : Scheduler) : Prop where
  coherent : s.Coherent
  fits : s.AllFit
  submitted : ∀ listed t, .submitted listed t ∈ history →
    s.profile? t.id = some t.profile ∧ t.dependencies = listed.eraseDups
  known : ∀ id p, s.profile? id = some p →
    ∃ listed t, .submitted listed t ∈ history ∧ t.profile = p
  begun : ∀ a, .handedOut a ∈ history → ∃ status, s.status? a.id = some status ∧ status.HasBegun
  succeeded : ∀ id v, .ended id (.success v) ∈ history ↔ s.Yields id v
  once : ((assignments history).map (·.id)).Nodup
  /-- Each assignment is justified by what comes before it. -/
  justified : ∀ before a after, history = before ++ .handedOut a :: after → Justified before a

section
variable {history : List Occurrence} {s : Scheduler} {a : Assignment} {x : TaskId}

/-- There is nothing to tell of a scheduler without tasks. -/
theorem Recorded.new (policy : FailurePolicy) : Recorded [] (Scheduler.new policy) where
  coherent := .new policy
  fits := .new policy
  submitted listed t ht := by cases ht
  known id p hp := by cases hp
  begun a ha := by cases ha
  succeeded id v := ⟨nofun, by rintro ⟨t, ht, -⟩; cases ht⟩
  once := List.nodup_nil
  justified before a after h := by
    cases before with
    | nil => cases h
    | cons => cases h

/-- The tasks are those that were submitted. -/
theorem Recorded.has_iff (h : Recorded history s) :
    s.has x = true ↔ ∃ listed t, .submitted listed t ∈ history ∧ t.id = x := by
  constructor
  · intro hx
    obtain ⟨t, ht⟩ := Option.isSome_iff_exists.1 hx
    obtain ⟨listed, t₀, ht₀, hprof⟩ := h.known x _ (profile?_of_task? ht)
    exact ⟨listed, t₀, ht₀, (congrArg Task.Profile.id hprof).trans (mem_of_record? ht).2⟩
  · rintro ⟨listed, t, ht, rfl⟩
    obtain ⟨t', ht', -⟩ := Option.map_eq_some_iff.1 (h.submitted listed t ht).1
    exact Option.isSome_iff_exists.2 ⟨t', ht'⟩

/-- A pending task that is about to be handed out is justified by the history so far. -/
theorem Recorded.justified_assignment (h : Recorded history s) (hx : s.status? x = some .pending)
    (ha : s.assignment? x = some a) : Justified history a := by
  obtain ⟨t, ht, rfl⟩ := assignment?_eq_some ha
  have hp := profile?_of_task? ht
  obtain ⟨listed, t₀, ht₀, hprof⟩ := h.known x _ hp
  have hlisted := (h.submitted listed t₀ ht₀).2
  have hdeps : t.dependencies = listed.eraseDups := by
    rw [← hlisted, ← Task.profile_dependencies, ← hprof, Task.profile_dependencies]
  have hmem : ∀ d, d ∈ t.dependencies ↔ d ∈ listed := fun d => by rw [hdeps, List.mem_eraseDups]
  have hid : t.id = x := (mem_of_record? ht).2
  have hdone : ∀ d ∈ listed, ∃ v, s.Yields d v := fun d hd =>
    h.fits.exists_yields (h.coherent.satisfied hp hx (by decide) (by decide) d ((hmem d).2 hd))
  have hfind : ∀ d v, Dict.find? (s.resultsOf t.dependencies) d = some v ↔
      d ∈ listed ∧ .ended d (.success v) ∈ history := fun d v => by
    rw [find?_resultsOf, h.succeeded, h.fits.yields_iff, ← hmem]
    split
    · next hd => exact ⟨fun hv => ⟨hd, hv⟩, And.right⟩
    · next hd => exact ⟨nofun, fun hand => absurd hand.1 hd⟩
  refine ⟨listed, t₀, ht₀, ?_, (congrArg Task.Profile.role hprof).symm,
    (congrArg Task.Profile.description hprof).symm, fun d hd => ?_,
    (Dict.ascending_ofList _).nodup, fun d => ?_, hfind⟩
  · exact hid.symm.trans (congrArg Task.Profile.id hprof).symm
  · obtain ⟨v, hv⟩ := hdone d hd
    exact ⟨v, (h.succeeded d v).2 hv⟩
  · rw [← Dict.find?_isSome_iff, Option.isSome_iff_exists]
    constructor
    · rintro ⟨v, hv⟩
      exact ((hfind d v).1 hv).1
    · intro hd
      obtain ⟨v, hv⟩ := hdone d hd
      exact ⟨v, (hfind d v).2 ⟨hd, (h.succeeded d v).2 hv⟩⟩

/-- What the operations leave of the tasks that were handed out. -/
theorem Recorded.begun_perform (h : Recorded history s) (op : Operation)
    (ha : .handedOut a ∈ history) :
    ∃ status, (s.perform op).status? a.id = some status ∧ status.HasBegun := by
  obtain ⟨status, hst, hbegun⟩ := h.begun a ha
  obtain ⟨t, ht, rfl⟩ := exists_task?_of_status? hst
  obtain ⟨t', ht', hmove⟩ := h.coherent.move_perform op ht
  exact ⟨t'.status, status?_of_task? ht', hmove.hasBegun hbegun⟩

/-- A step that hands nothing out, and after which the tasks yield what it tells of. -/
theorem Recorded.extend {op : Operation} {new : List Occurrence} (h : Recorded history s)
    (hnone : ∀ a, .handedOut a ∉ new)
    (hsub : ∀ listed t, .submitted listed t ∈ new →
      (s.perform op).profile? t.id = some t.profile ∧ t.dependencies = listed.eraseDups)
    (hknown : ∀ id p, (s.perform op).profile? id = some p → s.profile? id = some p ∨
      ∃ listed t, .submitted listed t ∈ new ∧ t.profile = p)
    (hyield : ∀ id v, (s.perform op).Yields id v ↔
      s.Yields id v ∨ .ended id (.success v) ∈ new) :
    Recorded (history ++ new) (s.perform op) where
  coherent := h.coherent.perform op
  fits := h.fits.perform h.coherent op
  submitted listed t ht := by
    rcases List.mem_append.1 ht with ht | ht
    · obtain ⟨hp, hdeps⟩ := h.submitted listed t ht
      exact ⟨h.coherent.profile?_perform op hp, hdeps⟩
    · exact hsub listed t ht
  known id p hp := by
    rcases hknown id p hp with hp | ⟨listed, t, ht, rfl⟩
    · obtain ⟨listed, t, ht, rfl⟩ := h.known id p hp
      exact ⟨listed, t, List.mem_append_left _ ht, rfl⟩
    · exact ⟨listed, t, List.mem_append_right _ ht, rfl⟩
  begun a ha := h.begun_perform op ((List.mem_append.1 ha).resolve_right (hnone a))
  succeeded id v := by rw [List.mem_append, h.succeeded, hyield]
  once := by
    have hnil : assignments new = [] := List.eq_nil_iff_forall_not_mem.2 fun a ha =>
      hnone a (mem_assignments.1 ha)
    rw [assignments_append, hnil, List.append_nil]
    exact h.once
  justified before a after heq := by
    rcases List.append_eq_append_iff.1 heq with ⟨rest, rfl, hnew⟩ | ⟨rest, rfl, hnew⟩
    · exact absurd (hnew ▸ List.mem_append_right rest List.mem_cons_self) (hnone a)
    · cases rest with
      | nil =>
        rw [List.nil_append] at hnew
        exact absurd (hnew ▸ List.mem_cons_self) (hnone a)
      | cons o rest =>
        obtain ⟨rfl, -⟩ := List.cons.inj hnew
        exact h.justified before a rest rfl

/-- What a dispatch hands out is justified, and was not handed out before. -/
theorem Recorded.dispatch (h : Recorded history s) (now : Instant) (limit : Option Nat) :
    Recorded (history ++ (s.dispatch now limit).1.map .handedOut) (s.dispatch now limit).2 := by
  have hc := h.coherent
  have hpending : ∀ x ∈ s.taken limit, s.status? x = some .pending := fun x hx =>
    (hc.startable.2 x hx).1
  have hids : (s.dispatch now limit).1.map (·.id) = s.taken limit := hc.map_id_dispatch
  refine ⟨hc.dispatched now limit, h.fits.perform hc (.dispatch now limit), fun listed t ht => ?_,
    fun id p hp => ?_, fun a ha => ?_, fun id v => ?_, ?_, fun before a after heq => ?_⟩
  · obtain ⟨hp, hdeps⟩ := h.submitted listed t (by simpa using ht)
    exact ⟨hc.profile?_perform (.dispatch now limit) hp, hdeps⟩
  · rw [profile?_congr hc.outline_dispatch] at hp
    obtain ⟨listed, t, ht, hprof⟩ := h.known id p hp
    exact ⟨listed, t, List.mem_append_left _ ht, hprof⟩
  · rcases List.mem_append.1 ha with ha | ha
    · exact h.begun_perform (.dispatch now limit) ha
    · obtain ⟨b, hb, he⟩ := List.mem_map.1 ha
      obtain rfl := Occurrence.handedOut.inj he
      have hx : b.id ∈ s.taken limit := hids ▸ List.mem_map_of_mem hb
      exact ⟨.inProgress, by rw [hc.status?_dispatch, if_pos hx], nofun, nofun⟩
  · rw [List.mem_append, h.succeeded, yields_congr (fun ht => hc.move_dispatch ht)
      hc.isCompleted_dispatch]
    simp
  · rw [assignments_append, assignments_map_handedOut, List.map_append, hids, List.nodup_append]
    refine ⟨h.once, hc.startable.1, fun x hx y hy hxy => ?_⟩
    obtain ⟨a, ha, rfl⟩ := List.mem_map.1 hx
    obtain ⟨status, hst, hbegun⟩ := h.begun a (mem_assignments.1 ha)
    rw [hxy, hpending y hy] at hst
    exact hbegun.1 (Option.some.inj hst).symm
  · rcases List.append_eq_append_iff.1 heq with ⟨rest, rfl, hnew⟩ | ⟨rest, rfl, hnew⟩
    · -- The assignment is one of those that this dispatch hands out.
      obtain ⟨earlier, later, has, hearlier, hlater⟩ := List.map_eq_append_iff.1 hnew
      obtain ⟨b, later, rfl, hb, -⟩ := List.map_eq_cons_iff.1 hlater
      obtain rfl := Occurrence.handedOut.inj hb
      obtain ⟨x, hx, hassign⟩ :=
        hc.mem_dispatch.1 (has ▸ List.mem_append_right _ List.mem_cons_self)
      rw [← hearlier]
      exact (h.justified_assignment (hpending x hx) hassign).append earlier
    · cases rest with
      | nil =>
        rw [List.nil_append] at hnew
        obtain ⟨b, later, has, hb, -⟩ := List.map_eq_cons_iff.1 hnew.symm
        obtain rfl := Occurrence.handedOut.inj hb
        obtain ⟨x, hx, hassign⟩ := hc.mem_dispatch.1 (has ▸ List.mem_cons_self)
        rw [List.append_nil] at h
        exact h.justified_assignment (hpending x hx) hassign
      | cons o rest =>
        obtain ⟨rfl, -⟩ := List.cons.inj hnew
        exact h.justified before a rest rfl

/-- An operation adds to the history what the caller sees of it. -/
theorem Recorded.perform (h : Recorded history s) (op : Operation) :
    Recorded (history ++ s.occurrences op) (s.perform op) := by
  have hc := h.coherent
  cases op with
  | submit now id role description deps =>
    cases hs : s.submit now id role description deps with
    | error e => simpa only [Scheduler.perform, occurrences, hs, List.append_nil] using h
    | ok r =>
      have hacc := (enters_of_submit hs).accepted hc
      have hperform : s.perform (.submit now id role description deps) = r.2 := by
        simp only [Scheduler.perform, hs]
      have hid : r.1.id = id := congrArg Task.Profile.id hacc.profile_eq
      simp only [occurrences, hs]
      refine h.extend (by simp) (fun listed t ht => ?_) (fun x p hp => ?_) fun x v => ?_
      · obtain ⟨rfl, rfl⟩ := Occurrence.submitted.inj (List.mem_singleton.1 ht)
        rw [hperform, hid, profile?_of_task? hacc.task?_eq]
        exact ⟨rfl, congrArg Task.Profile.dependencies hacc.profile_eq⟩
      · rw [hperform, profile?_eq_find?, hacc.outline_eq, List.find?_append,
          ← profile?_eq_find?] at hp
        cases hx : s.profile? x with
        | some q => rw [hx] at hp; exact .inl hp
        | none =>
          rw [hx, Option.none_or] at hp
          have heq := List.mem_singleton.1 (List.mem_of_find?_eq_some hp)
          exact .inr ⟨deps, r.1, List.mem_singleton_self _, heq.symm⟩
      · rw [hperform, yields_congr (fun ht => hacc.move ht) (hacc.isCompleted_eq x)]
        simp
  | dispatch now limit => exact h.dispatch now limit
  | complete now id outcome =>
    have hknown : ∀ x p, (s.perform (.complete now id outcome)).profile? x = some p →
        s.profile? x = some p := fun x p hp =>
      (profile?_congr (hc.ends now id outcome).outline_eq x).symm.trans hp
    by_cases hfl : id ∈ s.inFlight
    · simp only [occurrences, if_pos hfl]
      refine h.extend (by simp) (by simp) (fun x p hp => .inl (hknown x p hp)) fun x v => ?_
      cases outcome with
      | success result =>
        have heq : s.perform (.complete now id (.success result)) = s.succeeded now id result := by
          simp only [Scheduler.perform]
          rw [complete_success hfl ((hc.mem_inFlight id).1 hfl) hc.nodup_dependentsOf]
        rw [heq, hc.yields_succeeded hfl]
        simp
      | failure error =>
        have hends := hc.ends now id (.failure error)
        rw [Scheduler.perform, yields_congr (fun ht => hends.move hc ht)
          (hends.isCompleted_failure hc)]
        simp
    · simpa only [Scheduler.perform, occurrences, if_neg hfl, List.append_nil,
        complete_of_not_mem hfl] using h

/-- A run adds to the history what the caller sees of it. -/
theorem Recorded.performAll (h : Recorded history s) (ops : List Operation) :
    Recorded (history ++ s.history ops) (s.performAll ops) := by
  induction ops generalizing s history with
  | nil =>
    rw [Scheduler.history, List.append_nil]
    exact h
  | cons op ops ih =>
    rw [Scheduler.history, ← List.append_assoc]
    exact ih (h.perform op)

/-- The history of a run tells what the scheduler knows at its end. -/
theorem recorded_history (policy : FailurePolicy) (ops : List Operation) :
    Recorded ((Scheduler.new policy).history ops) ((Scheduler.new policy).performAll ops) :=
  (Recorded.new policy).performAll ops

/-- A dependency succeeds with one result. -/
theorem Recorded.success_unique (h : Recorded history s) {v w : Json}
    (hv : .ended x (.success v) ∈ history) (hw : .ended x (.success w) ∈ history) : v = w := by
  obtain ⟨t, ht, -, hv⟩ := (h.succeeded x v).1 hv
  obtain ⟨t', ht', -, hw⟩ := (h.succeeded x w).1 hw
  obtain rfl : t = t' := Option.some.inj (ht.symm.trans ht')
  exact Option.some.inj (hv.symm.trans hw)

/-- Whatever is asked of a scheduler without tasks, it hands out no task twice, and each only after
every dependency that its submission listed has ended with a success, along with exactly the
results of these; a result may be `null`. No dependency succeeds a second time with another
result. -/
theorem handedOut_once_justified (policy : FailurePolicy) (ops : List Operation) :
    ((assignments ((Scheduler.new policy).history ops)).map (·.id)).Nodup ∧
      (∀ before a after, (Scheduler.new policy).history ops = before ++ .handedOut a :: after →
        Justified before a) ∧
      ∀ d v w, .ended d (.success v) ∈ (Scheduler.new policy).history ops →
        .ended d (.success w) ∈ (Scheduler.new policy).history ops → v = w :=
  have h := recorded_history policy ops
  ⟨h.once, h.justified, fun _ _ _ => h.success_unique⟩

end

end Taskweave
