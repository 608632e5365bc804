import Taskweave.Proofs.Run.Success
import Taskweave.Run.Session

/-!
# Sessions carry runs to their end

What happens in a session is steps of its coordinator: an event is received, or a call that has begun
ends as its command did (`Coordinator.Step.Executes`). While a run is under way something can always
happen (`Session.UnderWay.exists_advance`), and whatever it is brings the run nearer to its end:
`Session.left` counts down from the calls that can still begin, end and be received. A session goes on
for as many things as that can be, so that its run returns (`Session.exists_finish`).
-/

namespace Taskweave

open Scheduler Coordinator

variable {α σ : Type}

namespace Coordinator

/-- Every open call is with the executor of the role of its task. -/
def Served (c : Coordinator α) : Prop :=
  ∀ call ∈ c.calls, c.core.registry.find? call.assignment.role = some call.executor

/-- A step of a run whose calls are executed on a host: an event is received, a call ends with what the
executor of the role makes of its command, or the run returns. -/
def Step.Executes (host : Host) (registry : Registry CommandExecutor) :
    Step CommandExecutor → Prop
  | .receive _ | .conclude => True
  | .finish id ending => ∃ (e : CommandExecutor) (a : Assignment),
      registry.find? a.role = some e ∧ a.id = id ∧ ending = .returned (e.execute host a).1
  | .register _ _ | .submit _ _ _ _ _ | .announce _ | .begin _ | .wake _ | .shutdown => False

section
variable {c c' : Coordinator α} {options : RunOptions} {J : List (Entry α)} {now : Instant}
  {e : Event} {rest : List Event} {step : Step α} {steps : List (Step α)}
  {entries : List (Entry α)} {ops : List Operation} {specs : List Submission}
  {summary : RunSummary}

/-- Where nothing is requested no role is bound. -/
theorem registry_after (h : ∀ step ∈ steps, ¬step.IsRequest) :
    (c.after steps).core.registry = c.core.registry := by
  induction steps generalizing c with
  | nil => rfl
  | cons step steps ih =>
    obtain ⟨hstep, hsteps⟩ := List.forall_mem_cons.1 h
    have hregistration : step.isRegistration = false := by
      cases step with
      | register => exact absurd trivial hstep
      | submit | announce | begin | receive | wake | shutdown | conclude | finish => rfl
    exact (ih hsteps).trans ((c.acts step).registry_eq hregistration)

/-! ## Executors -/

/-- What is executed requests nothing and shuts nothing down. -/
theorem Step.Executes.goesOn {host : Host} {registry : Registry CommandExecutor}
    {step : Step CommandExecutor} (h : step.Executes host registry) :
    ¬step.IsRequest ∧ step ≠ .shutdown := by
  cases step with
  | receive | conclude | finish => exact ⟨id, nofun⟩
  | register | submit | announce | begin | wake | shutdown => exact h.elim

/-- A turn calls the executors of the roles. -/
theorem Accounted.served_wake (h : Accounted options J c) (hserved : c.Served) (now : Instant) :
    (c.wake now).Served := by
  obtain ⟨calls, hcollect, -, hfinds⟩ := h.coherent.collect_eq h.bound c.core.options now
  have hstartable : (c.startable now).1 = calls := congrArg Prod.fst hcollect
  rw [wake_eq]
  intro call hcall
  rcases List.mem_append.1 hcall with hcall | hcall
  · exact hserved call hcall
  · exact hfinds call (hstartable ▸ hcall)

/-- Open calls stay with the executors of their roles. -/
theorem Accounted.served_acts (h : Accounted options J c) (hserved : c.Served)
    (ha : c.Acts step entries ops specs c') : c'.Served := by
  cases ha with
  | nothing | announce | shutdown | conclude => exact hserved
  | begin | wake => exact h.served_wake hserved _
  | @receive now e rest _ he =>
    rw [receive_eq he]
    refine (h.taken now he).served_wake ?_ now
    cases e with
    | submitted | completed => exact hserved
  | finish => exact fun call hcall => hserved call (List.mem_filter.1 hcall).1
  | submit hs =>
    obtain ⟨-, s', -, rfl⟩ := accept_eq_ok hs
    exact hserved
  | @register _ role executor hr =>
    obtain ⟨registry, hreg, rfl⟩ := register_eq_ok hr
    intro call hcall
    have hfind := hserved call hcall
    rw [Registry.register] at hreg
    split at hreg
    · cases hreg
    · next hunbound =>
      cases hreg
      -- A role that is bound already is another one.
      have hne : call.assignment.role ≠ role := fun heq => hunbound (by
        rw [Registry.contains, Dict.has, ← Registry.find?, ← heq, hfind]
        rfl)
      exact (Dict.find?_insert ..).trans ((if_neg hne).trans hfind)

/-- No steps take a call to another executor. -/
theorem Accounted.served_after (h : Accounted options J c) (hserved : c.Served)
    (steps : List (Step α)) : (c.after steps).Served := by
  induction steps generalizing c J with
  | nil => exact hserved
  | cons step steps ih => exact ih (h.act step) (h.served_acts hserved (c.acts step))

/-- Calls end with a success if every execution is one. -/
theorem Step.Executes.ended_success {host : Host} {registry : Registry CommandExecutor}
    {c : Coordinator CommandExecutor} {steps : List (Step CommandExecutor)} {id : TaskId}
    {ending : CallEnd} (hsteps : ∀ step ∈ steps, step.Executes host registry)
    (hsuccess : ∀ e a, registry.find? a.role = some e → ∃ v, (e.execute host a).1 = .ok v)
    (hended : .ended id ending ∈ c.journal (.begin now :: steps)) :
    ∃ v, ending = .returned (.ok v) := by
  have hmem := (List.mem_cons.1 (finish_mem_of_ended hended)).resolve_left nofun
  obtain ⟨e, a, hfind, -, rfl⟩ := hsteps _ hmem
  obtain ⟨v, hv⟩ := hsuccess e a hfind
  exact ⟨v, by rw [hv]⟩

/-! ## Turns -/

/-- Receiving an event closes no call. -/
theorem calls_receive (he : c.events = e :: rest) :
    c.calls <+: (c.receive now).calls := by
  rw [receive_eq he, wake_eq]
  cases e <;> exact List.prefix_append _ _

/-- A turn leaves no more tasks to end. -/
theorem Accounted.unended_wake (h : Accounted options J c) (now : Instant) :
    (c.wake now).core.scheduler.unended.length ≤ c.core.scheduler.unended.length := by
  rw [h.scheduler_wake now]
  exact h.coherent.length_unended_dispatch_le

/-- Receiving an event leaves a task less to end if the event brings an outcome. -/
theorem Accounted.unended_receive (h : Accounted options J c) (he : c.events = e :: rest)
    (now : Instant) :
    (c.receive now).core.scheduler.unended.length + (outcomes [e]).length ≤
      c.core.scheduler.unended.length := by
  have hwake := (h.taken now he).unended_wake now
  rw [receive_eq he]
  cases e with
  | submitted id => exact hwake
  | completed id outcome =>
    exact Nat.lt_of_le_of_lt hwake (h.coherent.length_unended_complete_lt (h.mem_inFlight he))

/-! ## Returns -/

/-- A run that returns without an interruption leaves no call open. -/
theorem Accounted.calls_eq_nil (h : Accounted options J c) (hreturns : c.Returns steps summary)
    (hi : summary.interrupted = false) : (c.after steps).calls = [] := by
  obtain ⟨before, step, rfl, hover⟩ := hreturns
  rw [after_append]
  exact ((h.after before).rest_of_runOver (mem_summaries.1 hover) hi).1

end

end Coordinator

namespace Session

section
variable {s s' : Session σ} {host : Host} {digest : String → String}
  {options : RunOptions} {J : List (Entry CommandExecutor)} {summary : RunSummary} {fuel : Nat}

/-- How many things can still happen, at most: of each task that has not ended the call begins, ends
and its outcome is received, and the other events are received. -/
def left (s : Session σ) : Nat :=
  4 * s.coordinator.core.scheduler.unended.length + s.coordinator.events.length -
    (s.calls.length + 3 * (outcomes s.coordinator.events).length)

/-- As many things can happen as a session has a run go on for. -/
theorem left_le : s.left ≤
    4 * s.coordinator.core.scheduler.tasks.length + s.coordinator.events.length := by
  have hle : s.coordinator.core.scheduler.unended.length ≤
      s.coordinator.core.scheduler.tasks.length := length_unended_le
  rw [left]
  omega

/-- A run is under way, and the calls that have begun are open. -/
structure UnderWay (host : Host) (options : RunOptions) (J : List (Entry CommandExecutor))
    (s : Session σ) : Prop where
  accounted : Accounted options J s.coordinator
  served : s.coordinator.Served
  busy : s.coordinator.Busy
  /-- The run has not returned. -/
  summary_eq : s.summary = none
  begun_nodup : (s.calls.map (·.assignment.id)).Nodup
  begun : ∀ call ∈ s.calls, ⟨call.assignment, call.executor⟩ ∈ s.coordinator.calls ∧
    call.result = (call.executor.execute host call.assignment).1

/-! ## Calls -/

/-- A call that begins is open, and has not begun. -/
theorem nextCall?_eq_some {call : Dispatch CommandExecutor} (h : s.nextCall? = some call) :
    call ∈ s.coordinator.calls ∧ call.assignment.id ∉ s.calls.map (·.assignment.id) := by
  refine ⟨List.mem_of_find?_eq_some h, fun hmem => ?_⟩
  obtain ⟨begun, hbegun, hid⟩ := List.mem_map.1 hmem
  have hnew := List.find?_some h
  rw [Bool.not_eq_true', List.any_eq_false] at hnew
  exact hnew begun hbegun (beq_iff_eq.2 hid)

/-- If no call can begin, all open calls have begun. -/
theorem nextCall?_eq_none (h : s.nextCall? = none) {call : Dispatch CommandExecutor}
    (hcall : call ∈ s.coordinator.calls) :
    call.assignment.id ∈ s.calls.map (·.assignment.id) := by
  have hbegun := List.find?_eq_none.1 h call hcall
  rw [Bool.not_eq_true, Bool.not_eq_false', List.any_eq_true] at hbegun
  obtain ⟨begun, hmem, hid⟩ := hbegun
  exact List.mem_map.2 ⟨begun, hmem, beq_iff_eq.1 hid⟩

/-- Of calls that have begun, one returns first. -/
theorem exists_firstDue? : ∀ {calls : List OpenCall}, calls ≠ [] →
    ∃ call, firstDue? calls = some call ∧ call ∈ calls
  | [], h => absurd rfl h
  | [c], _ => ⟨c, rfl, List.mem_singleton_self c⟩
  | c :: d :: calls, _ => by
    obtain ⟨call, hcall, hmem⟩ := exists_firstDue? (List.cons_ne_nil d calls)
    rw [firstDue?, hcall]
    dsimp only
    split
    · exact ⟨call, rfl, List.mem_cons_of_mem _ hmem⟩
    · exact ⟨c, rfl, List.mem_cons_self⟩

/-! ## What happens next -/

/-- The calls that have begun are among the open ones, which with the outcomes to receive are among the
tasks that have not ended. -/
theorem UnderWay.bounds (h : UnderWay host options J s) :
    s.calls.length ≤ s.coordinator.calls.length ∧
      s.coordinator.calls.length + (outcomes s.coordinator.events).length ≤
        s.coordinator.core.scheduler.unended.length := by
  have hsub : s.calls.map (·.assignment.id) ⊆ s.coordinator.calls.map (·.assignment.id) :=
    fun id hid => by
      obtain ⟨call, hcall, rfl⟩ := List.mem_map.1 hid
      exact List.mem_map.2 ⟨_, (h.begun call hcall).1, rfl⟩
  have hbegun := (h.begun_nodup.subperm hsub).length_le
  have hflight := h.accounted.inFlight.length_eq
  have hopen := h.accounted.coherent.length_inFlight_le
  rw [List.length_map, List.length_map] at hbegun
  rw [List.length_append, List.length_map, List.length_map] at hflight
  exact ⟨hbegun, hflight ▸ hopen⟩

/-- Where no call can begin and no event can be received, a call has begun. -/
theorem UnderWay.firstDue?_eq_some (h : UnderWay host options J s) (hnext : s.nextCall? = none)
    (he : s.coordinator.events = []) : ∃ call, firstDue? s.calls = some call ∧ call ∈ s.calls := by
  obtain ⟨call, hcall⟩ := h.accounted.exists_call h.busy he
  refine exists_firstDue? fun hnil => ?_
  have hbegun := nextCall?_eq_none hnext hcall
  rw [hnil] at hbegun
  cases hbegun

/-- A call begins. -/
theorem UnderWay.beginCall (h : UnderWay host options J s) {call : Dispatch CommandExecutor}
    (hnext : s.nextCall? = some call) :
    UnderWay host options J (s.beginCall host call) ∧ (s.beginCall host call).left < s.left := by
  obtain ⟨hopen, hnew⟩ := nextCall?_eq_some hnext
  have hbegun : UnderWay host options J (s.beginCall host call) := by
    refine ⟨h.accounted, h.served, h.busy, h.summary_eq, ?_, fun c hc => ?_⟩
    · show ((s.calls ++ [_]).map _).Nodup
      rw [List.map_append]
      exact (List.perm_append_singleton _ _).nodup_iff.2
        (List.nodup_cons.2 ⟨hnew, h.begun_nodup⟩)
    · rcases List.mem_append.1 hc with hc | hc
      · exact h.begun c hc
      · obtain rfl := List.mem_singleton.1 hc
        exact ⟨hopen, rfl⟩
  refine ⟨hbegun, ?_⟩
  obtain ⟨hle, hbound⟩ := hbegun.bounds
  have hlength : (s.beginCall host call).calls.length = s.calls.length + 1 :=
    List.length_append
  have hsame : (s.beginCall host call).coordinator = s.coordinator := rfl
  rw [hlength, hsame] at hle
  rw [hsame] at hbound
  rw [left, left, hlength, hsame]
  omega

/-- A run goes on after steps that leave it busy and its calls open. -/
theorem UnderWay.after (h : UnderWay host options J s) {steps : List (Step CommandExecutor)}
    (hafter : s'.coordinator = s.coordinator.after steps) (hbusy : s'.coordinator.Busy)
    (hsummary : s'.summary = none) (hcalls : s'.calls.Sublist s.calls)
    (hopen : ∀ call ∈ s'.calls, ⟨call.assignment, call.executor⟩ ∈ s.coordinator.calls →
      ⟨call.assignment, call.executor⟩ ∈ s'.coordinator.calls) :
    UnderWay host options (J ++ s.coordinator.journal steps) s' := by
  refine ⟨hafter ▸ h.accounted.after steps, hafter ▸ h.accounted.served_after h.served steps, hbusy,
    hsummary, h.begun_nodup.sublist (hcalls.map _), fun call hcall => ?_⟩
  obtain ⟨hmem, hresult⟩ := h.begun call (hcalls.subset hcall)
  exact ⟨hopen call hcall hmem, hresult⟩

@[simp] theorem coordinator_afterTurn {turn : Coordinator CommandExecutor} :
    (s.afterTurn turn).coordinator = turn.conclude.2 := rfl

@[simp] theorem calls_afterTurn {turn : Coordinator CommandExecutor} :
    (s.afterTurn turn).calls = s.calls := rfl

/-- There is less left once an event is received. -/
theorem UnderWay.left_receive (h : UnderWay host options J s) {e : Event} {rest : List Event}
    (he : s.coordinator.events = e :: rest) :
    (s.afterTurn (s.coordinator.receive s.clock)).left < s.left := by
  have hended := h.accounted.unended_receive he s.clock
  have hevents : (s.coordinator.receive s.clock).events = rest := events_receive he
  have hsplit : outcomes (e :: rest) = outcomes [e] ++ outcomes rest := @outcomes_append [e] rest
  have hone : (outcomes [e]).length ≤ 1 := List.length_filterMap_le _ [e]
  obtain ⟨hle, hbound⟩ := h.bounds
  rw [he, hsplit, List.length_append] at hbound
  rw [left, left, coordinator_afterTurn, calls_afterTurn, core_conclude, events_conclude, hevents, he,
    hsplit, List.length_cons, List.length_append]
  omega

/-- The run receives an event, and returns or has less left to do. -/
theorem UnderWay.receive (h : UnderWay host options J s) (hlimit : options.maxConcurrency ≠ some 0)
    {e : Event} {rest : List Event} (he : s.coordinator.events = e :: rest)
    (hs : s' = (s.afterTurn (s.coordinator.receive s.clock)).note (levelOf e)) :
    s'.coordinator = s.coordinator.after [.receive s.clock, .conclude] ∧
      ((∃ summary, s'.summary = some summary ∧
          s.coordinator.Returns [.receive s.clock, .conclude] summary) ∨
        UnderWay host options (J ++ s.coordinator.journal [.receive s.clock, .conclude]) s' ∧
          s'.left < s.left) := by
  subst hs
  have hturn : s.coordinator.after [.receive s.clock] = s.coordinator.receive s.clock :=
    congrArg Prod.snd (act_receive h.busy.phase_eq he)
  have hafter : s.coordinator.after [.receive s.clock, .conclude] =
      (s.coordinator.receive s.clock).conclude.2 := congrArg (·.conclude.2) hturn
  refine ⟨hafter.symm, ?_⟩
  rcases h.accounted.receive_goes_on hlimit he s.clock with hleaving | ⟨hbusy, -⟩
  · refine .inl ⟨(s.coordinator.receive s.clock).core.summary false,
      congrArg Prod.fst (conclude_of_leaving hleaving), ?_⟩
    have hreturns := returns_conclude hleaving
    rw [← hturn] at hreturns
    exact hturn ▸ hreturns.append
  · have hgoes := conclude_of_going hbusy.phase_eq
    refine .inr ⟨h.after hafter.symm ?_ (congrArg Prod.fst hgoes) (List.Sublist.refl _)
      fun call _ hmem => ?_, h.left_receive he⟩
    · show (s.coordinator.receive s.clock).conclude.2.Busy
      rw [hgoes]
      exact hbusy
    · exact calls_conclude.symm ▸ (calls_receive he).subset hmem

/-- A run that does not return at once is under way, and no call has begun. -/
theorem underWay_afterTurn (h : Accounted options J s.coordinator) (hserved : s.coordinator.Served)
    (hbusy : (s.coordinator.wake s.clock).Busy) (hcalls : s.calls = []) (host : Host) :
    UnderWay host options (J ++ s.coordinator.seen (s.coordinator.wake s.clock))
      (s.afterTurn (s.coordinator.wake s.clock)) := by
  have hafter : s.afterTurn (s.coordinator.wake s.clock) =
      { s with coordinator := s.coordinator.wake s.clock, summary := none } := by
    rw [afterTurn, conclude_of_going hbusy.phase_eq]
  rw [hafter]
  refine ⟨h.turn s.clock, h.served_wake hserved s.clock, hbusy, rfl, ?_, ?_⟩
  · rw [hcalls]
    exact List.nodup_nil
  · rw [hcalls]
    exact List.forall_mem_nil _

variable [Store σ]

@[simp] theorem coordinator_endCall {call : OpenCall} : (s.endCall digest call).coordinator =
    s.coordinator.finish call.assignment.id (.returned call.result) := by
  rw [endCall]
  dsimp only
  split <;> rfl

@[simp] theorem calls_endCall {call : OpenCall} : (s.endCall digest call).calls =
    s.calls.filter fun c => c.assignment.id != call.assignment.id := by
  rw [endCall]
  dsimp only
  split <;> rfl

@[simp] theorem summary_endCall {call : OpenCall} :
    (s.endCall digest call).summary = s.summary := by
  rw [endCall]
  dsimp only
  split <;> rfl

/-- There is less left once a call ends: one call less has begun, and one outcome more is to be
received. -/
theorem UnderWay.left_endCall (h : UnderWay host options J s) {call : OpenCall}
    (hcall : call ∈ s.calls) (digest : String → String) :
    (s.endCall digest call).left < s.left := by
  have hlength : s.calls.length = (s.endCall digest call).calls.length + 1 := by
    have hperm := perm_cons_filter h.begun_nodup (List.mem_map_of_mem hcall)
    rw [List.filter_map] at hperm
    have heq := hperm.length_eq
    rw [List.length_cons, List.length_map, List.length_map] at heq
    rw [calls_endCall]
    exact heq
  have hcore : (s.coordinator.finish call.assignment.id (.returned call.result)).core =
      s.coordinator.core := rfl
  have hevents : (s.coordinator.finish call.assignment.id (.returned call.result)).events =
      s.coordinator.events ++ [.completed call.assignment.id (.ofResult call.result)] := rfl
  have hone : (outcomes [.completed call.assignment.id (.ofResult call.result)]).length = 1 := rfl
  obtain ⟨hle, hbound⟩ := h.bounds
  rw [left, left, coordinator_endCall, hcore, hevents, outcomes_append, List.length_append,
    List.length_append, hone, List.length_singleton]
  omega

/-- A call that has begun ends. -/
theorem UnderWay.endCall (h : UnderWay host options J s) {call : OpenCall} (hcall : call ∈ s.calls)
    (digest : String → String) :
    (s.endCall digest call).coordinator =
        s.coordinator.after [.finish call.assignment.id (.returned call.result)] ∧
      UnderWay host options
        (J ++ s.coordinator.journal [.finish call.assignment.id (.returned call.result)])
        (s.endCall digest call) := by
  have hafter : (s.endCall digest call).coordinator =
      s.coordinator.after [.finish call.assignment.id (.returned call.result)] := by
    rw [coordinator_endCall]
    exact (congrArg Prod.snd (act_finish (List.mem_map_of_mem (h.begun call hcall).1))).symm
  refine ⟨hafter, h.after hafter ?_ ?_ ?_ fun c hc hmem => ?_⟩
  · rw [coordinator_endCall]
    exact ⟨h.busy.phase_eq, h.busy.inFlight⟩
  · rw [summary_endCall, h.summary_eq]
  · rw [calls_endCall]
    exact List.filter_sublist
  · rw [calls_endCall] at hc
    rw [coordinator_endCall]
    exact List.mem_filter.2 ⟨hmem, (List.mem_filter.1 hc).2⟩

/-- While a run is under way something happens, and then the run has returned or there is less left. -/
theorem UnderWay.exists_advance (h : UnderWay host options J s)
    (hlimit : options.maxConcurrency ≠ some 0) (digest : String → String) :
    ∃ s' steps, s.advance? host digest = some s' ∧
      (∀ step ∈ steps, step.Executes host s.coordinator.core.registry) ∧
      s'.coordinator = s.coordinator.after steps ∧
      ((∃ summary, s'.summary = some summary ∧ s.coordinator.Returns steps summary) ∨
        UnderWay host options (J ++ s.coordinator.journal steps) s' ∧ s'.left < s.left) := by
  cases hnext : s.nextCall? with
  | some call =>
    refine ⟨s.beginCall host call, [], by rw [advance?, hnext], List.forall_mem_nil _, rfl, .inr ?_⟩
    rw [Coordinator.journal, List.append_nil]
    exact h.beginCall hnext
  | none =>
    cases he : s.coordinator.events with
    | cons e rest =>
      obtain ⟨hafter, hgoes⟩ := h.receive hlimit he rfl
      refine ⟨_, [.receive s.clock, .conclude], ?_,
        List.forall_mem_cons.2 ⟨trivial, List.forall_mem_singleton.2 trivial⟩, hafter, hgoes⟩
      simp only [advance?, hnext, h.summary_eq, Option.isSome_none, Bool.false_eq_true, if_false, he]
    | nil =>
      obtain ⟨call, hdue, hcall⟩ := h.firstDue?_eq_some hnext he
      obtain ⟨hopen, hresult⟩ := h.begun call hcall
      obtain ⟨hafter, hends⟩ := h.endCall hcall digest
      refine ⟨s.endCall digest call, [.finish call.assignment.id (.returned call.result)], ?_,
        List.forall_mem_singleton.2
          ⟨call.executor, call.assignment, h.served _ hopen, rfl, by rw [hresult]⟩, hafter,
        .inr ⟨hends, h.left_endCall hcall digest⟩⟩
      simp only [advance?, hnext, h.summary_eq, Option.isSome_none, Bool.false_eq_true, if_false, he,
        hdue, Option.map_some]

/-! ## To the end -/

/-- Nothing happens once the run has returned and no call is open. -/
theorem advances_of_over (hsummary : s.summary = some summary) (hcalls : s.coordinator.calls = []) :
    advances host digest fuel s = s := by
  cases fuel with
  | zero => rfl
  | succ fuel =>
    have hnext : s.nextCall? = none := by
      rw [nextCall?, hcalls]
      rfl
    simp only [advances, advance?, hnext, hsummary, Option.isSome_some, if_true]

/-- A run that is under way returns before more has happened than what is left. -/
theorem UnderWay.exists_advances (h : UnderWay host options J s)
    (hlimit : options.maxConcurrency ≠ some 0) (hfuel : s.left < fuel) (digest : String → String) :
    ∃ steps summary, (∀ step ∈ steps, step.Executes host s.coordinator.core.registry) ∧
      s.coordinator.Returns steps summary ∧
      (advances host digest fuel s).coordinator = s.coordinator.after steps ∧
      (advances host digest fuel s).summary = some summary := by
  induction fuel generalizing s J with
  | zero => exact absurd hfuel (Nat.not_lt_zero _)
  | succ fuel ih =>
    obtain ⟨s', steps, hs', hsteps, hafter, hgoes⟩ := h.exists_advance hlimit digest
    have hadvances : advances host digest (fuel + 1) s = advances host digest fuel s' := by
      rw [advances, hs']
    rw [hadvances]
    rcases hgoes with ⟨summary, hsummary, hreturns⟩ | ⟨h', hlt⟩
    · have hcalls : s'.coordinator.calls = [] := by
        rw [hafter]
        exact h.accounted.calls_eq_nil hreturns
          (hreturns.uninterrupted
            (fun step hstep => (Step.Executes.goesOn (hsteps step hstep)).2) h.busy.phase_ne)
      rw [advances_of_over hsummary hcalls]
      exact ⟨steps, summary, hsteps, hreturns, hafter, hsummary⟩
    · obtain ⟨more, summary, hmore, hreturns, hmoreAfter, hsummary⟩ := ih h' (by omega)
      have hregistry : s'.coordinator.core.registry = s.coordinator.core.registry := by
        rw [hafter]
        exact registry_after fun step hstep => (Step.Executes.goesOn (hsteps step hstep)).1
      rw [hregistry] at hmore
      rw [hafter] at hreturns hmoreAfter
      exact ⟨steps ++ more, summary, List.forall_mem_append.2 ⟨hsteps, hmore⟩, hreturns.append,
        by rw [hmoreAfter, after_append], hsummary⟩

/-- A session carries a run that it begins to its end: the run returns, and what has happened is that
its calls were executed and its events received. -/
theorem exists_finish (h : Accounted options J s.coordinator)
    (hserved : s.coordinator.Served) (hlimit : options.maxConcurrency ≠ some 0)
    (hidle : s.coordinator.phase = .idle) (hcalls : s.calls = []) (host : Host)
    (digest : String → String) :
    ∃ steps summary, (∀ step ∈ steps, step.Executes host s.coordinator.core.registry) ∧
      s.coordinator.Returns (.begin s.clock :: steps) summary ∧
      (s.finish host digest).coordinator = s.coordinator.after (.begin s.clock :: steps) ∧
      (s.finish host digest).summary = some summary := by
  have hturn : s.coordinator.after [.begin s.clock] = s.coordinator.wake s.clock :=
    congrArg Prod.snd (act_begin hidle)
  rw [finish]
  rcases h.wake_cases hlimit s.clock with hleaving | hbusy
  · have hreturns := returns_conclude hleaving
    rw [← hturn] at hreturns
    have hall : s.coordinator.Returns ([.begin s.clock] ++ [.conclude]) _ := hreturns.append
    have hafter : (s.afterTurn (s.coordinator.wake s.clock)).coordinator =
        s.coordinator.after ([.begin s.clock] ++ [.conclude]) := congrArg (·.conclude.2) hturn.symm
    have hnone : (s.afterTurn (s.coordinator.wake s.clock)).coordinator.calls = [] := by
      rw [hafter]
      exact h.calls_eq_nil hall rfl
    have hsummary : (s.afterTurn (s.coordinator.wake s.clock)).summary =
        some ((s.coordinator.wake s.clock).core.summary false) :=
      congrArg Prod.fst (conclude_of_leaving hleaving)
    rw [advances_of_over hsummary hnone]
    exact ⟨[.conclude], _, List.forall_mem_singleton.2 trivial, hturn ▸ hall, hafter, hsummary⟩
  · obtain ⟨steps, summary, hsteps, hreturns, hlast, hsummary⟩ :=
      (underWay_afterTurn h hserved hbusy hcalls host).exists_advances hlimit
        (Nat.lt_succ_of_le left_le) digest
    have hafter : (s.afterTurn (s.coordinator.wake s.clock)).coordinator =
        s.coordinator.after [.begin s.clock] :=
      (congrArg Prod.snd (conclude_of_going hbusy.phase_eq)).trans hturn.symm
    have hregistry : (s.afterTurn (s.coordinator.wake s.clock)).coordinator.core.registry =
        s.coordinator.core.registry := by
      rw [coordinator_afterTurn, core_conclude, wake_eq]
      rfl
    rw [hregistry] at hsteps
    rw [hafter] at hreturns
    have hall : s.coordinator.Returns ([.begin s.clock] ++ steps) summary := hreturns.append
    exact ⟨steps, summary, hsteps, hall, hlast.trans (congrArg (·.after steps) hafter), hsummary⟩

end

end Session

end Taskweave
