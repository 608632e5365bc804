import Taskweave.Proofs.Run.Summaries

/-!
# A run goes on to its end

While the calls of a run end and its events are received, the run gets nearer to its end: each event
is one less to receive, and each outcome is work done (`Coordinator.left`). A run that is under way
has something in flight, hence a call that can end or an event that can be received
(`Coordinator.Accounted.goes_on`), so it can be brought to its end, whatever the calls report
(`Coordinator.Accounted.exists_returns`).
-/

namespace Taskweave

open Scheduler

variable {α : Type}

/-- A call that is reported with an outcome. -/
def CallEnd.reportedAs : Outcome → CallEnd
  | .success v => .returned (.ok v)
  | .failure error => .returned (.error (.failed error))

/-- Every outcome can be that of a call. -/
theorem CallEnd.reported (outcome : Outcome) :
    Coordinator.Reported (CallEnd.reportedAs outcome) outcome := by
  cases outcome with
  | success v => exact .value v
  | failure error => exact .error (.failed error)

/-- A dispatch adds no work. -/
theorem Scheduler.Coherent.work_dispatch_le {s : Scheduler} (h : s.Coherent) (now : Instant)
    (limit : Option Nat) : (s.dispatch now limit).2.work ≤ s.work := by
  by_cases hnil : (s.dispatch now limit).1 = []
  · have htaken : s.taken limit = [] := by
      rw [← h.map_id_dispatch, hnil]
      rfl
    have hnone : s.queue.available limit = 0 := by rw [← length_taken, htaken, List.length_nil]
    rw [dispatch_of_available_eq_zero hnone]
  · exact Nat.le_of_lt (h.work_dispatch_lt hnil)

namespace Coordinator

/-- A step by which a run is carried on: an event is received, a call ends and is reported with its
outcome, or the run returns. -/
def Step.CarriesOn (outcome : TaskId → Outcome) : Step α → Prop
  | .receive _ | .conclude => True
  | .finish id ending => Reported ending (outcome id)
  | .register _ _ | .submit _ _ _ _ _ | .announce _ | .begin _ | .wake _ | .shutdown => False

/-- What is left to do: the work, and the events to receive. -/
def left (c : Coordinator α) : Nat := c.core.scheduler.work + c.events.length

/-- A run goes on, and something is in flight. -/
structure Busy (c : Coordinator α) : Prop where
  phase_eq : c.phase = .going
  inFlight : c.core.scheduler.inFlight ≠ []

/-- A run that goes on has not been interrupted. -/
theorem Busy.phase_ne {c : Coordinator α} (h : c.Busy) : c.phase ≠ .leaving true := by
  rw [h.phase_eq]
  nofun

section
variable {c : Coordinator α} {options : RunOptions} {J : List (Entry α)} {now : Instant}
  {e : Event} {rest : List Event} {steps steps' : List (Step α)} {summary : RunSummary}
  {outcome : TaskId → Outcome} {id : TaskId}

/-- Its return carries a run on. -/
theorem carriesOn_conclude : (Step.conclude : Step α).CarriesOn outcome := trivial

/-- A return at the end of more steps. -/
theorem Returns.append (h : (c.after steps).Returns steps' summary) :
    c.Returns (steps ++ steps') summary := by
  obtain ⟨before, step, rfl, hover⟩ := h
  exact ⟨steps ++ before, step, (List.append_assoc _ _ _).symm, by rwa [after_append]⟩

/-! ## Steps that are possible -/

/-- A run can be begun where none is under way. -/
theorem act_begin (hidle : c.phase = .idle) :
    c.act (.begin now) = (c.seen (c.wake now), c.wake now) := by
  simp only [act, begin, hidle, if_true]

/-- A run that goes on can receive an event. -/
theorem act_receive (hgoing : c.phase = .going) (he : c.events = e :: rest) :
    c.act (.receive now) = (.received e :: c.seen (c.receive now), c.receive now) := by
  simp only [act, hgoing, he]

/-- A call that is open can end. -/
theorem act_finish {ending : CallEnd} (hid : id ∈ c.calls.map (·.assignment.id)) :
    c.act (.finish id ending) = ([.ended id ending], c.finish id ending) := by
  rw [act, if_pos hid]

/-- A run that takes no further turn can return. -/
theorem returns_conclude {interrupted : Bool} (hphase : c.phase = .leaving interrupted) :
    c.Returns [.conclude] (c.core.summary interrupted) := by
  refine ⟨[], .conclude, rfl, ?_⟩
  rw [after, List.foldl_nil, act, conclude_of_leaving hphase]
  exact List.mem_singleton_self _

/-! ## Turns -/

/-- A turn leaves nothing queued, or no slot free. -/
theorem Accounted.queued_wake (h : Accounted options J c) (now : Instant) :
    (c.wake now).core.scheduler.queued = [] ∨
      options.maxConcurrency = some (c.wake now).core.scheduler.inFlight.length := by
  have hnone : (c.wake now).core.scheduler.queue.available
      (options.slots (c.wake now).core.scheduler.inFlight.length) = 0 := by
    rw [h.scheduler_wake now, ← h.options_eq]
    exact h.coherent.available_dispatch
  exact queued_eq_nil_or_of_available hnone (h.turn now).capacity

/-- A turn is the last one, or leaves a run that is busy. -/
theorem Accounted.wake_cases (h : Accounted options J c) (hlimit : options.maxConcurrency ≠ some 0)
    (now : Instant) : (c.wake now).phase = .leaving false ∨ (c.wake now).Busy := by
  cases hq : (c.wake now).core.scheduler.isQuiescent with
  | true => exact .inl (by rw [phase_wake, hq, if_pos rfl])
  | false =>
    refine .inr ⟨by rw [phase_wake, hq, if_neg Bool.false_ne_true], fun hnil => ?_⟩
    rcases h.queued_wake now with hqueued | hfull
    · rw [isQuiescent_eq_true.2 ⟨hqueued, hnil⟩] at hq
      cases hq
    · rw [hnil] at hfull
      exact hlimit hfull

/-- The task of an outcome that is next is in flight. -/
theorem Accounted.mem_inFlight {outcome : Outcome} (h : Accounted options J c)
    (he : c.events = .completed id outcome :: rest) : id ∈ c.core.scheduler.inFlight := by
  refine h.inFlight.mem_iff.2 (List.mem_append_right _ ?_)
  rw [he]
  exact List.mem_cons_self

/-- Receiving an event gets work done if the event brings an outcome. -/
theorem Accounted.work_taken (h : Accounted options J c) (now : Instant)
    (he : c.events = e :: rest) :
    (c.taken now e rest).core.scheduler.work + (outcomes [e]).length ≤ c.core.scheduler.work := by
  cases e with
  | submitted id => exact Nat.le_refl _
  | completed id outcome => exact h.coherent.work_complete_lt (h.mem_inFlight he)

/-- Receiving an event takes it off the channel, and adds nothing to the channel. -/
theorem events_receive (he : c.events = e :: rest) : (c.receive now).events = rest := by
  rw [receive_eq he, wake_eq]
  cases e <;> rfl

/-- A turn with an event is the last one, or leaves a run that is busy and has less left to do. -/
theorem Accounted.receive_goes_on (h : Accounted options J c)
    (hlimit : options.maxConcurrency ≠ some 0) (he : c.events = e :: rest) (now : Instant) :
    (c.receive now).phase = .leaving false ∨
      (c.receive now).Busy ∧ (c.receive now).left + (outcomes [e]).length < c.left := by
  have htaken := h.taken now he
  have hevents : (c.receive now).events = rest := events_receive he
  rw [receive_eq he] at hevents ⊢
  refine (htaken.wake_cases hlimit now).imp_right fun hbusy => ⟨hbusy, ?_⟩
  have hwork := h.work_taken now he
  have hdispatch : ((c.taken now e rest).wake now).core.scheduler.work ≤
      (c.taken now e rest).core.scheduler.work := by
    rw [htaken.scheduler_wake now]
    exact htaken.coherent.work_dispatch_le now _
  rw [left, left, hevents, he, List.length_cons]
  omega

/-! ## Runs -/

/-- Where no event waits, what is in flight is with an executor. -/
theorem Accounted.exists_call (h : Accounted options J c) (hbusy : c.Busy) (he : c.events = []) :
    ∃ call, call ∈ c.calls := by
  have hflight := h.inFlight
  rw [he] at hflight
  obtain ⟨id, hid⟩ := List.exists_mem_of_ne_nil _ hbusy.inFlight
  obtain ⟨call, hcall, -⟩ := List.mem_map.1
    ((List.mem_append.1 (hflight.mem_iff.1 hid)).resolve_right List.not_mem_nil)
  exact ⟨call, hcall⟩

/-- A run that is busy can be carried on: it takes its last turn, or it is still busy and has less left
to do. -/
theorem Accounted.goes_on (h : Accounted options J c) (hlimit : options.maxConcurrency ≠ some 0)
    (hbusy : c.Busy) (outcome : TaskId → Outcome) (now : Instant) :
    ∃ steps : List (Step α), (∀ step ∈ steps, step.CarriesOn outcome) ∧
      ((c.after steps).phase = .leaving false ∨
        (c.after steps).Busy ∧ (c.after steps).left < c.left) := by
  cases he : c.events with
  | cons e rest =>
    have hafter : c.after [.receive now] = c.receive now :=
      congrArg Prod.snd (act_receive hbusy.phase_eq he)
    refine ⟨[.receive now], fun step hstep => List.mem_singleton.1 hstep ▸ trivial, ?_⟩
    rw [hafter]
    exact (h.receive_goes_on hlimit he now).imp_right fun hand =>
      ⟨hand.1, Nat.lt_of_le_of_lt (Nat.le_add_right _ _) hand.2⟩
  | nil =>
    -- A call ends, and then the event is received.
    obtain ⟨call, hmem⟩ := h.exists_call hbusy he
    obtain ⟨id, hcall⟩ : ∃ id, id ∈ c.calls.map (·.assignment.id) :=
      ⟨_, List.mem_map_of_mem hmem⟩
    have hact : (c.act (.finish id (.reportedAs (outcome id)))).2 =
        c.finish id (.reportedAs (outcome id)) := congrArg Prod.snd (act_finish hcall)
    have hfinished := h.act (.finish id (.reportedAs (outcome id)))
    rw [hact] at hfinished
    have hevents : (c.finish id (.reportedAs (outcome id))).events =
        [.completed id (.ofResult (CallEnd.reportedAs (outcome id)).result)] :=
      congrArg (· ++ _) he
    have hleft : (c.finish id (.reportedAs (outcome id))).left = c.left + 1 := by
      rw [left, left, hevents, he]
      rfl
    have hgoing : (c.finish id (.reportedAs (outcome id))).phase = .going := hbusy.phase_eq
    have hafter : c.after [.finish id (.reportedAs (outcome id)), .receive now] =
        (c.finish id (.reportedAs (outcome id))).receive now := by
      show ((c.act (.finish id (.reportedAs (outcome id)))).2.act (.receive now)).2 = _
      rw [hact]
      exact congrArg Prod.snd (act_receive hgoing hevents)
    refine ⟨[.finish id (.reportedAs (outcome id)), .receive now], fun step hstep => ?_, ?_⟩
    · rcases List.mem_cons.1 hstep with rfl | hstep
      · exact CallEnd.reported (outcome id)
      · exact List.mem_singleton.1 hstep ▸ trivial
    · rw [hafter]
      refine (hfinished.receive_goes_on hlimit hevents now).imp_right fun hand => ⟨hand.1, ?_⟩
      have hlt := hand.2
      rw [hleft] at hlt
      exact Nat.lt_of_add_lt_add_right hlt

/-- A run that is busy can be brought to its end, whatever its calls report. -/
theorem Accounted.exists_returns (h : Accounted options J c)
    (hlimit : options.maxConcurrency ≠ some 0) (hbusy : c.Busy) (outcome : TaskId → Outcome)
    (now : Instant) : ∃ (steps : List (Step α)) (summary : RunSummary),
      (∀ step ∈ steps, step.CarriesOn outcome) ∧ c.Returns steps summary ∧
        summary.interrupted = false := by
  induction hn : c.left using Nat.strong_induction_on generalizing c J with
  | _ n ih =>
    subst hn
    obtain ⟨steps, hsteps, hleaving | ⟨hbusy', hlt⟩⟩ := h.goes_on hlimit hbusy outcome now
    · exact ⟨steps ++ [.conclude], (c.after steps).core.summary false,
        List.forall_mem_append.2 ⟨hsteps, List.forall_mem_singleton.2 carriesOn_conclude⟩,
        (returns_conclude hleaving).append, rfl⟩
    · obtain ⟨more, summary, hmore, hreturns, hi⟩ := ih _ hlt (h.after steps) hbusy' rfl
      exact ⟨steps ++ more, summary, List.forall_mem_append.2 ⟨hsteps, hmore⟩, hreturns.append, hi⟩

/-- A run that is begun can be brought to its end, whatever its calls report. -/
theorem Accounted.exists_returns_begin (h : Accounted options J c)
    (hlimit : options.maxConcurrency ≠ some 0) (hidle : c.phase = .idle)
    (outcome : TaskId → Outcome) (now : Instant) :
    ∃ (turns : List (Step α)) (summary : RunSummary), (∀ step ∈ turns, step.CarriesOn outcome) ∧
      c.Returns (.begin now :: turns) summary ∧ summary.interrupted = false := by
  have hafter : c.after [.begin now] = c.wake now := congrArg Prod.snd (act_begin hidle)
  obtain ⟨turns, summary, hturns, hreturns, hi⟩ : ∃ (turns : List (Step α)) (summary : RunSummary),
      (∀ step ∈ turns, step.CarriesOn outcome) ∧ (c.after [.begin now]).Returns turns summary ∧
        summary.interrupted = false := by
    rw [hafter]
    rcases h.wake_cases hlimit now with hleaving | hbusy
    · exact ⟨[.conclude], _, List.forall_mem_singleton.2 carriesOn_conclude,
        returns_conclude hleaving, rfl⟩
    · exact (h.turn now).exists_returns hlimit hbusy outcome now
  have hall : c.Returns ([.begin now] ++ turns) summary := hreturns.append
  exact ⟨turns, summary, hturns, hall, hi⟩

end

end Coordinator

end Taskweave
