import Taskweave.Proofs.Run.Steps

/-!
# The books of a coordinator

`Coordinator.Accounted` is the invariant behind `Coordinator.Balanced`. It adds the history of the
scheduler, which hands out the tasks whose executors are called, and counts the slots by the tasks
in flight, which are those of the open calls and more. `Coordinator.Accounted.acts` is the step, one
case for each thing a step can do, and `Coordinator.Accounted.after` the induction over a sequence
of them.
-/

namespace Taskweave

open Occurrence Scheduler

variable {α : Type}

namespace Coordinator

/-- The books of a coordinator are balanced. -/
structure Accounted (options : RunOptions) (journal : List (Entry α)) (c : Coordinator α) :
    Prop where
  options_eq : c.core.options = options
  bound : c.core.scheduler.Bound c.core.registry
  /-- The tasks that the scheduler handed out are those whose executors were called. -/
  recorded : ∃ history, Recorded history c.core.scheduler ∧
    assignments history = (called journal).map (·.assignment)
  /-- A task in flight is with its executor or in the channel. -/
  inFlight : c.core.scheduler.inFlight.Perm
    (c.calls.map (·.assignment.id) ++ (outcomes c.events).map (·.1))
  /-- A call is open or has ended. -/
  calls : ((called journal).map (·.assignment.id)).Perm
    (c.calls.map (·.assignment.id) ++ (ended journal).map (·.1))
  /-- What is reported of the calls is received in that order, or waits in the channel. -/
  reported : reports (ended journal) = outcomes (received journal) ++ outcomes c.events
  capacity : ∀ m, options.maxConcurrency = some m → c.core.scheduler.inFlight.length ≤ m
  /-- A run that has come to rest leaves nothing in flight. -/
  leaving : c.phase = .leaving false → c.core.scheduler.inFlight = []

section
variable {c c' : Coordinator α} {options : RunOptions} {J : List (Entry α)} {now : Instant}
  {id : TaskId} {e : Event} {rest : List Event} {ids : List TaskId} {step : Step α}
  {entries : List (Entry α)} {ops : List Operation} {specs : List Submission}

/-- A name stands once in a list without repetitions. -/
theorem perm_cons_filter (hnd : ids.Nodup) (h : id ∈ ids) :
    ids.Perm (id :: ids.filter (· != id)) := by
  rw [← hnd.erase_eq_filter]
  exact List.perm_cons_erase h

/-- Of three lists one after the other the last two change places. -/
theorem perm_append_right_comm {xs ys zs : List TaskId} :
    (xs ++ ys ++ zs).Perm (xs ++ zs ++ ys) := by
  rw [List.append_assoc, List.append_assoc]
  exact List.perm_append_comm.append_left xs

/-! ## Steps -/

/-- The parts of the scheduler agree. -/
theorem Accounted.coherent (h : Accounted options J c) : c.core.scheduler.Coherent := by
  obtain ⟨history, hrec, -⟩ := h.recorded
  exact hrec.coherent

/-- The tasks in flight are distinct. -/
theorem Accounted.nodup (h : Accounted options J c) : c.core.scheduler.inFlight.Nodup :=
  h.coherent.inFlight_nodup

/-- A turn keeps the books balanced. -/
theorem Accounted.turn (h : Accounted options J c) (now : Instant) :
    Accounted options (J ++ c.seen (c.wake now)) (c.wake now) := by
  have hleaving : (c.wake now).phase = .leaving false →
      (c.wake now).core.scheduler.inFlight = [] := fun hphase =>
    (isQuiescent_eq_true.1 (isQuiescent_of_leaving hphase)).2
  obtain ⟨history, hrec, hassign⟩ := h.recorded
  have hcol : Collected history c.core.options c.core.scheduler (c.startable now).1
      (c.startable now).2 := collected_collect hrec h.bound
  have hseen : c.seen (c.wake now) = (c.startable now).1.map .called := by
    rw [seen, wake_eq, List.drop_left]
  rw [wake_eq] at hleaving
  rw [hseen, wake_eq]
  refine ⟨h.options_eq, h.bound.of_outline_eq hcol.outline_eq, ⟨_, hcol.recorded, ?_⟩, ?_, ?_, ?_,
    fun m hm => ?_, hleaving⟩
  · rw [assignments_append, assignments_map_handedOut, hassign, called_append, called_turn,
      List.map_append]
  · rw [withScheduler, hcol.inFlight_eq, List.map_append]
    exact (h.inFlight.append_right _).trans perm_append_right_comm
  · rw [called_append, called_turn, ended_append, ended_turn, List.append_nil, List.map_append,
      List.map_append]
    exact (h.calls.append_right _).trans perm_append_right_comm
  · rw [ended_append, ended_turn, List.append_nil, received_append, received_turn, List.append_nil]
    exact h.reported
  · exact hcol.capacity m (by rw [h.options_eq, hm]) (h.capacity m hm)

/-- Receiving an event keeps the books balanced, before anything is started. -/
theorem Accounted.taken (h : Accounted options J c) (now : Instant) (he : c.events = e :: rest) :
    Accounted options (J ++ [.received e]) (c.taken now e rest) := by
  have hcalled : called (J ++ [.received e]) = called J := by simp [called]
  have hended : ended (J ++ [.received e]) = ended J := by simp [ended]
  have hreceived : received (J ++ [.received e]) = received J ++ [e] := by simp [received]
  obtain ⟨history, hrec, hassign⟩ := h.recorded
  have hc := hrec.coherent
  have hflight := h.inFlight
  have hreported := h.reported
  rw [he] at hflight hreported
  cases e with
  | submitted id =>
    refine ⟨h.options_eq, h.bound, ⟨history, hrec, ?_⟩, hflight, ?_, ?_, h.capacity, h.leaving⟩
    · rw [hcalled, hassign]
    · rw [hcalled, hended]
      exact h.calls
    · rw [hended, hreceived, outcomes_append, List.append_assoc]
      exact hreported
  | completed id outcome =>
    have hmem : id ∈ c.core.scheduler.inFlight :=
      hflight.mem_iff.2 (List.mem_append_right _ List.mem_cons_self)
    have hstep := hrec.perform (.complete now id outcome)
    rw [occurrences, if_pos hmem] at hstep
    have hleft : (c.core.scheduler.complete now id outcome).2.inFlight =
        c.core.scheduler.inFlight.filter (· != id) := (hc.ends now id outcome).inFlight_eq
    refine ⟨h.options_eq, h.bound.of_outline_eq (hc.ends now id outcome).outline_eq,
      ⟨_, hstep, ?_⟩, ?_, ?_, ?_, fun m hm => ?_, fun hleaving => ?_⟩
    · rw [assignments_append, hassign, hcalled]
      exact List.append_nil _
    · -- The task leaves the channel as it leaves the tasks in flight.
      rw [Coordinator.taken, withScheduler, hleft]
      have hsplit := (perm_cons_filter h.nodup hmem).symm.trans hflight
      exact (List.perm_cons id).1 (hsplit.trans List.perm_middle)
    · rw [hcalled, hended]
      exact h.calls
    · rw [hended, hreceived, outcomes_append, List.append_assoc]
      exact hreported
    · rw [Coordinator.taken, withScheduler, hleft]
      exact (List.length_filter_le _ _).trans (h.capacity m hm)
    · rw [Coordinator.taken, withScheduler, hleft, h.leaving hleaving]
      rfl

/-- The end of a call keeps the books balanced. -/
theorem Accounted.finish (h : Accounted options J c) (hid : id ∈ c.calls.map (·.assignment.id))
    (ending : CallEnd) : Accounted options (J ++ [.ended id ending]) (c.finish id ending) := by
  have hcalled : called (J ++ [.ended id ending]) = called J := by simp [called]
  have hended : ended (J ++ [.ended id ending]) = ended J ++ [(id, ending)] := by simp [ended]
  have hreceived : received (J ++ [.ended id ending]) = received J := by simp [received]
  have hnd : (c.calls.map (·.assignment.id)).Nodup :=
    (List.nodup_append.1 (h.inFlight.nodup_iff.1 h.nodup)).1
  -- The task moves from its executor to the end of the channel, and to the calls that have ended.
  have hmoves : ∀ xs : List TaskId, (c.calls.map (·.assignment.id) ++ xs).Perm
      ((c.finish id ending).calls.map (·.assignment.id) ++ (xs ++ [id])) := fun xs => by
    have hmap : (c.finish id ending).calls.map (·.assignment.id) =
        (c.calls.map (·.assignment.id)).filter (· != id) := by
      rw [Coordinator.finish, List.filter_map]
      rfl
    rw [hmap, ← List.append_assoc]
    exact ((perm_cons_filter hnd hid).append_right xs).trans (List.perm_append_singleton id _).symm
  obtain ⟨history, hrec, hassign⟩ := h.recorded
  refine ⟨h.options_eq, h.bound, ⟨history, hrec, ?_⟩, ?_, ?_, ?_, h.capacity, h.leaving⟩
  · rw [hcalled, hassign]
  · have houtcomes : (outcomes (c.finish id ending).events).map (·.1) =
        (outcomes c.events).map (·.1) ++ [id] := by
      rw [Coordinator.finish, outcomes_append, List.map_append]
      rfl
    rw [houtcomes]
    exact h.inFlight.trans (hmoves _)
  · rw [hcalled, hended, List.map_append]
    exact h.calls.trans (hmoves _)
  · rw [hended, hreceived, reports_append, h.reported, Coordinator.finish, outcomes_append,
      List.append_assoc]
    rfl

/-- Binding a role keeps the books balanced. -/
theorem Accounted.register {role : RoleName} {executor : α} (h : Accounted options J c)
    (hr : c.register role executor = .ok c') : Accounted options J c' := by
  obtain ⟨registry, hreg, rfl⟩ := register_eq_ok hr
  exact ⟨h.options_eq, h.bound.register hreg, h.recorded, h.inFlight, h.calls, h.reported,
    h.capacity, h.leaving⟩

/-- A submission keeps the books balanced. -/
theorem Accounted.accept {role : RoleName} {description : String} {deps : List TaskId} {t : Task}
    (h : Accounted options J c)
    (hs : c.accept now id role description deps = .ok (t, c')) : Accounted options J c' := by
  obtain ⟨hrole, s', hsub, rfl⟩ := accept_eq_ok hs
  obtain ⟨history, hrec, hassign⟩ := h.recorded
  have hacc := (enters_of_submit hsub).accepted hrec.coherent
  have hstep := hrec.perform (.submit now id role description deps)
  simp only [Scheduler.perform, occurrences, hsub] at hstep
  refine ⟨h.options_eq, h.bound.accepted hacc hrole, ⟨_, hstep, ?_⟩, ?_, h.calls, h.reported,
    fun m hm => ?_, fun hleaving => ?_⟩
  · rw [assignments_append, hassign]
    exact List.append_nil _
  · rw [withScheduler, hacc.inFlight_eq]
    exact h.inFlight
  · rw [withScheduler, hacc.inFlight_eq]
    exact h.capacity m hm
  · rw [withScheduler, hacc.inFlight_eq]
    exact h.leaving hleaving

/-- To let a run know of a task keeps the books balanced, since no outcome is sent. -/
theorem Accounted.announce (h : Accounted options J c) (id : TaskId) :
    Accounted options J (c.announce id) := by
  have hnone : outcomes (c.announce id).events = outcomes c.events := by
    rw [Coordinator.announce, outcomes_append]
    exact List.append_nil _
  refine ⟨h.options_eq, h.bound, h.recorded, ?_, h.calls, ?_, h.capacity, h.leaving⟩
  · rw [hnone]
    exact h.inFlight
  · rw [hnone]
    exact h.reported

/-- To have a run take no further turn keeps the books balanced. -/
theorem Accounted.interrupt (h : Accounted options J c) : Accounted options J c.interrupt :=
  ⟨h.options_eq, h.bound, h.recorded, h.inFlight, h.calls, h.reported, h.capacity, nofun⟩

/-- The return of a run keeps the books balanced. -/
theorem Accounted.conclude (h : Accounted options J c) (summary : RunSummary) :
    Accounted options (J ++ [.runOver summary]) { c with phase := .idle } := by
  obtain ⟨history, hrec, hassign⟩ := h.recorded
  refine ⟨h.options_eq, h.bound, ⟨history, hrec, ?_⟩, h.inFlight, ?_, ?_, h.capacity, nofun⟩
  · rw [called_append, called_runOver, List.append_nil]
    exact hassign
  · rw [called_append, called_runOver, ended_append, ended_runOver, List.append_nil,
      List.append_nil]
    exact h.calls
  · rw [ended_append, ended_runOver, received_append, received_runOver, List.append_nil,
      List.append_nil]
    exact h.reported

/-- What a step does keeps the books balanced. -/
theorem Accounted.acts (h : Accounted options J c) (ha : c.Acts step entries ops specs c') :
    Accounted options (J ++ entries) c' := by
  cases ha with
  | nothing =>
    rw [List.append_nil]
    exact h
  | register hr =>
    rw [List.append_nil]
    exact h.register hr
  | submit hs =>
    rw [List.append_nil]
    exact h.accept hs
  | announce =>
    rw [List.append_nil]
    exact h.announce _
  | begin | wake => exact h.turn _
  | @receive now e rest _ he =>
    have hturn := (h.taken now he).turn now
    have hseen : (c.taken now e rest).seen = c.seen := by cases e <;> rfl
    rw [hseen, ← receive_eq he, List.append_assoc] at hturn
    exact hturn
  | shutdown =>
    rw [List.append_nil]
    exact h.interrupt
  | conclude => exact h.conclude _
  | finish hid => exact h.finish hid _

/-- A step keeps the books balanced. -/
theorem Accounted.act (h : Accounted options J c) (step : Step α) :
    Accounted options (J ++ (c.act step).1) (c.act step).2 := h.acts (c.acts step)

/-- A new coordinator has nothing to account for. -/
theorem Accounted.new {policy : FailurePolicy} (h : Coordinator.new policy options = .ok c) :
    Accounted options [] c := by
  rw [new_eq_ok h]
  exact ⟨rfl, nofun, ⟨[], .new policy, rfl⟩, .nil, .nil, rfl, fun _ _ => Nat.zero_le _, nofun⟩

/-- Steps in any order keep the books balanced. -/
theorem Accounted.after (h : Accounted options J c) (steps : List (Step α)) :
    Accounted options (J ++ c.journal steps) (c.after steps) := by
  induction steps generalizing c J with
  | nil =>
    rw [journal, List.append_nil]
    exact h
  | cons step steps ih =>
    rw [journal, ← List.append_assoc]
    exact ih (h.act step)

/-! ## Runs that are over -/

/-- A summary that tells where the tasks of `c` stand, with nothing in flight unless the run was
interrupted. -/
def Closing (c : Coordinator α) (summary : RunSummary) : Prop :=
  summary = c.core.summary summary.interrupted ∧
    (summary.interrupted = false → c.core.scheduler.inFlight = [])

/-- A run returns when it takes no further turn, and changes nothing else. -/
theorem Acts.returns {summary : RunSummary} (h : c.Acts step entries ops specs c')
    (hover : .runOver summary ∈ entries) : step = .conclude ∧
      c.phase = .leaving summary.interrupted ∧ summary = c.core.summary summary.interrupted ∧
      c' = { c with phase := .idle } := by
  have hturn : ∀ turn : Coordinator α, .runOver summary ∉ c.seen turn := fun turn hmem => by
    obtain ⟨_, -, he⟩ := List.mem_map.1 hmem
    cases he
  cases h with
  | nothing | register | submit | announce | shutdown => cases hover
  | begin | wake => exact absurd hover (hturn _)
  | receive => exact absurd ((List.mem_cons.1 hover).resolve_left nofun) (hturn _)
  | conclude hphase =>
    cases List.mem_singleton.1 hover
    exact ⟨rfl, hphase, rfl, rfl⟩
  | finish => cases List.mem_singleton.1 hover

/-- A run that is over tells where the tasks stand, and leaves nothing in flight unless it was
interrupted. -/
theorem Accounted.closing {summary : RunSummary} (h : Accounted options J c)
    (hover : .runOver summary ∈ (c.act step).1) : (c.act step).2.Closing summary := by
  obtain ⟨-, hphase, hsummary, hafter⟩ := (c.acts step).returns hover
  rw [hafter]
  exact ⟨hsummary, fun hi => h.leaving (hi ▸ hphase)⟩

/-- At rest no task is in progress. -/
theorem idsWithStatus_eq_nil {s : Scheduler} (h : s.Coherent) (hfl : s.inFlight = []) :
    s.idsWithStatus .inProgress = [] :=
  List.eq_nil_iff_forall_not_mem.2 fun id hid => by
    have hmem := (h.mem_inFlight id).2 (h.mem_idsWithStatus.1 hid)
    rw [hfl] at hmem
    cases hmem

/-! ## What callers and executors see -/

/-- An outcome that waits in the channel is that of a call that has ended. -/
theorem Accounted.carried {outcome : Outcome} (h : Accounted options J c)
    (hmem : .completed id outcome ∈ c.events) :
    ∃ ending, .ended id ending ∈ J ∧ Reported ending outcome := by
  have hwaits : (id, outcome) ∈ outcomes c.events := List.mem_filterMap.2 ⟨_, hmem, rfl⟩
  have hreport : (id, outcome) ∈ reports (ended J) := by
    rw [h.reported]
    exact List.mem_append_right _ hwaits
  obtain ⟨⟨x, ending⟩, hended, he⟩ := List.mem_map.1 hreport
  obtain ⟨rfl, rfl⟩ := Prod.mk.inj he
  obtain ⟨entry, hentry, he⟩ := List.mem_filterMap.1 hended
  cases entry with
  | ended y ending' =>
    obtain ⟨rfl, rfl⟩ := Prod.mk.inj (Option.some.inj he)
    exact ⟨ending', hentry, reported_ofResult ending'⟩
  | called | received | runOver => cases he

/-- The open calls fit into the limit, since their tasks are in flight. -/
theorem Accounted.limit {m : Nat} (h : Accounted options J c)
    (hm : options.maxConcurrency = some m) : c.calls.length ≤ m := by
  have hlen := h.inFlight.length_eq
  rw [List.length_append, List.length_map, List.length_map] at hlen
  have hcap := h.capacity m hm
  omega

/-- A run that is over without an interruption leaves nothing behind. -/
theorem Accounted.rest_of_runOver {step : Step α} {summary : RunSummary} (h : Accounted options J c)
    (hover : .runOver summary ∈ (c.act step).1) (hi : summary.interrupted = false) :
    (c.act step).2.calls = [] ∧ outcomes (c.act step).2.events = [] ∧
      (c.act step).2.core.scheduler.inFlight = [] ∧ summary.inProgress = [] := by
  have h' := h.act step
  obtain ⟨hsummary, hfl⟩ := h.closing hover
  replace hfl := hfl hi
  have hnil := h'.inFlight
  rw [hfl, List.nil_perm, List.append_eq_nil_iff, List.map_eq_nil_iff, List.map_eq_nil_iff] at hnil
  refine ⟨hnil.1, hnil.2, hfl, ?_⟩
  rw [hsummary]
  exact idsWithStatus_eq_nil h'.coherent hfl

/-- Whatever callers, executors and runs do, and in whatever order, no completion of a call is lost
or counted twice. -/
theorem balanced_journal {policy : FailurePolicy} (h : Coordinator.new policy options = .ok c)
    (steps : List (Step α)) : Balanced options (c.journal steps) (c.after steps) := by
  have hacc : Accounted options (c.journal steps) (c.after steps) := (Accounted.new h).after steps
  obtain ⟨history, hrec, hassign⟩ := hacc.recorded
  have honce : ((Coordinator.called (c.journal steps)).map (·.assignment.id)).Nodup := by
    have := hrec.once
    rw [hassign, List.map_map] at this
    exact this
  exact ⟨hacc.nodup, hacc.inFlight, honce, hacc.calls, hacc.reported, fun _ _ => hacc.carried,
    fun _ => hacc.limit, fun _ _ => hacc.rest_of_runOver⟩

/-- A run that is interrupted while its call is open, and a second one that receives the panic. -/
theorem balanced_interrupted_run :
    Coordinator.new .block ⟨some 1, .ofSeconds 1⟩ =
        .ok (⟨⟨.new .block, .empty, ⟨some 1, .ofSeconds 1⟩⟩, [], [], .idle⟩ : Coordinator Unit) ∧
      Balanced ⟨some 1, .ofSeconds 1⟩
        (journal ⟨⟨.new .block, .empty, ⟨some 1, .ofSeconds 1⟩⟩, [], [], .idle⟩
          [.register "r" (), .submit ⟨0⟩ "a" "r" "" [], .announce "a", .begin ⟨0⟩, .shutdown,
            .conclude, .finish "a" (.panicked none), .begin ⟨1⟩, .receive ⟨1⟩, .receive ⟨1⟩,
            .conclude])
        (after ⟨⟨.new .block, .empty, ⟨some 1, .ofSeconds 1⟩⟩, [], [], .idle⟩
          [.register "r" (), .submit ⟨0⟩ "a" "r" "" [], .announce "a", .begin ⟨0⟩, .shutdown,
            .conclude, .finish "a" (.panicked none), .begin ⟨1⟩, .receive ⟨1⟩, .receive ⟨1⟩,
            .conclude]) :=
  ⟨rfl, balanced_journal rfl _⟩

end

end Coordinator

end Taskweave
