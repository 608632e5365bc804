import Taskweave.Rehearsal.Stage

/-!
# Plays

An `Action` is what somebody does on a stage, an `Answer` what comes of it. A `Play` is a list of
actions with the times at which they are due, one after the other, next to a run that may be under
way on its own. `Play.perform` carries a play to its end, moving the clock from one due time to the
next; `Stage.act` and `Stage.runWith` are the two plays there are: a single action, and a run with
actions beside it.
-/

namespace Taskweave

/-- What is done on a stage. -/
inductive Action where
  | register (role : RoleName) (actor : Actor)
  | submit (id : TaskId) (role : RoleName) (description : String) (dependencies : List TaskId)
  | task (id : TaskId)
  | snapshot
  /-- Ends the run that is under way, if there is one. -/
  | shutdown
  /-- Waits for some milliseconds. -/
  | sleep (time : Nat)
  /-- Runs to the end, or for some milliseconds at most. -/
  | run (limit : Option Nat)
  /-- Asks what is shown of the coordinator. -/
  | describe
  /-- Asks what the stub of a role has seen. -/
  | stub (role : RoleName)
deriving Repr

/-- What comes of an action. -/
inductive Answer where
  | done
  | refused (e : Error)
  | submitted (t : Task)
  | task (t : Option Task)
  | snapshot (s : Snapshot)
  | summary (s : RunSummary)
  | text (s : String)
  | stub (r : Option StubRecord)

/-- Actions with their times, and a run of its own. -/
structure Play where
  stage : Stage
  /-- When the run that is under way ends at the latest. -/
  deadline : Option Nat
  /-- The result of the run of its own; `none` while it is under way. -/
  main : Option RunSummary
  /-- Actions that are left, with the times at which they are due. -/
  cues : List (Nat × Action)
  /-- Whether the run under way is one of the actions. -/
  busy : Bool
  /-- The answers, the last one first. -/
  answers : List Answer

namespace Play

/-- Records an answer. -/
def reply (p : Play) (stage : Stage) (a : Answer) : Play :=
  { p with stage, answers := a :: p.answers }

/-- Hands the summary of a run that has ended to whom it belongs. -/
def collect (p : Play) : Play :=
  match p.stage.summary with
  | none => p
  | some summary =>
    let p := { p with stage := { p.stage with summary := none }, deadline := none }
    if p.busy then { p.reply p.stage (.summary summary) with busy := false }
    else { p with main := some summary }

/-- Ends the run that is under way. -/
def interrupt (p : Play) : Play :=
  if p.stage.coordinator.phase = .going then
    collect { p with stage := p.stage.afterTurn p.stage.coordinator.interrupt }
  else p

/-- Ends the run that is under way if its time is over. -/
def checkDeadline (p : Play) : Play :=
  match p.deadline with
  | some t => if t ≤ p.stage.clock then p.interrupt else p
  | none => p

/-- Starts a run, with a time limit or without. -/
def startRun (p : Play) (limit : Option Nat) : Except Error Play := do
  let turn ← p.stage.coordinator.begin p.stage.now
  return collect { p with
    stage := p.stage.afterTurn turn
    deadline := limit.map (p.stage.clock + ·) }

/-- Performs an action. -/
def act (p : Play) : Action → Play
  | .register role actor =>
    match p.stage.coordinator.register role actor with
    | .ok coordinator => p.reply { p.stage with coordinator } .done
    | .error e => p.reply p.stage (.refused e)
  | .submit id role description dependencies =>
    match p.stage.coordinator.submit p.stage.now id role description dependencies with
    | .ok (t, coordinator) => p.reply { p.stage with coordinator } (.submitted t)
    | .error e => p.reply p.stage (.refused e)
  | .task id => p.reply p.stage (.task (p.stage.coordinator.task? id))
  | .snapshot => p.reply p.stage (.snapshot p.stage.coordinator.snapshot)
  | .shutdown => (p.interrupt).reply p.interrupt.stage .done
  | .sleep 0 => p.reply p.stage .done
  | .sleep time => { p with cues := (p.stage.clock + time, .sleep 0) :: p.cues }
  | .run limit =>
    match startRun { p with busy := true } limit with
    | .ok p => p
    | .error e => p.reply p.stage (.refused e)
  | .describe => p.reply p.stage (.text Coordinator.description)
  | .stub role => p.reply p.stage (.stub (p.stage.stubRecord? role))

/-- Performs the actions that are due, up to one that takes time. -/
def actDue : (fuel : Nat) → Play → Play
  | 0, p => p
  | fuel + 1, p =>
    let p := p.checkDeadline
    match p.cues with
    | [] => p
    | (due, action) :: cues =>
      if p.busy || p.stage.clock < due then p else actDue fuel (act { p with cues } action)

/-- Whether everything is over. -/
def isOver (p : Play) : Bool := p.main.isSome && p.cues.isEmpty && !p.busy

/-- The times at which something is due. -/
def dueTimes (p : Play) : List Nat :=
  Dict.values p.stage.begun ++ p.deadline.toList ++
    (if p.busy then [] else (p.cues.take 1).map (·.1))

/-- Carries a play on through at most `fuel` times at which something is due. -/
def performFrom : (fuel : Nat) → Play → Play
  | 0, p => p
  | fuel + 1, p =>
    let p := actDue (2 * p.cues.length + 1) p
    if p.isOver then p
    else
      let p := collect { p with stage := p.stage.settle }
      let p := actDue (2 * p.cues.length + 1) p
      if p.isOver then p
      else
        match p.dueTimes.min? with
        | none => p
        | some t => performFrom fuel { p with stage := p.stage.moveTo t }

/-- Carries a play to its end. Something is due once for each task and for each end of a run, and
twice for each action. -/
def perform (p : Play) : Play :=
  performFrom (p.stage.coordinator.core.scheduler.tasks.length + 4 * p.cues.length + 4) p

end Play

namespace Stage

/-- Performs one action to its end. -/
def act (s : Stage) (action : Action) : Answer × Stage :=
  let p := Play.perform ⟨s, none, some ⟨[], [], [], [], false⟩, [(s.clock, action)], false, []⟩
  (p.answers.headD .done, p.stage)

/-- Runs to the end, or for some milliseconds at most, while actions are performed at the given
times from now. -/
def runWith (s : Stage) (limit : Option Nat) (actions : List (Nat × Action)) :
    Answer × List Answer × Stage :=
  let cues := actions.map fun (t, a) => (s.clock + t, a)
  let p : Play := ⟨s, none, none, cues, false, []⟩
  match p.startRun limit with
  | .error e => (.refused e, [], s)
  | .ok p =>
    let p := p.perform
    ((p.main.map Answer.summary).getD .done, p.answers.reverse, p.stage)

end Stage

end Taskweave
