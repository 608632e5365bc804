import Taskweave.Execution.Call

/-!
# Scripts

A rehearsal runs tasks without doing any work. A `Part` says how long the call for a task takes and
how it ends; a `Script` gives every task its part. `Actor` is an executor of a rehearsal: one that
follows the script, a stub that treats every task alike but for a few, or one that is offline.
-/

namespace Taskweave

/-- How a call ends. -/
inductive Ending where
  /-- It returns. -/
  | returned (result : ExecutionResult)
  /-- It breaks down, with a message if there is one. -/
  | brokeDown (message : Option String)
  /-- It returns an account of the task. -/
  | account

namespace Ending

/-- The account of a task: its name, its role and the dependencies whose results it got. -/
def accountOf (a : Assignment) : Json :=
  .obj [("inputs", .strings (Dict.keys a.dependencyResults)), ("role", .str a.role),
    ("task", .str a.id)]

/-- How the call of an executor ends. -/
def callEnd (a : Assignment) : Ending → CallEnd
  | .returned result => .returned result
  | .brokeDown message => .panicked message
  | .account => .returned (.ok (accountOf a))

end Ending

/-- How long the call for a task takes, in milliseconds, and how it ends. -/
structure Part where
  delay : Nat
  ending : Ending

/-- The parts of all tasks. -/
abbrev Script := TaskId → Part

/-- A stub: every call takes the same time; some tasks fail, some break down. -/
structure Stub where
  delay : Nat
  failing : Dict String
  panicking : List TaskId
deriving DecidableEq, Repr

/-- The part that a stub gives a task. -/
def Stub.part (s : Stub) (id : TaskId) : Part where
  delay := s.delay
  ending :=
    if s.panicking.contains id then .brokeDown (some ("fake executor panic for " ++ id))
    else
      match Dict.find? s.failing id with
      | some message => .returned (.error (.failed message))
      | none => .account

/-- An executor of a rehearsal. -/
inductive Actor where
  | scripted
  | stub (s : Stub)
  | offline
deriving DecidableEq, Repr

/-- The part that an actor gives a task. -/
def Actor.part (script : Script) (id : TaskId) : Actor → Part
  | .scripted => script id
  | .stub s => s.part id
  | .offline => ⟨0, .returned (.error (.unavailable "backend offline"))⟩

end Taskweave
