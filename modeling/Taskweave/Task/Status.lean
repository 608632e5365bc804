import Taskweave.Json.Basic
import Taskweave.Text.Blank
import Taskweave.Unicode.Lowercase

/-!
# Statuses and failure policies

A task waits (`pending`, `blocked`), runs (`inProgress`) or has ended (`completed`, `failed`).
`FailurePolicy` says what a failure does to the tasks that depend on it.
-/

namespace Taskweave

/-- Where a task stands. -/
inductive Status where
  | pending
  | blocked
  | inProgress
  | completed
  | failed
deriving DecidableEq, Repr, Inhabited

namespace Status

/-- The word for a status in reports. -/
def name : Status → String
  | .pending => "pending"
  | .blocked => "blocked"
  | .inProgress => "in_progress"
  | .completed => "completed"
  | .failed => "failed"

/-- All statuses. -/
def all : List Status := [.pending, .blocked, .inProgress, .completed, .failed]

/-- The status with the given word. -/
def ofName? (s : String) : Option Status := all.find? fun x => x.name == s

/-- Whether a task with this status never changes again. -/
def isTerminal : Status → Bool
  | .completed | .failed => true
  | _ => false

/-- Whether a task with this status has not been started and may still be. -/
def isWaiting : Status → Bool
  | .pending | .blocked => true
  | _ => false

/-- Reads a status from a report: the word itself, or an object with the word as its only name and
`null` as its value. -/
def ofJson? : Json → Option Status
  | .str s => ofName? s
  | .obj [(k, .null)] => ofName? k
  | _ => none

end Status

/-- What a failure does to dependents: they stay blocked, or they fail as well. -/
inductive FailurePolicy where
  | block
  | cascade
deriving DecidableEq, Repr, Inhabited

namespace FailurePolicy

/-- The explanation for a text that names no policy; `name` is in lower case. -/
def unknownMessage (name : String) : String :=
  "invalid failure_policy: " ++ name ++ " (expected \"block\" or \"cascade\")"

/-- Reads a policy; blanks around it and its case do not count. The error is the text that was
compared. -/
def parse (text : String) : Except String FailurePolicy :=
  let name := Unicode.lower (Text.trim text)
  if name = "block" then .ok .block
  else if name = "cascade" then .ok .cascade
  else .error name

end FailurePolicy

end Taskweave
