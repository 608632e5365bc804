import Taskweave.Text.Blank
import Taskweave.Unicode.Lowercase

/-!
# Log levels

A `LogLevel` is the weight of a message. A log shows the messages that weigh at least as much as its
own level; `LogLevel.choose` finds that level.
-/

namespace Taskweave

/-- The weight of a message, heaviest first. -/
inductive LogLevel where
  | error
  | warn
  | info
  | debug
  | trace
deriving DecidableEq, Repr

namespace LogLevel

/-- The place of a level, the heaviest being 0. -/
def rank : LogLevel → Nat
  | .error => 0
  | .warn => 1
  | .info => 2
  | .debug => 3
  | .trace => 4

/-- The level with a name. -/
def ofName? : String → Option LogLevel
  | "error" => some .error
  | "warn" => some .warn
  | "info" => some .info
  | "debug" => some .debug
  | "trace" => some .trace
  | _ => none

/-- The name of a level in a log. -/
def label : LogLevel → String
  | .error => "ERROR"
  | .warn => "WARN"
  | .info => "INFO"
  | .debug => "DEBUG"
  | .trace => "TRACE"

/-- Reads a level; blanks around it and its case do not count, and `warning` will do. -/
def parse? (text : String) : Option LogLevel :=
  let name := Unicode.lower (Text.trim text)
  if name = "warning" then some .warn else ofName? name

/-- The environment variable that sets a level. -/
def environmentName : String := "ROLEGRAPH_LOG"

/-- The level asked for, else the one that the environment sets, else `info`. -/
def choose (asked : Option LogLevel) (environment : Option String) : LogLevel :=
  match asked with
  | some level => level
  | none => (environment.bind parse?).getD .info

/-- Whether a log of level `limit` shows a message. -/
def isShown (limit level : LogLevel) : Bool := level.rank ≤ limit.rank

end LogLevel

end Taskweave
