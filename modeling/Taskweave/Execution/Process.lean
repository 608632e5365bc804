import Taskweave.Error
import Taskweave.Time.Duration

/-!
# Processes

A `ProcessRequest` asks a `Host` to run a command; the host answers with a `FinishedProcess` and the
time it took, or with the fault that kept the process from starting. `ProcessRequest.check` finds the
faults that do not depend on the command.
-/

namespace Taskweave

/-- How a process ended. -/
inductive ExitStatus where
  | exited (code : Nat)
  | killed (signal : Nat)
deriving DecidableEq, Repr

/-- Whether a process succeeded. -/
def ExitStatus.isSuccess : ExitStatus → Bool
  | .exited 0 => true
  | _ => false

/-- The exit code, -1 for a process that was killed. -/
def ExitStatus.code : ExitStatus → Int
  | .exited code => code
  | .killed _ => -1

/-- What is left of a process. -/
structure FinishedProcess where
  status : ExitStatus
  stdout : List UInt8
  stderr : List UInt8
deriving DecidableEq, Repr

/-- What a process is started with. -/
structure ProcessRequest where
  command : String
  /-- The variables set for the process. -/
  environment : List (String × String)
  input : String
deriving DecidableEq, Repr

namespace ProcessRequest

/-- The most bytes of a single argument or variable, the NUL at its end included. -/
def maxArgument : Nat := 131072

/-- The texts that the system takes over for the process. -/
def arguments (r : ProcessRequest) : List String :=
  r.command :: r.environment.map fun (name, value) => name ++ "=" ++ value

/-- Refuses a request that no process can be started with. -/
def check (r : ProcessRequest) : Except OsFault Unit :=
  if r.arguments.any fun a => a.toList.contains '\x00' then .error .nulInData
  else if r.arguments.any fun a => maxArgument < a.utf8ByteSize + 1 then .error .argumentsTooLong
  else .ok ()

end ProcessRequest

/-- Runs processes: what is left of one, and the time it took. -/
abbrev Host := ProcessRequest → Except OsFault (FinishedProcess × Duration)

end Taskweave
