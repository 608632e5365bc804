import Taskweave.Execution.ExecutorError
import Taskweave.Execution.Process
import Taskweave.Store.RoleMemory
import Taskweave.Workflow.Basic

/-!
# Command executors

A `CommandExecutor` serves a role by running a shell command for each of its tasks. The description
of the task goes to the standard input of the command, and with it into variables
(`CommandExecutor.request`). `CommandExecutor.outcome` says what a finished process means: a failed
one is a failure whatever it wrote; of a successful one the output is the result, unless a line of it
matches the pattern of the role. `CommandExecutor.remember` records a result in the memory of the
role.
-/

namespace Taskweave

/-- Serves a role by a shell command. -/
structure CommandExecutor where
  role : RoleName
  command : String
  /-- The lines of output that make a task fail. -/
  failsOn : Option (String → Bool)
  timeout : Option Duration
  memory : Option RoleMemory

namespace CommandExecutor

/-- The executor of a role. `compile` gives the lines that a pattern matches, if it is one. -/
def ofSpec (compile : String → Option (String → Bool)) (role : RoleName) (spec : RoleSpec) :
    Except Error CommandExecutor := do
  let failsOn ← match spec.failOnStdout with
    | none => pure none
    | some text =>
      match compile text with
      | some lines => pure (some lines)
      | none => throw (.config (.invalidPattern role))
  let timeout ← spec.timeLimit
  return ⟨role, spec.command, failsOn, timeout, none⟩

/-- What a process is started with for a task. -/
def request (e : CommandExecutor) (a : Assignment) : ProcessRequest where
  command := e.command
  environment :=
    [("ROLEGRAPH_TASK_ID", a.id), ("ROLEGRAPH_ROLE", a.role),
      ("ROLEGRAPH_DESCRIPTION", a.description),
      ("ROLEGRAPH_DEPENDENCY_RESULTS", (Json.obj a.dependencyResults).compact)]
  input := a.description

/-- Output as a result: nothing but blanks counts as an empty text, JSON as itself, anything else as
a text. -/
def parseOutput (stdout : String) : Json :=
  if Text.isBlankText stdout then .obj [("stdout", .str "")]
  else
    match Json.read? (Text.trim stdout) with
    | some v => v
    | none => .obj [("stdout", .str stdout)]

/-- The message for a process that failed: its code, and the last line of its errors unless that is
blank. -/
def failureMessage (status : ExitStatus) (stderr : String) : String :=
  let detail := Text.trim ((Text.lines stderr).getLastD "")
  "command exited with code " ++ toString status.code ++
    (if detail.isEmpty then "" else ": " ++ detail)

/-- What a finished process means. -/
def outcome (failsOn : Option (String → Bool)) (p : FinishedProcess) : ExecutionResult :=
  let stdout := Utf8.decodeLossy p.stdout
  if !p.status.isSuccess then
    .error (.failed (failureMessage p.status (Utf8.decodeLossy p.stderr)))
  else
    match failsOn.bind fun fails => (Text.lines stdout).find? fails with
    | some line => .error (.failed ("stdout matched fail_on_stdout: " ++ Text.trim line))
    | none => .ok (parseOutput stdout)

/-- The process of a role could not be started. -/
def notStarted (role : RoleName) (fault : OsFault) : ExecutorError :=
  .unavailable ("spawning process for role '" ++ role ++ "': " ++ fault.message)

/-- Runs the command for a task: the result, and the time until it is there. A command that is not
over within the timeout is stopped; that is so at once for a timeout of zero. -/
def execute (e : CommandExecutor) (host : Host) (a : Assignment) : ExecutionResult × Duration :=
  match host (e.request a) with
  | .error fault => (.error (notStarted e.role fault), ⟨0⟩)
  | .ok (p, time) =>
    match e.timeout with
    | none => (outcome e.failsOn p, time)
    | some limit =>
      if limit.nanos ≤ time.nanos then (.error (.timedOut limit), limit)
      else (outcome e.failsOn p, time)

/-- What a result adds to the state of a role. -/
def record (a : Assignment) (value : Json) : Json :=
  .obj [("last_result", value), ("last_task", .str a.id)]

/-- Records a result in the memory of the role, if there is a result and a memory. An error that comes
of it is returned and changes nothing else. -/
def remember {σ : Type} [Store σ] (e : CommandExecutor) (digest : String → String) (now : Instant)
    (a : Assignment) (result : ExecutionResult) (s : σ) : Option Error × σ :=
  match e.memory, result with
  | some m, .ok value =>
    match m.update digest now (record a value) s with
    | (.ok _, s) => (none, s)
    | (.error fault, s) => (some fault, s)
  | _, _ => (none, s)

end CommandExecutor

end Taskweave
