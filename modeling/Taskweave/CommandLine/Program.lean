import Taskweave.CommandLine.Report
import Taskweave.Run.Session
import Taskweave.Store.Local
import Taskweave.Store.Memory
import Taskweave.Workflow.File

/-!
# The program

`Program.run` does what the options ask for: it loads the workflow from the disk, shows it or runs
it, and prints the last snapshot. What comes of it is an `Program.Ending`. A failure is a chain of messages,
each explained by the next.

The host for the commands, the digest of versions and the patterns are parameters.
-/

namespace Taskweave

/-- What comes of the program. -/
structure Program.Ending where
  stdout : String
  disk : Disk
  /-- The levels of the messages, oldest first. -/
  log : List LogLevel
  /-- The messages of a failure, outermost first. -/
  failure : Option (List String)

namespace Program.Ending

/-- The exit code. -/
def exitCode (e : Ending) : Nat := if e.failure.isSome then 1 else 0

/-- What is printed of a failure: its first message, then the ones that explain it. -/
def errorText (e : Ending) : Option String :=
  e.failure.map fun
    | [] => ""
    | message :: causes =>
      let numbered := causes.zipIdx.map fun (cause, i) => "    " ++ toString i ++ ": " ++ cause
      let shown := match causes with
        | [] => []
        | [cause] => ["", "Caused by:", "    " ++ cause]
        | _ => ["", "Caused by:"] ++ numbered
      "rolegraph error: " ++ "\n".intercalate (message :: shown)

/-- The levels that a log shows, each once, in the order of their labels. -/
def shown (limit : LogLevel) (e : Ending) : List String :=
  sortedSet ((e.log.filter limit.isShown).map LogLevel.label)

end Program.Ending

/-- What the program works with. -/
structure Program where
  host : Host
  digest : String → String
  /-- The lines that a pattern matches, if it is one. -/
  compile : String → Option (String → Bool)
  /-- The folder in which the program is started. -/
  folder : String

namespace Program

/-- The messages of an error beneath another message. -/
def failed (context : String) (e : Error) : List String := context :: e.chain

/-- Reads a workflow from the disk. -/
def load (p : Program) (path : String) (disk : Disk) : Except (List String) Workflow :=
  let loaded : Except Error Workflow := match disk.readFile path with
    | .error fault => .error (.io fault)
    | .ok text => Workflow.load (fun t => (p.compile t).isSome) (Utf8.encode text)
  loaded.mapError (failed ("loading workflow " ++ path))

/-- The folder of a workflow file. -/
def folderOf (p : Program) (path : String) : String :=
  let parent := Path.parent path
  if parent.isEmpty then p.folder else parent

/-- The path of a workspace. -/
def workspacePath (p : Program) (path workspace : String) : String :=
  if Path.isAbsolute workspace then workspace
  else if workspace.isEmpty then Path.join (p.folderOf path) ""
  else Path.join (p.folderOf path) workspace

/-- Opens the workspace of a workflow. -/
def openWorkspace (p : Program) (path workspace : String) (disk : Disk) :
    Except (List String) LocalStore × Disk :=
  let root := p.workspacePath path workspace
  match LocalStore.openAt root disk with
  | (.error e, disk) => (.error (failed ("opening workspace " ++ root) e), disk)
  | (.ok s, disk) => (.ok s, disk)

/-- The folder of the workspace that a run would open. -/
def workspace? (p : Program) (o : Options) (disk : Disk) : Option String :=
  match o.dryRun, p.load o.workflow disk with
  | false, .ok w => w.draft.settings.workspace.map (p.workspacePath o.workflow)
  | _, _ => none

/-- Registers the roles of a workflow. -/
def registerRoles (p : Program) (withMemory : Bool) (roles : Dict RoleSpec)
    (c : Coordinator CommandExecutor) : Except Error (Coordinator CommandExecutor) :=
  roles.foldlM
    (fun c (name, spec) => do
      let executor ← CommandExecutor.ofSpec p.compile name spec
      let memory := if withMemory then some ⟨name, spec.context⟩ else none
      c.register name { executor with memory })
    c

/-- Submits the tasks of a workflow in order. -/
def submitTasks (now : Instant) (w : Workflow) (c : Coordinator CommandExecutor) :
    Except Error (Coordinator CommandExecutor) :=
  w.order.foldlM
    (fun c id =>
      match Dict.find? w.draft.tasks id with
      | none => .ok c
      | some t => do
        let (_, c) ← c.submit now id t.role t.description t.after
        return c)
    c

/-- A coordinator with the roles and tasks of a workflow. -/
def prepare (p : Program) (o : Options) (now : Instant) (w : Workflow) :
    Except Error (Coordinator CommandExecutor) := do
  let settings := w.draft.settings
  let limit := o.maxConcurrency.orElse fun _ => settings.maxConcurrency
  let pollInterval ← w.pollInterval
  let c ← Coordinator.new (o.policy.getD settings.failurePolicy) ⟨limit, pollInterval⟩
  let c ← p.registerRoles settings.workspace.isSome w.draft.roles c
  submitTasks now w c

/-- The printed form of a snapshot. -/
def printed (o : Options) (s : Snapshot) : String :=
  (if o.compact then s.toJson.compact else s.toJson.pretty) ++ "\n"

/-- Runs what has been prepared. -/
def perform {σ : Type} [Store σ] (p : Program) (o : Options) (now : Instant)
    (c : Coordinator CommandExecutor) (store : σ) : String × List LogLevel × σ :=
  let s := Session.finish p.host p.digest ⟨c, store, now, [], [.info, .debug], none⟩
  (printed o s.coordinator.snapshot, s.log.reverse, s.store)

/-- Runs a workflow. -/
def runWorkflow (p : Program) (o : Options) (now : Instant) (w : Workflow) (disk : Disk) :
    Ending :=
  match w.draft.settings.workspace with
  | none =>
    match p.prepare o now w with
    | .error e => ⟨"", disk, [], some e.chain⟩
    | .ok c =>
      let (stdout, log, _) := p.perform o now c MemoryStore.empty
      ⟨stdout, disk, log, none⟩
  | some workspace =>
    match p.openWorkspace o.workflow workspace disk with
    | (.error chain, disk) => ⟨"", disk, [], some chain⟩
    | (.ok store, disk) =>
      match p.prepare o now w with
      | .error e => ⟨"", disk, [.info], some e.chain⟩
      | .ok c =>
        let (stdout, log, store) := p.perform o now c store
        ⟨stdout, store.disk, log, none⟩

/-- Does what the options ask for. -/
def run (p : Program) (o : Options) (now : Instant) (disk : Disk) : Ending :=
  match p.load o.workflow disk with
  | .error chain => ⟨"", disk, [], some chain⟩
  | .ok w =>
    if o.dryRun then ⟨w.account, disk, [.debug], none⟩ else p.runWorkflow o now w disk

end Program

end Taskweave
