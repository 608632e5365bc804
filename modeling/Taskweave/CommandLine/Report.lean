import Taskweave.CommandLine.Options
import Taskweave.Text.Quoted
import Taskweave.Workflow.Basic

/-!
# Reports

The texts that the program prints beside the snapshot: the account of a workflow that is not run
(`Workflow.account`), the version and the help.
-/

namespace Taskweave

/-- The name of a policy in an account. -/
def FailurePolicy.title : FailurePolicy → String
  | .block => "Block"
  | .cascade => "Cascade"

namespace Report

/-- Lines, each with its end. -/
def text (lines : List String) : String := String.join (lines.map (· ++ "\n"))

/-- A line for something that may be missing. -/
def optional (lead : String) (value : Option String) : List String :=
  (value.map (lead ++ ·)).toList

/-- The lines about the settings. -/
def settings (s : Settings) : List String :=
  ["  config.failure_policy = " ++ s.failurePolicy.title,
    "  config.max_concurrency = " ++ (s.maxConcurrency.map toString).getD "unbounded",
    "  config.poll_interval = " ++ s.pollInterval] ++
    optional "  config.workspace = " s.workspace

/-- The lines about a role. -/
def role (name : RoleName) (r : RoleSpec) : List String :=
  ["  - " ++ name, "      cmd: " ++ r.command] ++
    optional "      fail_on_stdout: " r.failOnStdout ++ optional "      timeout: " r.timeout

/-- The lines about a task. -/
def task (id : TaskId) (t : TaskSpec) : List String :=
  ["  - " ++ id ++ " [" ++ t.role ++ "]"] ++
    (if t.description.isEmpty then [] else ["      description: " ++ t.description]) ++
    (if t.after.isEmpty then []
    else ["      after: [" ++ ", ".intercalate (t.after.map Text.quoted) ++ "]"])

end Report

/-- What is shown of a workflow that is not run. -/
def Workflow.account (w : Workflow) : String :=
  let d := w.draft
  Report.text <|
    ["rolegraph dry-run"] ++ Report.settings d.settings ++
    ["", "roles (" ++ toString d.roles.length ++ "):"] ++
    d.roles.flatMap (fun (name, r) => Report.role name r) ++
    ["", "tasks (" ++ toString d.tasks.length ++ "), in submission order:"] ++
    w.order.flatMap fun id =>
      match Dict.find? d.tasks id with
      | some t => Report.task id t
      | none => []

namespace UsageStop

/-- The version of the program. -/
def versionText : String := "rolegraph 0.1.0\n"

/-- An option in the help: how it is written, and what it does in short and in full. -/
structure HelpItem where
  form : String
  short : String
  full : List String

/-- The options in the help. -/
def helpItems : List HelpItem :=
  [⟨"      --workflow <PATH>", "Path to the workflow file (TOML) [default: Rolegraph.toml]",
      ["Path to the workflow file (TOML).", "",
        "Default: " ++ tick ++ "Rolegraph.toml" ++ tick ++ " in the current working directory.", "",
        "[default: Rolegraph.toml]"]⟩,
    ⟨"      --log-level <LEVEL>",
      "Logging level (error, warn, info, debug, trace) [possible values: error, warn, info, debug, trace]",
      ["Logging level (error, warn, info, debug, trace).", "",
        "If omitted, " ++ tick ++ "ROLEGRAPH_LOG" ++ tick ++ " or a default level will be used.", "",
        "[possible values: error, warn, info, debug, trace]"]⟩,
    ⟨"      --dry-run", "Parse + validate, print roles and tasks, but don't execute anything",
      ["Parse + validate, print roles and tasks, but don't execute anything"]⟩,
    ⟨"      --max-concurrency <N>",
      "Maximum number of tasks running at once (overrides the workflow file)",
      ["Maximum number of tasks running at once (overrides the workflow file)"]⟩,
    ⟨"      --policy <POLICY>",
      "What happens to dependents of a failed task (overrides the workflow file) [possible values: block, cascade]",
      ["What happens to dependents of a failed task (overrides the workflow file)", "",
        "[possible values: block, cascade]"]⟩,
    ⟨"      --compact", "Print the final snapshot as single-line JSON",
      ["Print the final snapshot as single-line JSON"]⟩,
    ⟨"  -h, --help", "Print help (see more with '--help')",
      ["Print help (see a summary with '-h')"]⟩,
    ⟨"  -V, --version", "Print version", ["Print version"]⟩]
where
  /-- A backquote. -/
  tick : String := (Char.ofNat 0x60).toString

/-- The column at which the short help describes options. -/
def helpColumn : Nat := 29

/-- The help. -/
def helpText (full : Bool) : String :=
  let head :=
    ["Run role-based tasks in dependency order.", "", "Usage: rolegraph [OPTIONS]", "", "Options:"]
  let pad (s : String) : String := s ++ String.ofList (List.replicate (helpColumn - s.length) ' ')
  let items :=
    if full then
      "\n".intercalate (helpItems.map fun i =>
        Report.text (i.form :: i.full.map ("          " ++ ·)))
    else Report.text (helpItems.map fun i => pad i.form ++ i.short)
  Report.text head ++ items

/-- What is printed for arguments that cannot be used. -/
def complaint : UsageStop → Option String
  | .invalidValue => some "error: invalid value for an option"
  | .invalidNumber => some "error: invalid number for an option"
  | .repeated => some "error: an option cannot be used multiple times"
  | .unknownArgument => some "error: unexpected argument found"
  | .unexpectedValue => some "error: unexpected value for an option found"
  | .help _ | .version => none

/-- What is printed for a request. -/
def text : UsageStop → String
  | .help full => helpText full
  | .version => versionText
  | _ => ""

end UsageStop

end Taskweave
