import Taskweave.CommandLine.Level
import Taskweave.Task.Status

/-!
# Options of the program

`Options.parse` reads the arguments of the program from left to right. A setting takes a value, in
the same argument after `=` or as the next one; it is not looked at before the next option or the
end. A switch takes none. The first problem is the one reported.
-/

namespace Taskweave

/-- What the program is asked to do. -/
structure Options where
  workflow : String
  logLevel : Option LogLevel
  /-- Whether to show the workflow instead of running it. -/
  dryRun : Bool
  maxConcurrency : Option Nat
  policy : Option FailurePolicy
  /-- Whether to print the snapshot on one line. -/
  compact : Bool
deriving DecidableEq, Repr

/-- Why arguments do not start a run. -/
inductive UsageStop where
  /-- A value that is missing, empty or not among the known ones. -/
  | invalidValue
  /-- A value that is no number of the kind asked for. -/
  | invalidNumber
  /-- An option that is given twice. -/
  | repeated
  | unknownArgument
  /-- A value for an option that takes none. -/
  | unexpectedValue
  /-- Help is asked for, in full or in short. -/
  | help (full : Bool)
  /-- The version is asked for. -/
  | version
deriving DecidableEq, Repr

namespace UsageStop

/-- Whether the arguments ask for something that is no run. -/
def isRequest : UsageStop → Bool
  | .help _ | .version => true
  | _ => false

/-- The exit code of the program. -/
def exitCode (s : UsageStop) : Nat := if s.isRequest then 0 else 2

end UsageStop

namespace Options

/-- The workflow file that is used if none is named. -/
def defaultWorkflow : String := "Rolegraph.toml"

/-- An option with a value. -/
inductive Setting where
  | workflow
  | logLevel
  | maxConcurrency
  | policy
deriving DecidableEq, Repr

/-- An option without a value. -/
inductive Switch where
  | dryRun
  | compact
  | help (full : Bool)
  | version
deriving DecidableEq, Repr

/-- The setting with a name. -/
def setting? : String → Option Setting
  | "workflow" => some .workflow
  | "log-level" => some .logLevel
  | "max-concurrency" => some .maxConcurrency
  | "policy" => some .policy
  | _ => none

/-- The switch with a name. -/
def switch? : String → Option Switch
  | "dry-run" => some .dryRun
  | "compact" => some .compact
  | "help" => some (.help true)
  | "version" => some .version
  | _ => none

/-- The switch with a letter. -/
def letter? : Char → Option Switch
  | 'h' => some (.help false)
  | 'V' => some .version
  | _ => none

/-- What has been read. -/
structure Given where
  workflow : Option String
  logLevel : Option LogLevel
  maxConcurrency : Option Nat
  policy : Option FailurePolicy
  dryRun : Bool
  compact : Bool
deriving DecidableEq, Repr

/-- A whole number of 64 bits, with a plus sign or without. -/
def count? (text : String) : Option Nat :=
  let digits := match text.toList with
    | '+' :: cs => cs
    | cs => cs
  if digits.isEmpty || !digits.all Char.isDigit then none
  else
    let n := digits.foldl (fun n c => n * 10 + (c.toNat - 48)) 0
    if n < Nat.pow 2 64 then some n else none

/-- The option with a value, if it has not been given before and the value is one of its own. -/
def once {α : Type} (given : Option α) (stop : UsageStop) (value : Option α) :
    Except UsageStop (Option α) :=
  if given.isSome then .error .repeated
  else
    match value with
    | some x => .ok (some x)
    | none => .error stop

/-- The policy with a name. -/
def policy? : String → Option FailurePolicy
  | "block" => some .block
  | "cascade" => some .cascade
  | _ => none

/-- Takes a setting over; a value must have come with it. -/
def Given.set (d : Given) (s : Setting) : Option String → Except UsageStop Given
  | none => .error .invalidValue
  | some text =>
    match s with
    | .workflow => do
      let workflow ← once d.workflow .invalidValue (if text.isEmpty then none else some text)
      return { d with workflow }
    | .logLevel => do
      let logLevel ← once d.logLevel .invalidValue (LogLevel.ofName? text)
      return { d with logLevel }
    | .maxConcurrency => do
      let maxConcurrency ← once d.maxConcurrency .invalidNumber ((count? text).filter (1 ≤ ·))
      return { d with maxConcurrency }
    | .policy => do
      let policy ← once d.policy .invalidValue (policy? text)
      return { d with policy }

/-- Takes a switch over. -/
def Given.turn (d : Given) : Switch → Except UsageStop Given
  | .dryRun => if d.dryRun then .error .repeated else .ok { d with dryRun := true }
  | .compact => if d.compact then .error .repeated else .ok { d with compact := true }
  | .help full => .error (.help full)
  | .version => .error .version

/-- Arguments of which the first have been read. -/
structure Reader where
  given : Given
  /-- A setting that has not been taken over yet, with its value once that has been read. -/
  pending : Option (Setting × Option String)
  /-- Whether options are over. -/
  closed : Bool

namespace Reader

/-- Nothing has been read. -/
def start : Reader := ⟨⟨none, none, none, none, false, false⟩, none, false⟩

/-- Takes over the setting that waits. -/
def settle (r : Reader) : Except UsageStop Given :=
  match r.pending with
  | none => .ok r.given
  | some (s, value) => r.given.set s value

/-- Takes a switch over. -/
def turn (r : Reader) (s : Switch) : Except UsageStop Reader := do
  return ⟨← (← r.settle).turn s, none, false⟩

/-- Reads an option by its name, with the value that comes in the same argument. -/
def named (r : Reader) (name : String) (value : Option String) : Except UsageStop Reader :=
  match setting? name, switch? name, value with
  | some s, _, some text => do return ⟨← (← r.settle).set s (some text), none, false⟩
  | some s, _, none => do return ⟨← r.settle, some (s, none), false⟩
  | none, some _, some _ => .error .unexpectedValue
  | none, some s, none => r.turn s
  | none, none, _ => .error .unknownArgument

/-- Reads an argument that is no option. -/
def plain (r : Reader) (arg : String) : Except UsageStop Reader :=
  match r.pending with
  | some (s, none) => .ok { r with pending := some (s, some arg) }
  | _ => .error .unknownArgument

/-- Reads an argument. -/
def step (r : Reader) (arg : String) : Except UsageStop Reader :=
  if r.closed then .error .unknownArgument
  else
    match arg.toList with
    | ['-', '-'] => .ok { r with closed := true }
    | '-' :: '-' :: cs =>
      let name := cs.takeWhile (· != '=')
      let value := match cs.drop name.length with
        | _ :: value => some (String.ofList value)
        | [] => none
      r.named (String.ofList name) value
    | '-' :: c :: _ =>
      match letter? c with
      | some s => r.turn s
      | none => .error .unknownArgument
    | _ => r.plain arg

end Reader

/-- Reads the arguments of the program. -/
def parse (args : List String) : Except UsageStop Options := do
  let d ← (← args.foldlM Reader.step Reader.start).settle
  return ⟨d.workflow.getD defaultWorkflow, d.logLevel, d.dryRun, d.maxConcurrency, d.policy, d.compact⟩

end Options

end Taskweave
