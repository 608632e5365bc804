import Taskweave.Text.Utf8
import Taskweave.Toml.Reader
import Taskweave.Workflow.Basic

/-!
# Workflow files

`Draft.read` reads a workflow from the bytes of a TOML file, `Workflow.load` checks it too. Sections
that are left out are empty, settings that are left out have their defaults, and keys that are not
known are passed over. Each record may also be written as an array of its values, in the order in
which the library lists them.
-/

namespace Taskweave

namespace Toml

/-- The values of a record by name. An array gives them by position. -/
def record? (names : List String) : Toml → Option (Dict Toml)
  | .array items => some (names.zip items)
  | v => v.entries?

/-- A string. -/
def string? : Toml → Option String
  | .string s => some s
  | _ => none

/-- An array of strings. -/
def strings? : Toml → Option (List String)
  | .array items => items.mapM string?
  | _ => none

/-- A number of something, which fits 64 bits. -/
def count? : Toml → Option Nat
  | .integer n => if 0 ≤ n ∧ n < (Nat.pow 2 64 : Int) then some n.toNat else none
  | _ => none

/-- A table of JSON values. -/
def object? (v : Toml) : Option (Dict Json) := v.entries?.bind entriesToJson?

/-- A table with entries of one kind. -/
def tableOf? {α : Type} (read : Toml → Option α) (v : Toml) : Option (Dict α) := do
  let entries ← v.entries?
  entries.mapM fun (k, v) => (read v).map fun x => (k, x)

/-- An entry that has to be there. -/
def required? {α : Type} (read : Toml → Option α) (k : String) (fields : Dict Toml) : Option α :=
  (Dict.find? fields k).bind read

/-- An entry with a value of its own where it is left out. -/
def withDefault? {α : Type} (default : α) (read : Toml → Option α) (k : String)
    (fields : Dict Toml) : Option α :=
  match Dict.find? fields k with
  | none => some default
  | some v => read v

/-- An entry that may be left out. -/
def optional? {α : Type} (read : Toml → Option α) : String → Dict Toml → Option (Option α) :=
  withDefault? none fun v => (read v).map some

end Toml

/-- The policy with a name, in lower case. -/
def FailurePolicy.ofName? (name : String) : Option FailurePolicy :=
  if name = "block" then some .block
  else if name = "cascade" then some .cascade
  else none

/-- A policy, by its name or as a table with the name as only key and nothing under it. -/
def FailurePolicy.ofToml? : Toml → Option FailurePolicy
  | .string name => FailurePolicy.ofName? name
  | .table [(name, .array [])] => FailurePolicy.ofName? name
  | .table [(name, .table [])] => FailurePolicy.ofName? name
  | _ => none

/-- The settings of a workflow. -/
def Settings.ofToml? (v : Toml) : Option Settings := do
  let fields ← v.record? ["max_concurrency", "failure_policy", "poll_interval", "workspace"]
  let limit ← Toml.optional? Toml.count? "max_concurrency" fields
  let policy ← Toml.withDefault? .block FailurePolicy.ofToml? "failure_policy" fields
  let poll ← Toml.withDefault? Settings.default.pollInterval Toml.string? "poll_interval" fields
  let workspace ← Toml.optional? Toml.string? "workspace" fields
  some ⟨limit, policy, poll, workspace⟩

/-- A role. -/
def RoleSpec.ofToml? (v : Toml) : Option RoleSpec := do
  let fields ← v.record? ["cmd", "fail_on_stdout", "timeout", "context"]
  let command ← Toml.required? Toml.string? "cmd" fields
  let pattern ← Toml.optional? Toml.string? "fail_on_stdout" fields
  let timeout ← Toml.optional? Toml.string? "timeout" fields
  let context ← Toml.withDefault? [] Toml.object? "context" fields
  some ⟨command, pattern, timeout, context⟩

/-- A task. -/
def TaskSpec.ofToml? (v : Toml) : Option TaskSpec := do
  let fields ← v.record? ["role", "description", "after"]
  let role ← Toml.required? Toml.string? "role" fields
  let description ← Toml.withDefault? "" Toml.string? "description" fields
  let after ← Toml.withDefault? [] Toml.strings? "after" fields
  some ⟨role, description, after⟩

namespace Draft

/-- A workflow from the table of its file. -/
def ofToml? (v : Toml) : Option Draft := do
  let sections ← v.entries?
  let settings ← Toml.withDefault? Settings.default Settings.ofToml? "config" sections
  let roles ← Toml.withDefault? [] (Toml.tableOf? RoleSpec.ofToml?) "role" sections
  let tasks ← Toml.withDefault? [] (Toml.tableOf? TaskSpec.ofToml?) "task" sections
  some ⟨settings, roles, tasks⟩

/-- Reads a workflow from the bytes of a file. -/
def read (bytes : List UInt8) : Except Error Draft :=
  match Utf8.decode? bytes with
  | none => .error (.io .notUtf8)
  | some text =>
    match (Toml.read? text).bind ofToml? with
    | none => .error .toml
    | some d => .ok d

end Draft

/-- Reads and checks a workflow. -/
def Workflow.load (isPattern : String → Bool) (bytes : List UInt8) : Except Error Workflow :=
  match Draft.read bytes with
  | .error e => .error e
  | .ok d => Workflow.ofDraft isPattern d

end Taskweave
