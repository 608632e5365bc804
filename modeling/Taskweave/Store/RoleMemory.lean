import Taskweave.Dict
import Taskweave.Json.Reader
import Taskweave.Store.Basic
import Taskweave.Task.Record

/-!
# Role memories

A `RoleMemory` is what one role keeps in a store that it may share with others: a document with its
state, of which every change saves a version, and documents that it hands to other roles.
`RoleMemory.update` merges an object into the state; `RoleMemory.history` reads all versions back.
-/

namespace Taskweave

/-- The memory of a role. -/
structure RoleMemory where
  role : RoleName
  /-- Saved beside the state. -/
  context : Dict Json

namespace RoleMemory

variable {σ : Type} [Store σ]

/-- The memory of a role, without context. -/
def new (role : RoleName) : RoleMemory := ⟨role, []⟩

/-- The key of the state. -/
def statePath (m : RoleMemory) : String := "states/" ++ m.role ++ "_state.json"

/-- The key of what one role has handed to another. -/
def sharedPath (sender receiver : RoleName) : String :=
  "shared/" ++ sender ++ "_" ++ receiver ++ "_shared.json"

/-- A text as JSON. -/
def parse (text : String) : Except Error Json :=
  match Json.read? text with
  | some v => .ok v
  | none => .error .json

/-- The state in a document, empty if it holds none. -/
def stateIn (doc : Json) : Dict Json :=
  match doc.field? "state" with
  | some (.obj state) => state
  | _ => []

/-- The state, empty as long as none has been saved. -/
def load (m : RoleMemory) (s : σ) : Except Error (Dict Json) :=
  match Store.read m.statePath s with
  | .ok text => (parse text).map stateIn
  | .error (.notFound _) => .ok []
  | .error e => .error e

/-- The document for a state. -/
def document (m : RoleMemory) (now : Instant) (state : Dict Json) : Json :=
  .obj [("context", .obj m.context), ("state", .obj state), ("timestamp", .str now.rfc3339Offset)]

/-- Replaces the state, and saves a version. -/
def save (m : RoleMemory) (digest : String → String) (now : Instant) (state : Dict Json) (s : σ) :
    Except Error Unit × σ :=
  match Store.write m.statePath (m.document now state).compact s with
  | (.error e, s) => (.error e, s)
  | (.ok (), s) =>
    match Store.saveVersion digest now m.statePath (.obj [("role", .str m.role)]) 0 s with
    | (.error e, s) => (.error e, s)
    | (.ok _, s) => (.ok (), s)

/-- Adds the fields of an object to the state, of two with one name the later staying. Returns the
new state. -/
def update (m : RoleMemory) (digest : String → String) (now : Instant) (updates : Json) (s : σ) :
    Except Error (Dict Json) × σ :=
  match updates with
  | .obj fields =>
    match m.load s with
    | .error e => (.error e, s)
    | .ok state =>
      let state := Dict.merge state fields
      match m.save digest now state s with
      | (.error e, s) => (.error e, s)
      | (.ok (), s) => (.ok state, s)
  | _ => (.error (.config .updatesNotObject), s)

/-- The document of a version, if it can be read. -/
def documentOf? (version : String) (s : σ) : Option Json :=
  match Store.read version s with
  | .ok text => Json.read? text
  | .error _ => none

/-- The documents of all versions that can be read, oldest first. -/
def history (m : RoleMemory) (s : σ) : Except Error (List Json) := do
  return (← Store.versions m.statePath s).filterMap (documentOf? · s)

/-- Hands a value to another role. -/
def share (m : RoleMemory) (now : Instant) (receiver : RoleName) (data : Json) (s : σ) :
    Except Error Unit × σ :=
  let doc : Json :=
    .obj [("data", data), ("from_role", .str m.role), ("timestamp", .str now.rfc3339Offset),
      ("to_role", .str receiver)]
  Store.write (sharedPath m.role receiver) doc.compact s

/-- What another role handed over last. -/
def sharedFrom (m : RoleMemory) (sender : RoleName) (s : σ) : Except Error (Option Json) :=
  match Store.read (sharedPath sender m.role) s with
  | .ok text => (parse text).map some
  | .error (.notFound _) => .ok none
  | .error e => .error e

end RoleMemory

end Taskweave
