import Taskweave.Error
import Taskweave.Task.Record
import Taskweave.Text.Quoted

/-!
# Executor registries

A `Registry` binds roles to executors of some type. It only grows: a bound role keeps its executor.
-/

namespace Taskweave

/-- Executors by role. -/
structure Registry (α : Type) where
  executors : Dict α
deriving Repr, Inhabited

namespace Registry

variable {α : Type}

/-- The registry without executors. -/
def empty : Registry α := ⟨[]⟩

/-- The executor of a role. -/
def find? (r : Registry α) (role : RoleName) : Option α := Dict.find? r.executors role

/-- Whether a role has an executor. -/
def contains (r : Registry α) (role : RoleName) : Bool := Dict.has r.executors role

/-- Binds a role that has no executor yet. -/
def register (r : Registry α) (role : RoleName) (executor : α) : Except Error (Registry α) :=
  if r.contains role then .error (.duplicateRole role)
  else .ok ⟨Dict.insert r.executors role executor⟩

/-- The bound roles, ascending. -/
def roles (r : Registry α) : List RoleName := Dict.keys r.executors

/-- Number of bound roles. -/
def size (r : Registry α) : Nat := r.executors.length

/-- Whether no role is bound. -/
def isEmpty (r : Registry α) : Bool := r.executors.isEmpty

/-- A summary for diagnosis: the bound roles, quoted. -/
def describe (r : Registry α) : String :=
  "ExecutorRegistry \x7b roles: [" ++ ", ".intercalate (r.roles.map Text.quoted) ++ "] \x7d"

end Registry

end Taskweave
