import Taskweave.Task.Record

/-!
# The ready queue

A first-in first-out queue of task names that holds each name at most once: `ReadyQueue.push`
ignores a name that is already waiting. The view is `ReadyQueue.order`, oldest first; next to it the
names are kept as a set, which is what `ReadyQueue.contains` and `ReadyQueue.push` look at.
-/

namespace Taskweave

/-- Tasks that wait for a free slot. -/
structure ReadyQueue where
  /-- The waiting tasks, oldest first. -/
  order : List TaskId
  /-- The waiting tasks as a set. -/
  members : List TaskId
deriving DecidableEq, Repr, Inhabited

namespace ReadyQueue

/-- The queue without a task. -/
def empty : ReadyQueue := ⟨[], []⟩

/-- Number of waiting tasks. -/
def size (q : ReadyQueue) : Nat := q.order.length

/-- Whether nothing waits. -/
def isEmpty (q : ReadyQueue) : Bool := q.order.isEmpty

/-- Whether a task waits. -/
def contains (q : ReadyQueue) (id : TaskId) : Bool := q.members.contains id

/-- Puts a task at the end unless it already waits. -/
def push (q : ReadyQueue) (id : TaskId) : ReadyQueue :=
  if q.contains id then q else ⟨q.order ++ [id], id :: q.members⟩

/-- Takes the oldest task. -/
def pop? (q : ReadyQueue) : Option (TaskId × ReadyQueue) :=
  match q.order with
  | [] => none
  | id :: rest => some (id, ⟨rest, q.members.filter (· != id)⟩)

/-- Takes tasks one after the other, `n` of them if so many wait. -/
def popMany : (n : Nat) → ReadyQueue → List TaskId × ReadyQueue
  | 0, q => ([], q)
  | n + 1, q =>
    match q.pop? with
    | none => ([], q)
    | some (id, q) =>
      let (ids, q) := popMany n q
      (id :: ids, q)

/-- How many tasks wait, or `limit` if that is less. -/
def available (q : ReadyQueue) (limit : Option Nat) : Nat := min (limit.getD q.size) q.size

/-- Takes the oldest tasks, at most `limit` of them, or all. -/
def drain (q : ReadyQueue) (limit : Option Nat) : List TaskId × ReadyQueue :=
  popMany (q.available limit) q

/-- Tasks are taken in their order. -/
theorem popMany_fst : ∀ (n : Nat) (q : ReadyQueue), (q.popMany n).1 = q.order.take n
  | 0, q => by simp [popMany]
  | n + 1, ⟨[], members⟩ => rfl
  | n + 1, ⟨id :: rest, members⟩ => by
    simp [popMany, pop?, popMany_fst n ⟨rest, members.filter (· != id)⟩]

/-- What is left keeps its order. -/
theorem order_popMany : ∀ (n : Nat) (q : ReadyQueue), (q.popMany n).2.order = q.order.drop n
  | 0, q => by simp [popMany]
  | n + 1, ⟨[], members⟩ => rfl
  | n + 1, ⟨id :: rest, members⟩ => by
    simp [popMany, pop?, order_popMany n ⟨rest, members.filter (· != id)⟩]

@[simp] theorem drain_fst (q : ReadyQueue) (limit : Option Nat) :
    (q.drain limit).1 = q.order.take (q.available limit) := popMany_fst _ q

@[simp] theorem order_drain (q : ReadyQueue) (limit : Option Nat) :
    (q.drain limit).2.order = q.order.drop (q.available limit) := order_popMany _ q

end ReadyQueue

end Taskweave
