import Taskweave.Dict
import Taskweave.Number.Binary64

/-!
# JSON values

`Json` is a tree of nulls, truth values, numbers, strings, arrays and objects. The fields of an
object that was read are in ascending key order; an object that is built keeps the order it was
given, and is printed in that order.

A number is an integer where it was written as one and fits 64 bits, signed or unsigned, and a
double otherwise (`Number`). `Json.beq` decides equality by a structural walk, `beq_eq_true` ties
it to `=`.
-/

namespace Taskweave

/-- A number: an integer that fits 64 bits, or a double. -/
inductive Number where
  | int (n : Int)
  | float (x : Binary64)
deriving DecidableEq, Repr, Inhabited

/-- A JSON value. -/
inductive Json where
  | null
  | bool (b : Bool)
  | num (n : Number)
  | str (s : String)
  | arr (items : List Json)
  | obj (fields : List (String × Json))
deriving Repr, Inhabited

namespace Json

mutual
/-- Equality of two values, by a structural walk. -/
def beq : Json → Json → Bool
  | .null, .null => true
  | .bool a, .bool b => a == b
  | .num a, .num b => decide (a = b)
  | .str a, .str b => a == b
  | .arr xs, .arr ys => beqItems xs ys
  | .obj fs, .obj gs => beqFields fs gs
  | _, _ => false

/-- `beq` over the items of two arrays. -/
def beqItems : List Json → List Json → Bool
  | [], [] => true
  | x :: xs, y :: ys => beq x y && beqItems xs ys
  | _, _ => false

/-- `beq` over the fields of two objects. -/
def beqFields : List (String × Json) → List (String × Json) → Bool
  | [], [] => true
  | (k, x) :: xs, (l, y) :: ys => k == l && beq x y && beqFields xs ys
  | _, _ => false
end

mutual
/-- The walk accepts exactly equal values. -/
theorem beq_eq_true : ∀ {a b : Json}, beq a b = true ↔ a = b
  | .null, b => by cases b <;> simp [beq]
  | .bool _, b => by cases b <;> simp [beq]
  | .num _, b => by cases b <;> simp [beq]
  | .str _, b => by cases b <;> simp [beq]
  | .arr xs, b => by cases b <;> simp [beq, beqItems_eq_true]
  | .obj fs, b => by cases b <;> simp [beq, beqFields_eq_true]

/-- `beq_eq_true` over items. -/
theorem beqItems_eq_true : ∀ {xs ys : List Json}, beqItems xs ys = true ↔ xs = ys
  | [], ys => by cases ys <;> simp [beqItems]
  | x :: xs, ys => by cases ys <;> simp [beqItems, beq_eq_true, beqItems_eq_true]

/-- `beq_eq_true` over fields. -/
theorem beqFields_eq_true :
    ∀ {fs gs : List (String × Json)}, beqFields fs gs = true ↔ fs = gs
  | [], gs => by cases gs <;> simp [beqFields]
  | (k, x) :: fs, gs => by
    cases gs with
    | nil => simp [beqFields]
    | cons g gs => simp [beqFields, beq_eq_true, beqFields_eq_true, Prod.ext_iff, and_assoc]
end

instance : DecidableEq Json := fun a b => decidable_of_iff (beq a b = true) beq_eq_true

/-- A natural number as a JSON number. -/
def ofNat (n : Nat) : Json := .num (.int n)

/-- A string or `null`. -/
def ofString? : Option String → Json
  | none => .null
  | some s => .str s

/-- An array of strings. -/
def strings (xs : List String) : Json := .arr (xs.map .str)

/-- The value of a field of an object. -/
def field? : Json → String → Option Json
  | .obj fields, k => Dict.find? fields k
  | _, _ => none

end Json

end Taskweave
