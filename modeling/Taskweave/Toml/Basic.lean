import Taskweave.Json.Basic

/-!
# TOML values

`Toml` is a value of a TOML document: a string, an integer, a float, a truth value, a moment in
time, an array or a table. A moment is kept as its normal text. `Toml.toJson?` is the JSON value
that a TOML value stands for; `Toml.entries?` lets tables be taken apart.
-/

namespace Taskweave

/-- A floating-point number: a finite double, an infinity or not a number. -/
inductive Real64 where
  | finite (x : Binary64)
  | infinite (negative : Bool)
  | nan
deriving DecidableEq, Repr

/-- A TOML value; the entries of a table are in ascending key order. -/
inductive Toml where
  | string (s : String)
  | integer (n : Int)
  | float (x : Real64)
  | boolean (b : Bool)
  | moment (text : String)
  | array (items : List Toml)
  | table (entries : List (String × Toml))
deriving Repr, Inhabited

namespace Toml

/-- The key under which a moment shows its text where a table is looked for. -/
def momentKey : String := "$__toml_private_datetime"

/-- The entries of a table. A moment counts as a table with its text as the only entry. -/
def entries? : Toml → Option (Dict Toml)
  | .table entries => some entries
  | .moment text => some [(momentKey, .string text)]
  | _ => none

/-- Whether an integer fits 64 bits, signed or unsigned. -/
def fits64 (n : Int) : Bool := -(Nat.pow 2 63 : Int) ≤ n && n < (Nat.pow 2 64 : Int)

mutual
/-- A value as JSON: floats that are not finite become `null`, a moment an object with its text.
Integers beyond 64 bits have no JSON value here. -/
def toJson? : Toml → Option Json
  | .string s => some (.str s)
  | .integer n => if fits64 n then some (.num (.int n)) else none
  | .float (.finite x) => some (.num (.float x))
  | .float _ => some .null
  | .boolean b => some (.bool b)
  | .moment text => some (.obj [(momentKey, .str text)])
  | .array items => (itemsToJson? items).map .arr
  | .table entries => (entriesToJson? entries).map .obj

/-- `toJson?` over the items of an array. -/
def itemsToJson? : List Toml → Option (List Json)
  | [] => some []
  | v :: rest => do
    let v ← toJson? v
    let rest ← itemsToJson? rest
    some (v :: rest)

/-- `toJson?` over the entries of a table. -/
def entriesToJson? : List (String × Toml) → Option (List (String × Json))
  | [] => some []
  | (k, v) :: rest => do
    let v ← toJson? v
    let rest ← entriesToJson? rest
    some ((k, v) :: rest)
end

end Toml

end Taskweave
