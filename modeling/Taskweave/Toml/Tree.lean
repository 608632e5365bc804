import Taskweave.Toml.Basic

/-!
# TOML tables under construction

A document gives the entries of its tables in pieces, and TOML has rules on which pieces may meet.
`Toml.Node` is what a key is bound to while pieces arrive: a finished value, a table that remembers
how it came about (`Origin`), or the tables of an array of tables. `Node.openTable?`,
`Node.openItem?` and `Node.assign?` are the three ways to add a piece, and `Node.freeze` makes the
value.
-/

namespace Taskweave.Toml

/-- How a table came about. -/
structure Origin where
  /-- Whether it was only named on the way to something below it. -/
  implied : Bool
  /-- Whether it was named by a key with dots, and not by a header. -/
  dotted : Bool
deriving DecidableEq, Repr

/-- A table with a header of its own, or one written in a single value. -/
def Origin.explicit : Origin := ⟨false, false⟩

/-- What a key is bound to. -/
inductive Node where
  | value (v : Toml)
  | table (origin : Origin) (entries : List (String × Node))
  /-- An array of tables; `earlier` holds all but the last, in reverse. -/
  | tables (earlier : List (List (String × Node))) (last : List (String × Node))

/-- The entries of a table under construction. -/
abbrev Entries := Dict Node

namespace Node

/-- Rebuilds the table at the end of a path with `change`, which sees how it came about. Tables that
are missing on the way are implied; of an array of tables the last one is meant. Keys with dots lead
only through implied tables. -/
def reach? (dotted : Bool) (change : Origin → Entries → Option (Origin × Entries)) :
    List String → Origin → Entries → Option (Origin × Entries)
  | [], origin, entries => change origin entries
  | k :: path, origin, entries =>
    match Dict.find? entries k with
    | none =>
      (reach? dotted change path ⟨true, dotted⟩ []).map fun (o, es) =>
        (origin, Dict.insert entries k (.table o es))
    | some (.table o es) =>
      if dotted && !o.implied then none
      else
        (reach? dotted change path o es).map fun (o, es) =>
          (origin, Dict.insert entries k (.table o es))
    | some (.tables earlier last) =>
      (reach? dotted change path .explicit last).map fun (_, last) =>
        (origin, Dict.insert entries k (.tables earlier last))
    | some (.value _) => none

/-- Opens the table named `k` by a header of its own. It may have been implied by other headers. -/
def openKey? (k : String) (origin : Origin) (entries : Entries) : Option (Origin × Entries) :=
  match Dict.find? entries k with
  | none => some (origin, Dict.insert entries k (.table .explicit []))
  | some (.table o es) =>
    if o.implied && !o.dotted then some (origin, Dict.insert entries k (.table .explicit es))
    else none
  | some _ => none

/-- Opens one more table of the array of tables named `k`. -/
def openItemKey? (k : String) (origin : Origin) (entries : Entries) : Option (Origin × Entries) :=
  match Dict.find? entries k with
  | none => some (origin, Dict.insert entries k (.tables [] []))
  | some (.tables earlier last) =>
    some (origin, Dict.insert entries k (.tables (last :: earlier) []))
  | some _ => none

/-- Binds `k` in a table. A key with dots ends in a table that such keys named, any other in one
that they did not, and nothing is bound twice. -/
def bindKey? (dotted : Bool) (k : String) (v : Toml) (origin : Origin) (entries : Entries) :
    Option (Origin × Entries) :=
  if origin.dotted != dotted || Dict.has entries k then none
  else some (origin, Dict.insert entries k (.value v))

/-- Opens a table below the top, `path` and `k` being the parts of its header. -/
def openTable? (path : List String) (k : String) (top : Entries) : Option Entries :=
  (reach? false (openKey? k) path .explicit top).map (·.2)

/-- Opens one more table of an array of tables. -/
def openItem? (path : List String) (k : String) (top : Entries) : Option Entries :=
  (reach? false (openItemKey? k) path .explicit top).map (·.2)

/-- Binds the key with the parts `path` and `k` in a table. -/
def bind? (path : List String) (k : String) (v : Toml) (origin : Origin) (entries : Entries) :
    Option (Origin × Entries) :=
  reach? (!path.isEmpty) (bindKey? (!path.isEmpty) k v) path origin entries

/-- Binds a key in the table that was opened last, `within` being the parts of its header. -/
def assign? (within path : List String) (k : String) (v : Toml) (top : Entries) :
    Option Entries :=
  (reach? false (bind? path k v) within .explicit top).map (·.2)

mutual
/-- The value of a node. -/
def freeze : Node → Toml
  | .value v => v
  | .table _ entries => .table (freezeEntries entries)
  | .tables earlier last => .array (freezeTables [.table (freezeEntries last)] earlier)

/-- The values of entries. -/
def freezeEntries : List (String × Node) → List (String × Toml)
  | [] => []
  | (k, n) :: rest => (k, freeze n) :: freezeEntries rest

/-- The values of tables in reverse, followed by `later`. -/
def freezeTables (later : List Toml) : List (List (String × Node)) → List Toml
  | [] => later
  | entries :: rest => freezeTables (.table (freezeEntries entries) :: later) rest
end

end Node

end Taskweave.Toml
