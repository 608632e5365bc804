/-!
# Dictionaries

A `Dict` is a list of key-value pairs in ascending key order, each key once. String order is by
code point, which is also the order of the UTF-8 bytes. The order is kept by `Dict.insert`, the
only way entries get in; `Dict.find?` is the view every other fact is stated through.
-/

namespace Taskweave

/-- Entries in ascending key order, each key once. -/
abbrev Dict (α : Type) := List (String × α)

namespace Dict

variable {α β : Type}

/-- The value bound to `k`. -/
def find? (d : Dict α) (k : String) : Option α := List.lookup k d

/-- Whether `k` is bound. -/
def has (d : Dict α) (k : String) : Bool := (find? d k).isSome

/-- Binds `k` to `v`, replacing an earlier binding. -/
def insert (d : Dict α) (k : String) (v : α) : Dict α :=
  match d with
  | [] => [(k, v)]
  | (k', v') :: rest =>
    if k < k' then (k, v) :: (k', v') :: rest
    else if k = k' then (k, v) :: rest
    else (k', v') :: insert rest k v

/-- Removes the binding of `k`. -/
def erase (d : Dict α) (k : String) : Dict α := d.filter fun e => e.1 != k

/-- Rebinds `k` to its value under `f`; an unbound key stays unbound. -/
def update (d : Dict α) (k : String) (f : α → α) : Dict α :=
  d.map fun e => if e.1 = k then (e.1, f e.2) else e

/-- Adds the entries of a list from left to right, so that of two with one key the later stays. -/
def ofList (entries : List (String × α)) : Dict α :=
  entries.foldl (fun d e => insert d e.1 e.2) []

/-- The entries of `d` overridden by those of `d'`. -/
def merge (d d' : Dict α) : Dict α :=
  d'.foldl (fun d e => insert d e.1 e.2) d

/-- The keys, ascending. -/
def keys (d : Dict α) : List String := d.map (·.1)

/-- The values, in key order. -/
def values (d : Dict α) : List α := d.map (·.2)

end Dict

/-- The strings in ascending order, repetitions kept. -/
def sortedStrings (xs : List String) : List String := xs.mergeSort fun a b => decide (a ≤ b)

/-- The strings in ascending order, each once. -/
def sortedSet (xs : List String) : List String :=
  (Dict.ofList (xs.map fun x => (x, ()))).keys

end Taskweave
