import Taskweave.Glob.Reader
import Taskweave.Json.Printer
import Taskweave.Store.Key

/-!
# Stores

A `Store` keeps texts under keys. On what it can do rest the versions of a key: `Store.saveVersion`
copies the text of a key to a key that is free and writes an account of the copy beside it;
`Store.versions` lists the copies, oldest first, and `Store.latestVersion` gives the last one.

The clock and the digest that goes into an account are parameters.
-/

namespace Taskweave

/-- Keeps texts under keys. A change that is refused may leave traces, so it has a new state too. -/
class Store (σ : Type) where
  /-- Binds a key to a text. -/
  write : String → String → σ → Except Error Unit × σ
  /-- Adds to the end of the text of a key, which starts empty. -/
  append : String → String → σ → Except Error Unit × σ
  /-- The text of a key. -/
  read : String → σ → Except Error String
  /-- Whether there is anything under a key. -/
  has : String → σ → Bool
  /-- The keys beside a key. -/
  siblings : String → σ → Except Error (List String)
  /-- The number of keys under which there is anything, at most. -/
  size : σ → Nat

namespace Store

variable {σ : Type} [Store σ]

/-- The account of a version. -/
def account (digest : String → String) (now : Instant) (path content : String) (metadata : Json) :
    Json :=
  .obj [("blake3", .str (digest content)), ("created_at", .str now.rfc3339Offset),
    ("metadata", metadata), ("source", .str path)]

/-- The key for a version saved now. The first `reserved` candidates are passed over. -/
def freeKey (now : Instant) (path : String) (reserved : Nat) (s : σ) : String :=
  Key.firstFree (has · s) (Key.version path now) (size s) reserved

/-- Copies the text of a key to a version, and writes the account of it. Returns the key of the
version. -/
def saveVersion (digest : String → String) (now : Instant) (path : String) (metadata : Json)
    (reserved : Nat) (s : σ) : Except Error String × σ :=
  match read path s with
  | .error e => (.error e, s)
  | .ok content =>
    let version := freeKey now path reserved s
    match write version content s with
    | (.error e, s) => (.error e, s)
    | (.ok (), s) =>
      match write (Key.account version) (account digest now path content metadata).compact s with
      | (.error e, s) => (.error e, s)
      | (.ok (), s) => (.ok version, s)

/-- A character with its meaning in globs taken off. A backslash keeps its meaning. -/
def escapeChar (c : Char) : List Char :=
  if ['*', '?', '[', ']', '\x7b', '\x7d'].contains c then ['[', c, ']'] else [c]

/-- The glob for the versions of a key: the key, a point, eight digits, a `T`, and anything without a
slash. -/
def versionGlob (path : String) : String :=
  String.ofList (path.toList.flatMap escapeChar) ++ "." ++
    String.join (List.replicate 8 "[0-9]") ++ "T*"

/-- The refusal of a glob. -/
def globError (text : String) (fault : GlobFault) : Error :=
  .other ("error parsing glob '" ++ text ++ "': " ++ fault.message) []

/-- The keys of the versions of a key, in ascending order. -/
def versions (path : String) (s : σ) : Except Error (List String) := do
  let text := versionGlob path
  let glob ← (Glob.read text).mapError (globError text)
  let keys ← siblings path s
  return sortedStrings (keys.filter fun k => glob.accepts k && !Key.isMeta k)

/-- The key of the last version of a key. -/
def latestVersion (path : String) (s : σ) : Except Error (Option String) := do
  return (← versions path s).getLast?

end Store

end Taskweave
