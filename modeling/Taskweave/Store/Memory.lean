import Taskweave.Dict
import Taskweave.Store.Basic

/-!
# The store in memory

A `MemoryStore` is a dictionary of texts. Keys are checked when something is written; any key can be
read.
-/

namespace Taskweave

/-- Texts under their keys. -/
structure MemoryStore where
  files : Dict String
deriving DecidableEq, Repr

namespace MemoryStore

/-- The store without keys. -/
def empty : MemoryStore := ⟨[]⟩

/-- The keys, ascending. -/
def keys (s : MemoryStore) : List String := Dict.keys s.files

/-- The text of a key. -/
def find? (s : MemoryStore) (path : String) : Option String := Dict.find? s.files path

/-- Binds a key to a text if the key is allowed. -/
def put (path content : String) (s : MemoryStore) : Except Error Unit × MemoryStore :=
  match Key.check path with
  | .error e => (.error e, s)
  | .ok () => (.ok (), ⟨Dict.insert s.files path content⟩)

/-- The keys in the same folder as a key. -/
def beside (s : MemoryStore) (path : String) : List String :=
  s.keys.filter fun k => Key.folder? k == Key.folder? path

instance : Store MemoryStore where
  write := put
  append path content s := put path ((s.find? path).getD "" ++ content) s
  read path s :=
    match s.find? path with
    | some content => .ok content
    | none => .error (.notFound path)
  has path s := (s.find? path).isSome
  siblings path s := .ok (s.beside path)
  size s := s.files.length

end MemoryStore

end Taskweave
