import Taskweave.Disk.Basic
import Taskweave.Store.Basic

/-!
# The store on a disk

A `LocalStore` keeps the text of a key in a file beneath its root folder. Every key is checked before
the disk is touched. `LocalStore.fileOf` is the path of the file of a key, and its parent the folder
in which the keys beside it are looked for.
-/

namespace Taskweave

/-- A folder of a disk. -/
structure LocalStore where
  root : String
  disk : Disk
deriving DecidableEq, Repr

namespace LocalStore

/-- Opens the store in a folder, which is made if it is missing. -/
def openAt (root : String) (disk : Disk) : Except Error LocalStore × Disk :=
  match disk.makeFolders root with
  | (.error fault, disk) =>
    (.error (.other ("creating store root " ++ Path.quoted root) [fault.message]), disk)
  | (.ok (), disk) => (.ok ⟨root, disk⟩, disk)

/-- The path of the file of a key. -/
def fileOf (s : LocalStore) (path : String) : String := Path.join s.root path

/-- The keys, ascending. -/
def keys (s : LocalStore) : List String :=
  match s.disk.locate s.root with
  | .ok place => (s.disk.filesBeneath place).map (·.1)
  | .error _ => []

/-- Makes the folder for a file and then changes the disk; `doing` is the beginning and the end of the
message if that fails. -/
def change (s : LocalStore) (path : String) (doing : String × String)
    (f : Disk → String → Except OsFault Disk) : Except Error Unit × LocalStore :=
  match Key.check path with
  | .error e => (.error e, s)
  | .ok () =>
    let file := s.fileOf path
    let folder := Path.parent file
    match s.disk.makeFolders folder with
    | (.error fault, disk) =>
      (.error (.other ("creating dir " ++ Path.quoted folder) [fault.message]), { s with disk })
    | (.ok (), disk) =>
      match f disk file with
      | .error fault =>
        (.error (.other (doing.1 ++ Path.quoted file ++ doing.2) [fault.message]), { s with disk })
      | .ok disk => (.ok (), { s with disk })

/-- The text of a key. -/
def readKey (s : LocalStore) (path : String) : Except Error String := do
  Key.check path
  match s.disk.readFile (s.fileOf path) with
  | .ok content => return content
  | .error .noSuchFile => throw (.notFound path)
  | .error fault => throw (.io fault)

/-- The keys beside a key. -/
def beside (s : LocalStore) (path : String) : Except Error (List String) := do
  Key.check path
  let lead := match Key.folder? path with
    | some folder => folder ++ "/"
    | none => ""
  match s.disk.filesIn (Path.parent (s.fileOf path)) with
  | .ok names => return names.map (lead ++ ·)
  | .error .noSuchFile => return []
  | .error fault => throw (.io fault)

instance : Store LocalStore where
  write path content s := s.change path ("writing file ", "") fun d file => d.put file content
  append path content s :=
    s.change path ("opening file ", " for append") fun d file => d.extend file content
  read path s := s.readKey path
  has path s := Key.isAllowed path && s.disk.has (s.fileOf path)
  siblings path s := s.beside path
  size s := s.disk.entries.length + 1

end LocalStore

end Taskweave
