import Taskweave.Dict
import Taskweave.Disk.Path
import Taskweave.Error

/-!
# Disks

A `Disk` is a tree of folders and files, kept as a dictionary from places to what is there, with the
place at which relative paths start. A `Disk.Place` is the list of the names on the way down from the
top. `Disk.walk` follows the names of a path; `Disk.locate` does so after refusing paths that are
empty, too long or hold a NUL.

`Disk.makeFolders` makes a folder and those above it, `Disk.put` and `Disk.extend` write a file,
`Disk.readFile` and `Disk.filesIn` read a file and a folder.
-/

namespace Taskweave

/-- What there is at a place. -/
inductive Disk.Entry where
  | folder
  | file (content : String)
deriving DecidableEq, Repr

/-- The names on the way down from the top. -/
abbrev Disk.Place := List String

/-- The most bytes that a name and a path have; any number where nothing is said. -/
structure Disk.Limits where
  name : Option Nat
  path : Option Nat
deriving DecidableEq, Repr

/-- A tree of folders and files. -/
structure Disk where
  /-- What there is, under the places written as paths from the top. The top itself is always a folder
  and has no entry. -/
  entries : Dict Disk.Entry
  /-- Where relative paths start. -/
  here : Disk.Place
  limits : Disk.Limits
deriving DecidableEq, Repr

namespace Disk

/-- The limits of Linux. -/
def Limits.linux : Limits := ⟨some 255, some 4095⟩

/-- The disk with nothing on it. -/
def empty : Disk := ⟨[], [], .linux⟩

/-- A place as a path from the top. -/
def keyOf (place : Place) : String := "/".intercalate place

/-- What there is at a place. -/
def entry? (d : Disk) (place : Place) : Option Entry :=
  if place.isEmpty then some .folder else Dict.find? d.entries (keyOf place)

/-- Puts something at a place. -/
def set (d : Disk) (place : Place) (e : Entry) : Disk :=
  { d with entries := Dict.insert d.entries (keyOf place) e }

/-- The place at which a path starts. -/
def origin (d : Disk) (path : String) : Place := if Path.isAbsolute path then [] else d.here

/-- Whether a text has more bytes than a limit allows. -/
def exceeds (text : String) (limit : Option Nat) : Bool := limit.any (text.utf8ByteSize > ·)

/-- Refuses a path that a disk cannot know. -/
def checkPath (d : Disk) (path : String) : Except OsFault Unit :=
  if path.toList.contains '\x00' then .error .nulInPath
  else if path.isEmpty then .error .noSuchFile
  else if exceeds path d.limits.path then .error .nameTooLong
  else .ok ()

/-- Follows names from a place. Every name but the last must lead to a folder. -/
def walk (d : Disk) (place : Place) : List String → Except OsFault Place
  | [] => .ok place
  | name :: names =>
    if d.entry? place ≠ some .folder then .error .notADirectory
    else if Path.isVoid name then walk d place names
    else if name = ".." then walk d place.dropLast names
    else if exceeds name d.limits.name then .error .nameTooLong
    else if (d.entry? (place ++ [name])).isNone then .error .noSuchFile
    else walk d (place ++ [name]) names

/-- The place that a path leads to. -/
def locate (d : Disk) (path : String) : Except OsFault Place := do
  d.checkPath path
  d.walk (d.origin path) (Path.names path)

/-- Whether a path leads anywhere. -/
def has (d : Disk) (path : String) : Bool :=
  match d.locate path with
  | .ok _ => true
  | .error _ => false

/-- The text of the file that a path leads to. -/
def readFile (d : Disk) (path : String) : Except OsFault String := do
  match d.entry? (← d.locate path) with
  | some (.file content) => return content
  | _ => throw .isADirectory

/-- Makes the folders that are missing on the way along some names. A last name that is a point makes
nothing. -/
def makeAlong (d : Disk) (place : Place) : List String → Except OsFault Unit × Disk
  | [] => (.ok (), d)
  | name :: names =>
    if Path.isVoid name then makeAlong d place names
    else if name = ".." then makeAlong d place.dropLast names
    else if exceeds name d.limits.name then (.error .nameTooLong, d)
    else
      let next := place ++ [name]
      match d.entry? next with
      | some .folder => makeAlong d next names
      | some (.file _) =>
        (.error (if names.all String.isEmpty then .exists else .notADirectory), d)
      | none =>
        if names.all Path.isVoid && names.contains "." then (.error .noSuchFile, d)
        else makeAlong (d.set next .folder) next names

/-- Makes the folder that a path leads to, and those above it. What has been made stays if the rest
cannot be. -/
def makeFolders (d : Disk) (path : String) : Except OsFault Unit × Disk :=
  match d.checkPath path with
  | .error fault => (.error fault, d)
  | .ok () => makeAlong d (d.origin path) (Path.names path)

/-- The place of a file that is written under a name in a folder. An empty name behind it asks for a
folder. -/
def fileAt (d : Disk) (place : Place) (name : String) (emptyBehind : Bool) : Except OsFault Place :=
  if d.entry? place ≠ some .folder then .error .notADirectory
  else if name = "." || name = ".." || emptyBehind then .error .isADirectory
  else if exceeds name d.limits.name then .error .nameTooLong
  else if d.entry? (place ++ [name]) = some .folder then .error .isADirectory
  else .ok (place ++ [name])

/-- The place of the file that is written under a path. -/
def target (d : Disk) (path : String) : Except OsFault Place := do
  d.checkPath path
  let rev := (Path.names path).reverse
  match rev.dropWhile String.isEmpty with
  | [] => throw .isADirectory
  | name :: above =>
    d.fileAt (← d.walk (d.origin path) above.reverse) name (rev.head? == some "")

/-- The text of the file at a place, empty if there is none. -/
def contentAt (d : Disk) (place : Place) : String :=
  match d.entry? place with
  | some (.file content) => content
  | _ => ""

/-- Writes a file. -/
def put (d : Disk) (path content : String) : Except OsFault Disk := do
  return d.set (← d.target path) (.file content)

/-- Adds to the end of a file, which starts empty. -/
def extend (d : Disk) (path content : String) : Except OsFault Disk := do
  let place ← d.target path
  return d.set place (.file (d.contentAt place ++ content))

/-- The path of an entry relative to a place above it. -/
def beneath? (place : Place) (key : String) : Option String :=
  if place.isEmpty then some key
  else
    let lead := (keyOf place ++ "/").toList
    if lead.isPrefixOf key.toList then some (String.ofList (key.toList.drop lead.length)) else none

/-- The files beneath a place, by their paths relative to it, with their texts. -/
def filesBeneath (d : Disk) (place : Place) : List (String × String) :=
  d.entries.filterMap fun (key, entry) =>
    match entry, beneath? place key with
    | .file content, some path => some (path, content)
    | _, _ => none

/-- The names of the files in the folder that a path leads to. -/
def filesIn (d : Disk) (path : String) : Except OsFault (List String) := do
  let place ← d.locate path
  if d.entry? place ≠ some .folder then throw .notADirectory
  return ((d.filesBeneath place).map (·.1)).filter fun p => !p.toList.contains '/'

end Disk

end Taskweave
