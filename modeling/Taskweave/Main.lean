import Std.Time.DateTime.Timestamp
import Taskweave.CommandLine.Program
import Taskweave.Digest.Blake3
import Taskweave.Pattern.Match
import Taskweave.Shell.Run

/-!
# The command line

`main` copies what the program needs from the machine onto a `Disk`, lets `Program.run` do the work,
prints what comes of it and writes the changed files back. Files that are no text are left alone.
-/

namespace Taskweave.Main

/-- The time of the machine. -/
def now : IO Instant := do
  let t ← Std.Time.Timestamp.now
  return ⟨t.toNanosecondsSinceUnixEpoch.toInt⟩

/-- Copies a file of the machine onto a disk. -/
def copyFile (path : String) (disk : Disk) : IO Disk := do
  try
    match String.fromUTF8? (← IO.FS.readBinFile path) with
    | none => return disk
    | some content =>
      match (disk.makeFolders (Path.parent path)).2.put path content with
      | .ok disk => return disk
      | .error _ => return disk
  catch _ => return disk

/-- Copies a file onto a disk, or an empty folder in the place of a folder. -/
def copyEntry (path : String) (disk : Disk) : IO Disk := do
  if ← ((← IO.currentDir) / path).isDir then return (disk.makeFolders path).2
  else copyFile path disk

/-- Copies a folder of the machine and what is beneath it onto a disk. -/
partial def copyFolder (path : String) (disk : Disk) : IO Disk := do
  let folder := (← IO.currentDir) / path
  let mut disk := (disk.makeFolders path).2
  for entry in ← folder.readDir do
    let inner := Path.join path entry.fileName
    disk ← if ← entry.path.isDir then copyFolder inner disk else copyFile inner disk
  return disk

/-- Copies what there is at a path of the machine onto a disk. -/
def copyIn (path : String) (disk : Disk) : IO Disk := do
  if ← ((← IO.currentDir) / path).isDir then copyFolder path disk else copyFile path disk

/-- Writes what differs between two disks to the machine. -/
def writeBack (before after : Disk) : IO Unit := do
  for (key, entry) in after.entries do
    if Dict.find? before.entries key ≠ some entry then
      match entry with
      | .folder => IO.FS.createDirAll ("/" ++ key)
      | .file content => IO.FS.writeFile ("/" ++ key) content

/-- The disk with nothing on it but the folder of the start. -/
def startDisk (folder : String) : Disk :=
  let disk := (Disk.empty.makeFolders folder).2
  { disk with here := (Path.names folder).filter fun name => !Path.isVoid name }

/-- Prints lines to the error output. -/
def complain (lines : List String) : IO Unit := do
  let stderr ← IO.getStderr
  lines.forM stderr.putStrLn

/-- Does what the options ask for, and answers the exit code. -/
def perform (o : Options) : IO UInt32 := do
  let folder := (← IO.currentDir).toString
  let compile := fun text => (Matcher.read? text).map fun m => m.isMatch
  let program : Program := ⟨Shell.host, Blake3.ofText, compile, folder⟩
  let disk ← copyEntry o.workflow (startDisk folder)
  let disk ← match program.workspace? o disk with
    | none => pure disk
    | some workspace => copyIn workspace disk
  let ending := program.run o (← now) disk
  writeBack disk ending.disk
  complain (ending.shown (LogLevel.choose o.logLevel (← IO.getEnv LogLevel.environmentName)))
  (← IO.getStdout).putStr ending.stdout
  complain ending.errorText.toList
  return ending.exitCode.toUInt32

end Taskweave.Main

/-- Reads the arguments and does what they ask for. -/
def main (args : List String) : IO UInt32 := do
  match Taskweave.Options.parse args with
  | .ok o => Taskweave.Main.perform o
  | .error stop =>
    (← IO.getStdout).putStr stop.text
    Taskweave.Main.complain stop.complaint.toList
    return stop.exitCode.toUInt32
