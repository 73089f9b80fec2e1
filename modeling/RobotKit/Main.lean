import RobotKit.Command.Run
import RobotKit.Host.Start

/-!
# The command line tool

The tool reads the files below the current directory and below its cache, carries out the command
on them, prints what there is to print and writes back what has changed. Packed archives are kept
as directories. The tool starts no other program.
-/

namespace RobotKit

open RobotKit.Files RobotKit.Host

/-- Reads the entries of a packed archive that is kept as a directory. -/
partial def loadEntries (disk start : String) : IO (List (String × Content)) := do
  let mut entries := []
  for entry in ← (← IO.FS.realPath disk).readDir do
    let name := start ++ entry.fileName
    if ← entry.path.isDir then
      entries := entries ++ [(name ++ "/", .text "")] ++
        (← loadEntries entry.path.toString (name ++ "/"))
    else entries := entries ++ [(name, .bytes (← IO.FS.readBinFile entry.path).toList)]
  return entries

/-- Reads a file. -/
def loadFile (disk : String) : IO Content := do
  let bytes ← IO.FS.readBinFile disk
  return match String.fromUTF8? bytes with
    | some text => .text text
    | none => .bytes bytes.toList

/-- Reads a directory with all that is below. -/
partial def load (disk : String) : IO Node := do
  let mut entries := []
  for entry in ← (← IO.FS.realPath disk).readDir do
    let path := entry.path.toString
    let node ←
      if ← entry.path.isDir then
        if entry.fileName.endsWith ".zip" then pure (Node.plain (.archive (← loadEntries path "")))
        else load path
      else pure (Node.plain (← loadFile path))
    entries := Node.insertEntry entry.fileName node entries
  return .dir entries

/-- Writes a file. -/
partial def saveFile (disk : String) : Content → IO Unit
  | .text text => IO.FS.writeFile disk text
  | .bytes bytes => IO.FS.writeBinFile disk ⟨bytes.toArray⟩
  | .resource r => IO.FS.writeFile disk r.script
  | .archive entries => do
    IO.FS.createDirAll disk
    for (name, content) in entries do
      if name.endsWith "/" then IO.FS.createDirAll (disk ++ "/" ++ name)
      else saveFile (disk ++ "/" ++ name) content

/-- Removes what is at a path. -/
def discard (disk : String) : IO Unit := do
  if ← (← IO.FS.realPath disk).isDir then IO.FS.removeDirAll disk else IO.FS.removeFile disk

/-- Writes a directory with all that is below, and removes what is no longer there. -/
partial def save (disk : String) (before after : Node) : IO Unit := do
  IO.FS.createDirAll disk
  for (name, _) in before.entries do
    if (after.entries.lookup name).isNone then discard (disk ++ "/" ++ name)
  for (name, node) in after.entries do
    let path := disk ++ "/" ++ name
    match node with
    | .file content _ => saveFile path content
    | .dir _ => save path ((before.entries.lookup name).getD (.dir [])) node

/-- The complaint about a script that cannot be read. That of the grammar is not known. -/
def knownComplaint (file : String) : Option Node → Option String
  | none => some (FileError.message ⟨.missing, file⟩)
  | some (.dir _) => some (FileError.message ⟨.isDirectory, file⟩)
  | some (.file (.bytes value) _) => some (Failure.encoding (Text.decodeFailure value)).message
  | some (.file (.text value) _) =>
    if value.contains '\x00' then some "source code string cannot contain null bytes" else none
  | some (.file _ _) => none

/-- The surroundings of a tool that starts no other program. -/
def quietSurroundings (resources cache : String) : Surroundings where
  remotes := {}
  machine := { system := "Linux", processor := "x86_64", sizeLimit := 9223372036854775807 }
  installation := .cannotStart
  installer := (Path.ofString resources).child "download_vexcom.sh"
  uploaderStatus := 0
  canReplace := false
  resources := .ofString resources
  cache := .ofString cache
  complaint := knownComplaint

/-- Carries out a command on the files below a directory and below the cache. -/
def runAt (resources cache directory : String) (words : List String) : IO UInt32 := do
  let host := State.fresh (quietSurroundings resources cache) false
  let here := (Path.ofString directory).spelled []
  let kept := (Path.ofString cache).spelled []
  IO.FS.createDirAll cache
  let before := Node.put (← load cache) kept (Node.put (← load directory) here host.files)
  let (result, after) := (Command.run words).run.run
    { host with files := before, directory := here }
  IO.print after.output
  IO.eprint after.complaints
  let below := fun (location : Location) (tree : Node) => (tree.find? location).getD (.dir [])
  save directory (below here before) (below here after.files)
  save cache (below kept before) (below kept after.files)
  match result with
  | .ok () => return 0
  | .error failure =>
    unless failure.isExit do IO.eprintln failure.message
    return 1

end RobotKit

/-- The command line tool. -/
def main (words : List String) : IO UInt32 := do
  let resources := (← IO.appDir).toString ++ "/resources"
  let cache := ((← IO.getEnv "HOME").getD "") ++ "/.cache/dishpy"
  RobotKit.runAt resources cache (← IO.currentDir).toString words
