import RobotKit.Host.Disk

/-!
# Programs outside

The programs that actions start: the archiver, the fetchers of remote packages and the installer
of the uploader. Each ends with a status; zero means success.
-/

namespace RobotKit.Host

open RobotKit.Files

/-- Notes that a program was started. -/
def note (words : List String) : Action Unit :=
  modify fun s => { s with started := s.started ++ [words] }

/-- Fails unless the status of a command is zero. -/
def check (words : List String) (status : Int) : Action Unit :=
  if status = 0 then return else fail (.command words status)

/-! ## Archives -/

mutual

/-- The entries of an archive of a directory; a directory has an entry with an empty text. -/
def archiveNode (path : String) : Node → List (String × Content)
  | .file content _ => [(path, content)]
  | .dir entries => (path ++ "/", .text "") :: archiveEntries (path ++ "/") entries

def archiveEntries (path : String) : List (String × Node) → List (String × Content)
  | [] => []
  | (name, node) :: rest => archiveNode (path ++ name) node ++ archiveEntries path rest

end

/-- Packs all that is in a directory into an archive. Nothing to pack has the status 12, and an
archive that cannot be made has 15. -/
def pack (archive directory : Path) : Action Unit := do
  let words := ["zip", "-r", archive.toString, "."]
  match (← get).lookup directory with
  | .error fault => fail (.workingDirectory fault directory.toString)
  | .ok (_, .file _ _) => fail (.workingDirectory .notDirectory directory.toString)
  | .ok (_, .dir entries) =>
    match (← get).target archive with
    | .error _ => check words 15
    | .ok location =>
      if entries.isEmpty then check words 12
      else place location (.plain (.archive (archiveEntries "" entries)))

/-- Does a file stand in the way of a location below `target`? -/
def isBlocked (files : Node) (target location : Location) : Bool :=
  (List.range (location.length - target.length)).any fun i =>
    match files.find? (location.take (target.length + i)) with
    | some (.file _ _) => true
    | _ => false

/-- Puts one entry of an archive below a location. A directory in the place of a file has the
status 50, a file in the place of a directory 2. -/
def unpackEntry (target : Location) (files : Node) (entry : String × Content) : Node × Int :=
  let location := followNames target (Path.ofString entry.1).parts
  if isBlocked files target location then (files, 2)
  else match files.find? location, entry.1.endsWith "/" with
    | some (.dir _), true => (files, 0)
    | some (.dir _), false => (files, 50)
    | some (.file _ _), true => (files, 2)
    | some (.file _ mode), false => (Node.put (.file entry.2 mode) location files, 0)
    | none, true => (Node.put (.dir []) location files, 0)
    | none, false => (Node.put (.plain entry.2) location files, 0)

/-- Puts the entries of an archive below a location and tells the worst status. -/
def unpackEntries (target : Location) (files : Node) (entries : List (String × Content)) :
    Node × Int :=
  entries.foldl
    (fun state entry =>
      let (files, status) := unpackEntry target state.1 entry
      (files, max state.2 status))
    (files, 0)

/-- Unpacks the entries of an archive below a location. -/
def unpackAt (target : Location) (entries : List (String × Content)) : Action Int := do
  let s ← get
  let (files, status) := unpackEntries target s.files entries
  set { s with files }
  return status

/-- Unpacks an archive into a directory, which is made if it is missing. What is no archive has
the status 9, and a directory that cannot be made has 2. -/
def unpack (archive directory : Path) : Action Unit := do
  let words := ["unzip", "-o", archive.toString, "-d", directory.toString]
  match (← get).node? archive with
  | some (.file (.archive entries) _) =>
    match (← get).lookup directory with
    | .ok (_, .file _ _) => check words 2
    | .ok (location, .dir _) => check words (← unpackAt location entries)
    | .error _ => match (← get).target directory with
      | .error _ => check words 2
      | .ok location =>
        place location (.dir [])
        check words (← unpackAt location entries)
  | _ => check words 9

/-! ## Remote packages -/

/-- The type that an address announces; an address that does not answer is reported. -/
def contentType (address : String) : Action (Option String) := do
  match ((← surroundings).remotes.get? address).bind (·.contentType) with
  | some announced => return announced
  | none =>
    printLine "An error occurred: unreachable"
    return none

def spelled (path : Path) : Action Location := do return path.spelled (← get).directory

/-- Clones a repository into a directory. -/
def clone (address : String) (directory : Path) : Action Unit := do
  let words := ["git", "clone", address, directory.toString, "-q"]
  note words
  match (← surroundings).remotes.get? address with
  | none => check words 128
  | some remote =>
    check words remote.cloneStatus
    placeFiles (← spelled directory) remote.files

/-- Downloads an archive to a file. -/
def download (address : String) (target : Path) : Action Unit := do
  let words := ["curl", "-s", "-L", address, "-o", target.toString]
  note words
  place (← spelled target) (.plain (.text ("zip from " ++ address)))
  modify fun s => { s with downloaded := some address }
  check words ((((← surroundings).remotes.get? address).map (·.downloadStatus)).getD 0)

/-- Unpacks the archive that was downloaded last into a directory, without its outermost
directory. -/
def unpackDownload (archive directory : Path) : Action Unit := do
  let words :=
    ["bsdtar", "--strip-components=1", "-xvf", archive.toString, "-C", directory.toString]
  note words
  match (← get).downloaded.bind (← surroundings).remotes.get? with
  | none => return
  | some remote =>
    check words remote.unpackStatus
    placeFiles (← spelled directory) remote.files

end RobotKit.Host
