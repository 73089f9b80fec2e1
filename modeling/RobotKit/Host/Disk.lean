import RobotKit.Host.Basic

/-!
# Files on the host

The operations on files, each with the ways in which it can fail.
-/

namespace RobotKit.Host

open RobotKit.Files

/-- Where a path leads. -/
def State.resolve (s : State) (path : Path) : Except Fault Location :=
  s.files.resolve (if path.isAbsolute then [] else s.directory) path.parts

def State.lookup (s : State) (path : Path) : Except Fault (Location × Node) := do
  let location ← s.resolve path
  match s.files.find? location with
  | some node => return (location, node)
  | none => throw .missing

def State.node? (s : State) (path : Path) : Option Node := (s.lookup path).toOption.map (·.2)

/-- Is there something behind the path? A name that is too long is an error here. -/
def fileExists (path : Path) : Action Bool := do
  match (← get).lookup path with
  | .ok _ => return true
  | .error .nameTooLong => fail (.file ⟨.nameTooLong, path.toString⟩)
  | .error _ => return false

def isDirectory (path : Path) : Action Bool := do
  return (((← get).node? path).map Node.isDir).getD false

def place (location : Location) (node : Node) : Action Unit :=
  modify fun s => { s with files := Node.put node location s.files }

def makeDirectory (path : Path) : Action Unit := do
  let s ← get
  match s.lookup path with
  | .ok _ => fail (.file ⟨.alreadyThere, path.toString⟩)
  | .error .missing =>
    match s.resolve path with
    | .ok location =>
      if (s.files.find? location.dropLast).isSome then place location (.dir [])
      else fail (.file ⟨.missing, path.toString⟩)
    | .error fault => fail (.file ⟨fault, path.toString⟩)
  | .error fault => fail (.file ⟨fault, path.toString⟩)

def readFile (path : Path) : Action Content := do
  match (← get).lookup path with
  | .ok (_, .file content _) => return content
  | .ok (_, .dir _) => fail (.file ⟨.isDirectory, path.toString⟩)
  | .error fault => fail (.file ⟨fault, path.toString⟩)

def readText (path : Path) : Action String := do
  match ← readFile path with
  | .text value => return value
  | .bytes value => fail (.encoding (Text.decodeFailure value))
  | .archive _ => fail (.encoding (Text.decodeFailure []))
  | .resource value => return value.script

/-- Where a file with this path would be written. -/
def State.target (s : State) (path : Path) : Except Fault Location := do
  let location ← s.resolve path
  match s.files.find? location, s.files.find? location.dropLast with
  | some (.dir _), _ => throw .isDirectory
  | some (.file _ _), _ => return location
  | none, some (.dir _) => return location
  | none, some (.file _ _) => throw .notDirectory
  | none, none => throw .missing

/-- Writes a file at a location; its permissions stay if it was there before. -/
def State.write (s : State) (location : Location) (content : Content) : State :=
  let mode := match s.files.find? location with
    | some (.file _ mode) => mode
    | _ => 0o644
  { s with files := Node.put (.file content mode) location s.files }

def writeFile (path : Path) (content : Content) : Action Unit := do
  match (← get).target path with
  | .ok location => modify (·.write location content)
  | .error fault => fail (.file ⟨fault, path.toString⟩)

/-- Where a file with this text as its path would be written. No file has the empty path, and a
slash at the end names a directory. -/
def State.textTarget (s : State) (text : String) : Except Fault Location :=
  let path := Path.ofString text
  if text = "" then .error .missing
  else if text.endsWith "/" then
    match s.resolve path with
    | .error fault => .error fault
    | .ok location => match s.files.find? location with
      | some (.file _ _) => .error .notDirectory
      | _ => .error .isDirectory
  else s.target path

/-- Copies a file. If there is a directory behind the target, the copy goes into it. -/
def copyFile (source target : Path) : Action Unit := do
  let target := if ← isDirectory target then target.child source.name else target
  let content ← readFile source
  writeFile target content

def removeFile (path : Path) : Action Unit := do
  match (← get).lookup path with
  | .ok (location, .file _ _) => modify fun s => { s with files := s.files.remove location }
  | .ok (_, .dir _) => fail (.file ⟨.isDirectory, path.toString⟩)
  | .error fault => fail (.file ⟨fault, path.toString⟩)

/-- Removes a directory and all below it. -/
def removeTree (path : Path) : Action Unit := do
  match (← get).lookup path with
  | .ok (location, .dir _) => modify fun s => { s with files := s.files.remove location }
  | .ok (_, .file _ _) => fail (.file ⟨.notDirectory, path.toString⟩)
  | .error fault => fail (.file ⟨fault, path.toString⟩)

/-- The names of the entries of a directory, sorted. -/
def listDirectory (path : Path) : Action (List String) := do
  match (← get).lookup path with
  | .ok (_, .dir entries) => return entries.map (·.1)
  | .ok (_, .file _ _) => fail (.file ⟨.notDirectory, path.toString⟩)
  | .error fault => fail (.file ⟨fault, path.toString⟩)

/-- Writes files below a location; a path that ends in a slash stands for a directory. -/
def placeFiles (location : Location) (files : List (String × Content)) : Action Unit :=
  files.forM fun (path, content) => do
    let target := followNames location (Path.ofString path).parts
    if path.endsWith "/" then
      if ((← get).files.find? target).isNone then place target (.dir [])
    else place target (.plain content)

end RobotKit.Host
