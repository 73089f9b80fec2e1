import RobotKit.Files.Path
import RobotKit.Resource.Basic
import RobotKit.Text.Quoted

/-!
# Trees of files

A tree is a file or a directory with its entries in the order in which they are listed. Operations
address entries by their location and say what stood in the way when they fail.
-/

namespace RobotKit.Files

/-- What a file holds. Bytes that are UTF-8 are kept as text, and an archive by its entries. The
files that come with the tool are contents of their own. -/
inductive Content where
  | text (value : String)
  | bytes (value : List UInt8)
  | archive (entries : List (String × Content))
  | resource (value : Resource)

/-- A file with its permissions, or a directory. -/
inductive Node where
  | file (content : Content) (mode : Nat)
  | dir (entries : List (String × Node))

instance : Inhabited Node := ⟨.dir []⟩

/-- What stands in the way of a file operation. -/
inductive Fault where
  | missing | alreadyThere | notDirectory | isDirectory | nameTooLong
deriving DecidableEq

/-- The number and the wording of a fault. -/
def Fault.describe : Fault → Nat × String
  | .missing => (2, "No such file or directory")
  | .alreadyThere => (17, "File exists")
  | .notDirectory => (20, "Not a directory")
  | .isDirectory => (21, "Is a directory")
  | .nameTooLong => (36, "File name too long")

/-- A failed file operation and the path it was asked for. -/
structure FileError where
  fault : Fault
  path : String
deriving DecidableEq

def FileError.message (e : FileError) : String :=
  "[Errno " ++ toString e.fault.describe.1 ++ "] " ++ e.fault.describe.2 ++ ": " ++
    Text.quoteString e.path

namespace Node

/-- A file with ordinary permissions. -/
def plain (content : Content) : Node := .file content 0o644

def isDir : Node → Bool
  | .dir _ => true
  | .file _ _ => false

def entries : Node → List (String × Node)
  | .dir entries => entries
  | .file _ _ => []

/-- Sets an entry. A new one is listed before the first entry with a greater name. -/
def insertEntry (name : String) (node : Node) : List (String × Node) → List (String × Node)
  | [] => [(name, node)]
  | entry :: rest =>
    if entry.1 = name then (name, node) :: rest
    else if name < entry.1 ∧ (rest.lookup name).isNone then (name, node) :: entry :: rest
    else entry :: insertEntry name node rest

/-- The node at a location below this one. -/
def find? : Location → Node → Option Node
  | [], node => some node
  | name :: rest, node => (node.entries.lookup name).bind (find? rest)

/-- Sets the node at a location below this one; missing directories on the way are made. -/
def put (new : Node) : Location → Node → Node
  | [], _ => new
  | name :: rest, node =>
    let below := (node.entries.lookup name).getD (.dir [])
    .dir (insertEntry name (put new rest below) node.entries)

/-- Removes the node at a location below this one. -/
def remove : Location → Node → Node
  | [], node => node
  | [name], node => .dir (node.entries.filter fun entry => entry.1 ≠ name)
  | name :: rest, node =>
    match node.entries.lookup name with
    | some below => .dir (insertEntry name (remove rest below) node.entries)
    | none => node

/-- Where the names of a path lead from a location: every name before the last has to be an
existing directory. -/
def resolve (root : Node) (start : Location) : List String → Except Fault Location
  | [] => .ok start
  | part :: rest =>
    match root.find? start with
    | none => .error .missing
    | some (.file _ _) => .error .notDirectory
    | some (.dir _) =>
      if part.utf8ByteSize > 255 then .error .nameTooLong
      else resolve root (if part = ".." then start.dropLast else start ++ [part]) rest

/-- The files among some entries. -/
def filesOf (location : Location) : List (String × Node) → List (Location × Content)
  | [] => []
  | (name, .file content _) :: rest => (location ++ [name], content) :: filesOf location rest
  | (_, .dir _) :: rest => filesOf location rest

mutual

/-- All files below a node with their locations: the files of a directory come before those of its
subdirectories, both as they are listed. -/
def walk (location : Location) : Node → List (Location × Content)
  | .file content _ => [(location, content)]
  | .dir entries => filesOf location entries ++ walkSubdirectories location entries

/-- The files below the directories among some entries. -/
def walkSubdirectories (location : Location) : List (String × Node) → List (Location × Content)
  | [] => []
  | (name, node) :: rest =>
    (if node.isDir then walk (location ++ [name]) node else []) ++ walkSubdirectories location rest

end

end Node

end RobotKit.Files
