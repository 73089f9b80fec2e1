import RobotKit.Link.Scan
import RobotKit.Text.Digest

/-!
# Combining a project into one script

The combined script starts with the imports that lead outside the project, sorted, and goes on
with one chunk per symbol in dependency order. The names of every file but the entry file carry a
mark made from the digest of the file's path.
-/

namespace RobotKit.Link

open RobotKit.Script RobotKit.Text

/-- A project to combine: its directory, the entry file, its script files, and how to read one. -/
structure Project where
  directory : Files.Location
  entry : String
  files : List ScriptFile
  read : Reads

/-- A path as seen from the directory of the project. -/
def Project.relative (project : Project) (path : String) : String :=
  Files.relativeText project.directory (Files.Path.ofString path).parts

/-- The new name of a name of a file with the given relative path. -/
def markedName (relative name : String) : String :=
  "mod_" ++ String.ofList ((Digest.ofString relative).toList.take 8) ++ "_" ++ name

/-- The new names of all files but the entry file. -/
def Project.newNames (project : Project) (declared : Table (List String)) : Table (Table String) :=
  ⟨declared.entries.filterMap fun (file, names) =>
    if file = project.entry then none
    else some (file, .ofList (names.map fun name =>
      (name, markedName (project.relative file) name)))⟩

/-- The symbol whose chunk a top-level statement is: of several names the first. -/
def chunkKey? (isEntry : Bool) (file : String) (index : Nat) (s : Stmt) : Option String :=
  ((declarations isEntry index s).head?).map fun d => symbolKey file d.name

/-- A top-level statement that makes a chunk, with its symbol and its place. -/
structure Piece where
  symbol : String
  file : String
  index : Nat
  statement : Stmt

def piecesOf (isEntry : Bool) (file : String) (body : List Stmt) : List Piece :=
  body.zipIdx.filterMap fun (s, index) =>
    (chunkKey? isEntry file index s).map fun symbol => ⟨symbol, file, index, s⟩

/-- What is known of a project before it is written. -/
structure Analysis where
  scan : Scan
  origins : Table (Table Origin)
  dependencies : Table (List String)
  newNames : Table (Table String)

/-- Scans a project and finds the origins, the dependencies and the new names of its symbols. -/
def Project.analysis (project : Project) : Analysis :=
  let scan := scanProject project.read (moduleMap project.files) project.entry
  { scan
    origins := scan.origins
    dependencies := scan.dependencies project.read project.entry
    newNames := project.newNames scan.declared }

/-- The symbols of a project in dependency order. The dependencies of a symbol are a set, and a run may
take them in any order; this one takes them in the order of their names. -/
def Analysis.order (analysis : Analysis) : List String :=
  orderSymbols (analysis.dependencies.map sortNames) analysis.scan.symbols.keys

/-- What a file needs to know to rename its names. -/
def Analysis.scopeOf (analysis : Analysis) (file : String) : Scope where
  file := file
  newNames := analysis.newNames
  origins := (analysis.origins.get? file).getD {}
  declared := (analysis.scan.declared.get? file).getD []

/-- The pieces of all scanned files. -/
def Project.piecesOf (project : Project) (analysis : Analysis) : List Piece :=
  (sortNames analysis.scan.scanned).flatMap fun file =>
    Link.piecesOf (file = project.entry) file ((project.read file).getD [])

/-- The statement of a piece as it stands in the combined script. -/
def Analysis.linked (analysis : Analysis) (piece : Piece) : Stmt :=
  renameStmt (analysis.scopeOf piece.file) piece.statement

def Analysis.chunkOf (analysis : Analysis) (piece : Piece) : Except WriteError (String × String) :=
  (analysis.linked piece).text.map fun text => (piece.symbol, text)

def headerText (external : List String) : String :=
  let imports := if external.isEmpty then "# No external imports found.\n"
    else String.join ((sortNames external).map (· ++ "\n"))
  "# This script was generated by combining and prefixing multiple files.\n\n" ++
    "# --- Combined External Imports ---\n" ++ imports ++ "\n"

/-- A combined script: its text, and the notes made before and while it is written. -/
structure Combined where
  text : String
  notes : List Note
  writeNotes : List String

/-- A set of names as a note shows it. -/
def showNames (names : List String) : String :=
  if names.isEmpty then "set()"
  else "\x7b" ++ commas ((sortNames names).map quoteString) ++ "\x7d"

def showList (names : List String) : String := "[" ++ commas (names.map quoteString) ++ "]"

def showOrigins (origins : Table Origin) : String :=
  let entries := (sortNames origins.keys).filterMap fun name =>
    (origins.get? name).map fun origin =>
      quoteString name ++ ": (" ++ quoteString origin.file ++ ", " ++ quoteString origin.name ++ ")"
  "\x7b" ++ commas entries ++ "\x7d"

/-- The name of a symbol without its file. -/
def symbolName (key : String) : String := (key.splitOn "::").getLast?.getD key

/-- The notes on what a scan found. -/
def Project.scanNotes (project : Project) (analysis : Analysis) : List String :=
  ["DEBUG: Found symbols:"] ++
    analysis.scan.declared.entries.map (fun (file, names) =>
      "  " ++ project.relative file ++ ": " ++ showNames names) ++
    ["DEBUG: Symbol origins:"] ++
    analysis.origins.entries.map (fun (file, origins) =>
      "  " ++ project.relative file ++ ": " ++ showOrigins origins) ++
    ["DEBUG: Symbol dependencies:"] ++
    (sortNames analysis.dependencies.keys).map (fun key =>
      "  " ++ key ++ " depends on: " ++ showNames ((analysis.dependencies.get? key).getD []))

def moduleNotes (files : List ScriptFile) : List String :=
  files.map fun file =>
    "DEBUG: Module '" ++ moduleName file.relative ++ "' -> " ++ file.relative

/-- The symbols of a sorted list that have a chunk, each at its first place. -/
def writtenSymbols (order : List String) (chunks : Table String) : List String :=
  distinct (order.filter chunks.contains)

/-- The last line of the combined script. -/
def footerText : String := "\n# --- End of combined script ---"

/-- The combined script with these external imports and chunks. -/
def scriptText (external chunks : List String) : String :=
  headerText external ++ String.join (chunks.map (· ++ "\n")) ++ footerText

/-- The notes made before a project is written. -/
def Project.notes (project : Project) (analysis : Analysis) (order : List String) : List Note :=
  let unreadable := (sortNames analysis.scan.scanned).filter fun file => (project.read file).isNone
  (["DEBUG: Starting analysis of project at " ++ Files.Location.text project.directory] ++
    moduleNotes project.files ++
    ["DEBUG: Starting project analysis from entry file: " ++ project.entry]).map .line ++
    analysis.scan.notes ++ (project.scanNotes analysis ++
    ["DEBUG: Creating global rename map...", "DEBUG: Sorting symbols topologically...",
      "DEBUG: Sorted symbol order: " ++ showList (order.map symbolName),
      "DEBUG: Extracting and transforming symbols..."]).map .line ++
    unreadable.map .notParsed

/-- Combines a project whose symbols are walked in the given order. When a chunk cannot be written,
the notes made so far come with the error. -/
def Project.combineIn (project : Project) (order : List String) :
    Except (WriteError × List Note) Combined :=
  let analysis := project.analysis
  let notes := project.notes analysis order
  match (project.piecesOf analysis).mapM analysis.chunkOf with
  | .error e => .error (e, notes)
  | .ok chunks =>
    let table := Table.ofList chunks
    let written := writtenSymbols order table
    .ok {
      text := scriptText analysis.scan.external (written.map fun key => (table.get? key).getD "")
      notes
      writeNotes := written.map fun key => "DEBUG: Wrote " ++ symbolName key ++ " from " ++
        baseName ((analysis.scan.symbols.get? key).getD "") }

def Project.combine (project : Project) : Except (WriteError × List Note) Combined :=
  project.combineIn project.analysis.order

end RobotKit.Link
