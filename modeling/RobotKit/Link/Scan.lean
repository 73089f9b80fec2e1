import RobotKit.Link.Imports
import RobotKit.Link.ModuleMap
import RobotKit.Link.Order
import RobotKit.Link.Rename
import RobotKit.Script.Writing.Statement

/-!
# Scanning a project

Starting from the entry file, a scan follows the imports of local modules from file to file. It
records which names each file declares at its top level, where imported names come from, and which
imports lead outside the project; then, for every declared name, on which symbols its definition
depends. Files that cannot be read or parsed contribute nothing.
-/

namespace RobotKit.Link

open RobotKit.Script

/-- The name of a symbol: its file and its name there. -/
def symbolKey (file name : String) : String := file ++ "::" ++ name

/-- The name that stands for the top-level expression statement at an index. -/
def expressionName (index : Nat) : String := "__expr_" ++ toString index

/-- What a file imports from local modules: names with their origins, and the module that it takes
all names from. -/
structure FileImports where
  names : Table Origin
  wildcard : Option String

def FileImports.empty : FileImports := ⟨{}, none⟩

/-- A note on the course of the work. -/
inductive Note where
  | line (text : String)
  /-- The file could not be read and parsed when it was scanned. -/
  | notScanned (file : String)
  /-- The file could not be read and parsed when its statements were taken. -/
  | notParsed (file : String)

/-- The line for a note. What came of the attempt to read a file follows its path. -/
def Note.text (complaint : String → String) : Note → String
  | .line text => text
  | .notScanned file => "DEBUG: Error reading/parsing " ++ file ++ complaint file
  | .notParsed file => "DEBUG: Error parsing " ++ file ++ complaint file

/-- What a scan has found so far. -/
structure Scan where
  /-- The names that each file declares. -/
  declared : Table (List String)
  /-- The file of each symbol. -/
  symbols : Table String
  imported : Table FileImports
  /-- The texts of the imports that lead outside the project. -/
  external : List String
  scanned : List String
  notes : List Note

/-- A scan that has seen nothing. -/
def Scan.empty : Scan :=
  { declared := {}, symbols := {}, imported := {}, external := [], scanned := [], notes := [] }

/-- Adds a name to a list that does not hold it yet. -/
def addName (names : List String) (name : String) : List String :=
  if names.contains name then names else names ++ [name]

/-! ## Declarations -/

/-- A name that a statement declares, and how a note describes the declaration. -/
structure Declaration where
  name : String
  kind : String

def targetNames (targets : List Expr) : List String :=
  targets.filterMap fun target => match target with
    | .name id => some id
    | _ => none

/-- The targets of an assignment of any kind. -/
def assignedTargets : Stmt → Option (List Expr)
  | .assign targets _ => some targets
  | .annotated target _ _ _ => some [target]
  | .augmented target _ _ => some [target]
  | _ => none

/-- What the top-level statement at an index declares. Expressions count in the entry file only. -/
def declarations (isEntry : Bool) (index : Nat) (s : Stmt) : List Declaration :=
  match s with
  | .function false name _ _ _ _ => [⟨name, "FunctionDef"⟩]
  | .classDef name _ _ _ _ => [⟨name, "ClassDef"⟩]
  | .expression _ =>
    if isEntry then [⟨expressionName index, "top-level expression"⟩] else []
  | s => ((assignedTargets s).map targetNames).getD [] |>.map fun name => ⟨name, "variable"⟩

/-- What the top-level statements of a script declare. -/
def declarationsOf (isEntry : Bool) (body : List Stmt) : List Declaration :=
  body.zipIdx.flatMap fun (s, index) => declarations isEntry index s

def baseName (path : String) : String := (Files.splitSlashes path).getLast?.getD path

def Scan.declare (scan : Scan) (file : String) (d : Declaration) : Scan :=
  { scan with
    declared := scan.declared.update file [] (addName · d.name)
    symbols := scan.symbols.insert (symbolKey file d.name) file
    notes := scan.notes ++
      [.line ("DEBUG: Found " ++ d.kind ++ " '" ++ d.name ++ "' in " ++ baseName file)] }

/-! ## Imports -/

/-- Does the module belong to the device library, which is never part of a project? -/
def isDeviceModule (name : String) : Bool :=
  name = "vex" || "vex.".toList.isPrefixOf name.toList

/-- The starts of a list, the whole list first, without the empty one. -/
def longestFirst (parts : List String) : List (List String) :=
  (List.range parts.length).map fun i => parts.take (parts.length - i)

/-- The dotted name of a file as seen from the directory above its own. -/
def packageName (file : String) : String :=
  let parts := (Files.splitSlashes file).filter (· ≠ "")
  moduleName ("/".intercalate (parts.drop (parts.length - 2)))

/-- The file of the module that a `from` import names: the module itself, or else one below the
package of the importing file, tried from the innermost package outwards. -/
def sourceFile? (modules : Table String) (file : String) (source : Option String) : Option String :=
  match source.bind modules.get? with
  | some path => some path
  | none =>
    let packages := (longestFirst (splitDots (packageName file))).map (".".intercalate ·)
    packages.findSome? fun package =>
      if package.isEmpty then none else modules.get? (package ++ "." ++ source.getD "None")

/-- The name under which a wildcard import is kept; importing it by name cancels the wildcard. -/
def wildcardName : String := "__WILDCARD_FROM__"

/-- Records a name that a file takes from a module. -/
def FileImports.add (imports : FileImports) (path name : String) : FileImports :=
  if name = "*" then { imports with wildcard := some path }
  else if name = wildcardName then { imports with wildcard := none }
  else { imports with names := imports.names.insert name ⟨path, name⟩ }

/-- A scan together with the files that it still has to look at. -/
structure Worklist where
  scan : Scan
  queue : List String

/-- Puts a file at the end of the queue unless it has been scanned. A file may stand in the queue
more than once. -/
def Worklist.enqueue (work : Worklist) (file : String) : Worklist :=
  if work.scan.scanned.contains file then work
  else { work with queue := work.queue ++ [file] }

def Worklist.note (work : Worklist) (note : Note) : Worklist :=
  { work with scan := { work.scan with notes := work.scan.notes ++ [note] } }

/-- Records an import that leads outside. -/
def Worklist.outside (work : Worklist) (text : String) : Worklist :=
  { work with scan := { work.scan with external := addName work.scan.external text } }

/-- Follows one module of an `import` statement with the given text. -/
def followModule (modules : Table String) (file text : String) (work : Worklist) (a : Alias) :
    Worklist :=
  let work := work.note (.line ("DEBUG: Found import '" ++ a.name ++ "' in " ++ baseName file))
  if isDeviceModule a.name then work.outside text
  else match modules.get? a.name with
    | some path => work.enqueue path
    | none => work.outside text

def followImport (modules : Table String) (file : String) (work : Worklist) : Import → Worklist
  | .modules names => names.foldl (followModule modules file (importText names)) work
  | .names source names level =>
    let work := work.note
      (.line ("DEBUG: Found 'from " ++ source.getD "None" ++ " import ...' in " ++ baseName file))
    let text := importFromText source names level
    if (source.map isDeviceModule).getD false then work.outside text
    else match sourceFile? modules file source with
      | some path =>
        let work := work.enqueue path
        let record := fun (imports : FileImports) => names.foldl (fun i a => i.add path a.name) imports
        { work with scan := { work.scan with
          imported := work.scan.imported.update file .empty record } }
      | none => if level = 0 then work.outside text else work

/-! ## The scan -/

/-- Reads the script of a file, if it can be read and parsed. -/
abbrev Reads := String → Option (List Stmt)

/-- Looks at the next file of the queue. -/
def scanFile (read : Reads) (modules : Table String) (entry file : String) (work : Worklist) :
    Worklist :=
  let work : Worklist := { work with scan := { work.scan with
    scanned := work.scan.scanned ++ [file]
    notes := work.scan.notes ++ [.line ("DEBUG: Scanning file: " ++ file)] } }
  match read file with
  | none => work.note (.notScanned file)
  | some body =>
    let found := declarationsOf (file = entry) body
    let work := { work with scan := found.foldl (Scan.declare · file ·) work.scan }
    (importsOf body).foldl (followImport modules file) work

/-- Looks at the files of the queue until it is empty, at most `fuel` of them. A file that has been
scanned since it was put there is passed over. -/
def scanQueue (read : Reads) (modules : Table String) (entry : String) : Nat → Worklist → Scan
  | 0, work => work.scan
  | fuel + 1, work =>
    match work.queue.dropWhile work.scan.scanned.contains with
    | [] => work.scan
    | file :: rest => scanQueue read modules entry fuel
        (scanFile read modules entry file { work with queue := rest })

/-- The origins of the names of each file, with the names that a wildcard stands for. -/
def Scan.origins (scan : Scan) : Table (Table Origin) :=
  scan.imported.map fun imports => match imports.wildcard with
    | none => imports.names
    | some path => ((scan.declared.get? path).getD []).foldl
        (fun names name => names.insert name ⟨path, name⟩) imports.names

/-- Scans a project. Each file is looked at once, so the queue ends after all modules and the entry
file. -/
def scanProject (read : Reads) (modules : Table String) (entry : String) : Scan :=
  scanQueue read modules entry (modules.entries.length + 1) { scan := .empty, queue := [entry] }

/-! ## Dependencies -/

/-- The symbols that some names stand for in a file: imported names by their origin, declared ones
by themselves. -/
def symbolsOf (origins : Table Origin) (declared : List String) (file : String)
    (names : List String) : List String :=
  distinct (names.filterMap fun name =>
    match origins.get? name with
    | some origin => some (symbolKey origin.file origin.name)
    | none => if declared.contains name then some (symbolKey file name) else none)

/-- The names on which the meaning of a top-level statement's symbol depends. An assignment with a
value depends on what the value reads; other statements on all that they read. -/
def definingLoads : Stmt → List String
  | .assign _ value => value.loads
  | .annotated _ _ (some value) _ => value.loads
  | s => s.loads

/-- The dependencies of all symbols of a file, added to a table. -/
def addDependencies (read : Reads) (scan : Scan) (origins : Table (Table Origin)) (entry : String)
    (deps : Table (List String)) (file : String) : Table (List String) :=
  let own := (origins.get? file).getD {}
  let declared := (scan.declared.get? file).getD []
  ((read file).getD []).zipIdx.foldl
    (fun deps (s, index) =>
      let needed := symbolsOf own declared file (definingLoads s)
      (declarations (file = entry) index s).foldl
        (fun deps d => deps.update (symbolKey file d.name) [] fun before =>
          needed.foldl addName before)
        deps)
    deps

/-- The dependencies of every declared symbol. -/
def Scan.dependencies (scan : Scan) (read : Reads) (entry : String) : Table (List String) :=
  (sortNames scan.scanned).foldl (addDependencies read scan scan.origins entry) {}

end RobotKit.Link
