import RobotKit.Config.Writing
import RobotKit.Host.Disk
import RobotKit.Project.Basic
import RobotKit.Text.SnakeCase

/-!
# Making the parts of a project
-/

namespace RobotKit.Project

open RobotKit.Config RobotKit.Files RobotKit.Host

/-- The name of a project that was given none. -/
def defaultName : Value := .text "My DishPy Project"

/-- The slot of a project that was given none. -/
def defaultSlot : Value := .integer 1

/-- Fails if a text cannot be written. -/
def written {α : Type} : Except Script.WriteError α → Action α
  | .ok a => return a
  | .error e => fail (.write e)

/-- Makes a directory that is not there yet. -/
def ensureDirectory (path : Path) : Action Unit := do
  if !(← fileExists path) then makeDirectory path

/-- Copies a file to a place that is still free. -/
def ensureCopy (source target : Path) : Action Unit := do
  if !(← fileExists target) then copyFile source target

/-- The device library that comes with the tool. -/
def libraryResource : Action Path := do
  return (← surroundings).resources.child Resource.deviceLibrary.path

/-- Writes the project file and makes the parts of a project that are missing. Without a template
the entry file has to be there already. -/
def scaffold (directory : Path) (name slot : Setting) (template : Option Path) : Action Unit := do
  let file := directory.child fileName
  writeFile file (.text "")
  let nameText ← written (name.orDefault defaultName).plain
  let slotText ← written (slot.orDefault defaultSlot).plain
  writeFile file (.text ("[project]\nname = \"" ++ nameText ++ "\"\nslot = " ++ slotText ++ "\n"))
  ensureDirectory (sourcesIn directory)
  ensureDirectory (libraryIn directory)
  ensureDirectory (outputIn directory)
  let library ← libraryResource
  ensureCopy (template.getD (library.child "resources/empty.py")) (entryIn directory)
  ensureCopy library (libraryScriptIn directory)

def readConfig (directory : Path) : Action Entries := do
  match read (← readText (directory.child fileName)) with
  | .ok entries => return entries
  | .error e => fail (.config e)

/-- Writes a project file. What comes before a value that cannot be written stays in the file. -/
def writeConfig (directory : Path) (entries : Entries) : Action Unit := do
  let result := write entries
  writeFile (directory.child fileName) (.text result.text)
  match result.error with
  | none => return
  | some e => fail (.write e)

def snakeSetting (value : Value) : Action String :=
  match value with
  | .text name => return Text.snakeCase name
  | value => fail (.wrongKind (.notText value.kind))

/-- The version that a new package gets. -/
def firstVersion : String := "0.1.0"

/-- A part of a path that a setting gives. -/
def childSetting (path : Path) (s : Setting) : Action Path :=
  match s with
  | some (.text name) => return path.child name
  | s => fail (.wrongKind (.pathPart s.kind))

/-- Makes the parts of a package: those of a project, an entry for the package in the project
file, and the directory of the package with a first script. -/
def scaffoldPackage (directory : Path) (name slot package : Setting) (template : Option Path) :
    Action Unit := do
  let name := name.orDefault defaultName
  let package ← match package with
    | some value => if value.isGiven then pure value else Value.text <$> snakeSetting name
    | none => Value.text <$> snakeSetting name
  scaffold directory (some name) slot template
  let config ← readConfig directory
  let packageName ← snakeSetting package
  let info : Entries := [("package_name", .text packageName), ("version", .text firstVersion)]
  writeConfig directory (Table.insertEntry "package" (.table info) config)
  let packageDirectory ← childSetting (sourcesIn directory) (some package)
  ensureDirectory packageDirectory
  copyFile ((← surroundings).resources.child Resource.packageStart.path)
    (packageDirectory.child "__init__.py")

end RobotKit.Project
