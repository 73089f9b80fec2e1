import RobotKit.Project.Scaffold

/-!
# Opening a project

A project is opened by its directory. Its project file has to give a name and a slot; parts that
are missing are made.
-/

namespace RobotKit.Project

open RobotKit.Config RobotKit.Files RobotKit.Host

/-- Makes the parts of a project unless all are there. -/
def completeParts (p : Project) : Action Unit := do
  if !(← (partsIn p.directory).allM fileExists) then
    match p.package with
    | none => scaffold p.directory p.name p.slot none
    | some _ => scaffoldPackage p.directory p.name p.slot none none
    say "🔧 [yellow]Scaffolded missing parts of project[/yellow]"

/-- A value of a table, if it counts as given. Looking into a value that is no table fails. -/
def given? (table : Value) (name : String) : Action Setting :=
  match table.entries? with
  | none => fail (.noEntries table.kind)
  | some entries => return (entries.lookup name).filter (·.isGiven)

/-- Two values of a table in a document, if table and values count as given. -/
def twoSettings? (config : Entries) (table first second : String) :
    Action (Option (Value × Value)) := do
  match (config.lookup table).filter (·.isGiven) with
  | none => return none
  | some values =>
    match ← given? values first with
    | none => return none
    | some a => return (← given? values second).map fun b => (a, b)

/-- The project that a project file describes. -/
def ofConfig (directory : Path) (config : Entries) : Action Project := do
  match ← twoSettings? config "project" "name" "slot" with
  | none => fail .malformedProjectFile
  | some (name, slot) =>
    let package ← twoSettings? config "package" "package_name" "version"
    return {
      directory
      name := some name
      slot := some slot
      package := package.map fun (name, version) => ⟨some name, some version⟩ }

/-- Opens a project and gives its configuration along. -/
def openWithConfig (directory : Path) : Action (Project × Entries) := do
  if !(← fileExists (directory.child fileName)) then fail .noProjectFile
  let config ← readConfig directory
  let p ← ofConfig directory config
  p.completeParts
  return (p, config)

def openAt (directory : Path) : Action Project := do return (← openWithConfig directory).1

end RobotKit.Project
