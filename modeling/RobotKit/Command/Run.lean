import RobotKit.Command.Parse
import RobotKit.Project.Build
import RobotKit.Project.Registry

/-!
# Running commands
-/

namespace RobotKit.Command

open RobotKit.Files RobotKit.Host RobotKit.Project

/-- Is there a directory behind a text, or is it a network address? -/
def State.isPlace (s : State) (text : String) : Bool :=
  (text ≠ "" && ((s.node? (.ofString text)).map Node.isDir).getD false) || Text.isAddress text

/-- A text that has to be a directory or a network address. -/
def place (text : String) : Action String := do
  if State.isPlace (← get) text then return text else fail (.notDirectory text)

def directoryText (text : String) : Action String := do
  if text ≠ "" && (← isDirectory (.ofString text)) then return text else fail (.notDirectory text)

def report (failure : Failure) : Action Unit :=
  say ("❌ [red]Error: " ++ failure.message ++ "[/red]")

def showHelp : Action Unit := print helpPanel

def templateDirectory : Action Path := do return (← surroundings).resources.child "templates"

def templateNames : Action (List String) := do
  return (← listDirectory (← templateDirectory)).map fun name =>
    String.ofList (name.toList.dropLast.dropLast.dropLast)

/-- The first template whose path ends with a text. -/
def findTemplate (name : String) : Action (Option Path) := do
  let directory ← templateDirectory
  let paths := (← listDirectory directory).map directory.child
  return paths.find? fun path => path.toString.endsWith (name ++ ".py")

/-- Creates a project, or a package if `package` is given; without a name of its own the package
takes that of the project. -/
def create (name : String) (slot : Option Int) (template : String)
    (package : Option (Option String)) : Action Unit := do
  match ← findTemplate template with
  | none =>
    say ("[red]X " ++ template ++ " is not a valid template\nAvailable templates: " ++
      ", ".intercalate (← templateNames) ++ "[/red]")
  | some template =>
    let path := Path.here.child name
    makeDirectory path
    let nameSetting : Setting := some (.text name)
    let slotSetting : Setting := slot.map .integer
    match package with
    | none | some (some "") =>
      scaffold path nameSetting slotSetting template
      say ("✨ [green]Created and initialized project in[/green] [bold cyan]" ++ path.toString ++
        "/[/bold cyan]")
    | some packageName =>
      let packageName := Text.snakeCase (packageName.getD name)
      scaffoldPackage path nameSetting slotSetting (some (.text packageName)) template
      say ("✨ [green]Created and initialized project in [bold cyan]" ++ path.toString ++
        "/[/bold cyan] with package[/green] [bold cyan]" ++
        ((sourcesIn path).child packageName).toString ++ "/[/bold cyan]")

def listPackages : Action Unit :=
  handle
    (do
      let ids ← Registry.identifiers
      if ids.isEmpty then say "❌ [red]No packages registered with DishPy[/red]"
      else say ("✨ [green]Found the following packages registered with DishPy: " ++
        ", ".intercalate ids ++ " [/green]"))
    report

/-- Adds a registered package to the project in the current directory. -/
def addPackage (id : String) : Action Unit := do
  let isKnown ← handle (return (← Registry.identifiers).contains id) fun _ => return false
  if isKnown then
    let p ← openAt .here
    handle (Registry.add p id) report
  else
    say ("❌ [red]Error: " ++ id ++ " is not a registered package[/red]")
    say "[red]Run `dishpy package list` to see a list of registered packages[/red]"

/-- Builds the project in the current directory. -/
def build (verbose : Bool) : Action Unit :=
  handle (do (← openAt .here).build verbose) report

/-- Sends a script to the robot for the project in the current directory. -/
def upload (path : String) : Action Unit :=
  handle (do (← openAt .here).upload (.ofString path)) report

/-- Builds and uploads the project in the current directory, and goes on with another action. -/
def buildAndUpload (verbose : Bool) (next : Action Unit) : Action Unit :=
  handle
    (do
      let p ← openAt .here
      p.build verbose
      p.upload p.outputFile
      next)
    report

/-- Opens a terminal on the robot. -/
def terminal : Action Unit := Uploader.replaceBy ["--user"]

/-- Shows where things are kept. -/
def debug : Action Unit := do
  printLine ("cache dir: " ++ (← surroundings).cache.toString)
  printLine "available templates"
  printLine (showWords (← templateNames))

/-- The text that an argument was given. -/
def Line.text? (line : Line) (name : String) : Option String :=
  match line.values.get? name with
  | some (.text value) => some value
  | _ => none

def Line.integer? (line : Line) (name : String) : Option Int :=
  match line.values.get? name with
  | some (.integer value) => some value
  | _ => none

/-- Was an argument given, and with which text? -/
def Line.optional? (line : Line) (name : String) : Option (Option String) :=
  (line.values.get? name).map fun _ => line.text? name

def Line.run (line : Line) : Action Unit :=
  let verbose := line.values.contains "verbose"
  match line.path with
  | ["create"] => create ((line.text? "name").getD "") (line.integer? "slot")
      ((line.text? "template").getD "empty") (line.optional? "package")
  | ["add"] => addPackage ((line.text? "package").getD "")
  | ["mu"] => buildAndUpload verbose (return)
  | ["mut"] => buildAndUpload false terminal
  | ["build"] => build verbose
  | ["upload"] => upload ((line.text? "path").getD "")
  | ["debug"] => debug
  | ["package", "list"] => listPackages
  | ["package", "register"] =>
    handle (Registry.registerFrom ((line.text? "package_path").getD "")) report
  | ["terminal"] => terminal
  | _ => showHelp

/-- Runs the tool with the words of a command line. The words after the name of the uploader go to
it as they are. -/
def run (texts : List String) : Action Unit := do
  match texts with
  | [] => showHelp
  | "vexcom" :: rest => let _ ← Uploader.run (rest.map fun text => some (.text text))
  | first :: _ =>
    if ["-h", "--help", "help"].contains first then showHelp
    else match readLine (State.isPlace (← get)) texts with
      | .ok line => line.run
      | .error (.help g) =>
        print g.help
        showHelp
      | .error (.refused g message) =>
        complain (g.usage ++ g.program ++ ": error: " ++ message ++ "\n")
        showHelp
      | .error (.notPlace text) => fail (.notDirectory text)

end RobotKit.Command
