import RobotKit.Host.Programs
import RobotKit.Project.Basic

/-!
# The uploader

Scripts are sent to the robot by a program of its own, which is kept in the cache and installed
when it is needed for the first time.
-/

namespace RobotKit.Uploader

open RobotKit.Files RobotKit.Host

/-- The platform for which the uploader has to be built. -/
def platform (m : Machine) : String :=
  let system := m.system.toLower
  let processor := m.processor.toLower
  if system = "linux" then
    if processor = "arm" || processor = "armv7l" then "linux-arm32"
    else if processor = "aarch64" || processor = "arm64" then "linux-arm64"
    else "linux-x64"
  else if system = "darwin" then "osx"
  else if system = "windows" then "win32"
  else if m.sizeLimit > 4294967296 then "linux-x64"
  else "linux-arm32"

def executable (s : Surroundings) : Path :=
  let name := platform s.machine
  ((s.cache.child "vexcom").child name).child (if name = "win32" then "vexcom.exe" else "vexcom")

/-- Can what is behind the node be executed? -/
def isExecutable : Node → Bool
  | .dir _ => true
  | .file _ mode => mode &&& 0o111 ≠ 0

def isInstalled : Action Bool := do
  let s ← get
  return ((s.node? (executable s.surroundings)).map isExecutable).getD false

/-- Makes a directory and those above it that are missing. Its names are given from the last one
on. -/
def ensureDirectories (isAbsolute : Bool) : List String → Action Unit
  | [] => return
  | name :: above => do
    let path : Path := ⟨isAbsolute, (name :: above).reverse⟩
    match (← get).lookup path with
    | .ok (_, .dir _) => return
    | .ok (_, .file _ _) => fail (.file ⟨.alreadyThere, path.toString⟩)
    | .error .missing =>
      ensureDirectories isAbsolute above
      -- a path that leads up again is there by now
      if !(← isDirectory path) then makeDirectory path
    | .error fault => fail (.file ⟨fault, path.toString⟩)

/-- Puts the uploader where it belongs. -/
def placeExecutable (mode : Nat) : Action Unit := do
  place (← spelled (executable (← surroundings))) (.file (.text "vexcom") mode)

def setMode (path : Path) (mode : Nat) : Action Unit := do
  match (← get).lookup path with
  | .ok (location, .file content _) => place location (.file content mode)
  | _ => return

def startInstaller : Action Unit := do
  let s ← surroundings
  let words := ["bash", s.installer.toString, s.cache.toString]
  note words
  match s.installation with
  | .fails _ => fail (.command words 1)
  | .cannotStart => fail (.file ⟨.missing, "bash"⟩)
  | .installsNothing => return
  | .installs => placeExecutable 0o644

/-- Runs the installer and makes the uploader executable. -/
def runInstaller : Action Unit := do
  startInstaller
  let s ← surroundings
  if s.machine.system ≠ "Windows" then setMode (executable s) 0o755
  say "✅ [green]VEXcom tools installed successfully[/green]"

/-- Reports why the installation failed. -/
def reportInstallation (failure : Failure) : Action Unit := do
  match failure, (← surroundings).installation with
  | .command _ _, .fails complaint =>
    say ("❌ [red]Failed to install VEXcom tools: " ++ complaint ++ "[/red]")
  | failure, _ => say ("❌ [red]Error installing VEXcom tools: " ++ failure.message ++ "[/red]")
  fail failure

def install : Action Unit := do
  say ("🔧 [yellow]VEXcom tools not found. Installing (this might take a few minutes)..." ++
    "[/yellow]")
  let s ← surroundings
  if !(← fileExists s.installer) then
    say "❌ [red]Download script not found in package[/red]"
    fail (.noInstaller s.installer.toString)
  ensureDirectories s.cache.isAbsolute s.cache.parts.reverse
  handle runInstaller reportInstallation

/-- Installs the uploader unless it is there, and tells whether it is there now. -/
def ensureInstalled : Action Bool := do
  if !(← isInstalled) then install
  if ← isInstalled then return true
  say "❌ [red]VEXcom installation failed[/red]"
  return false

def argumentTexts (settings : List Setting) : Action (List String) :=
  settings.mapM fun s => match s with
    | some (.text value) => return value
    | s => fail (.wrongKind (.argument s.kind))

/-- Runs the uploader and tells the status with which it ends. -/
def run (arguments : List Setting) : Action Int := do
  if ← ensureInstalled then
    let s ← surroundings
    let texts ← argumentTexts arguments
    note ((executable s).toString :: texts)
    return s.uploaderStatus
  else return 1

/-- Lets the uploader take the place of this program. -/
def replaceBy (arguments : List String) : Action Unit := do
  if ← ensureInstalled then
    let s ← surroundings
    note (["execvp", (executable s).toString] ++ arguments)
    if !s.canReplace then
      say "❌ [red]Error executing vexcom: [Errno 8] Exec format error[/red]"
      fail (.exit 1)
  else fail (.exit 1)

end RobotKit.Uploader
