import RobotKit.Project.Combine
import RobotKit.Project.Open
import RobotKit.Project.Uploader

/-!
# Building and uploading a project
-/

namespace RobotKit.Project

open RobotKit.Files RobotKit.Host

/-- Combines a project into its output file. -/
def build (p : Project) (verbose : Bool) : Action Unit := do
  say "📦 [yellow]Combining project into a single file...[/yellow]"
  combineInto (entryIn p.directory) p.outputFile.toString verbose

/-- Sends a script to the robot under the name and to the slot of a project. -/
def upload (p : Project) (script : Path) : Action Unit := do
  let slot ← written p.slot.plain
  let text := fun (s : String) => (some (.text s) : Setting)
  let _ ← Uploader.run [text "--name", p.name, text "--slot", text slot, text "--write",
    text script.toString, text "--timer", text "--progress"]

end RobotKit.Project
