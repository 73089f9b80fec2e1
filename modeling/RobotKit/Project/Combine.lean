import RobotKit.Host.Disk
import RobotKit.Link.Sources

/-!
# Writing the combined script of a project
-/

namespace RobotKit.Project

open RobotKit.Files RobotKit.Host

/-- The line that reports a combined project. -/
def successLine (output : String) : String :=
  "✅ [green]Project combined successfully into[/green] [bold cyan]" ++ output ++ "[/bold cyan]"

/-- What follows the path in a note on a file that could not be read. -/
def complaintOn (s : State) (file : String) : String :=
  match s.surroundings.complaint file (s.files.find? (Path.ofString file).parts) with
  | some words => ": " ++ words
  | none => ""

/-- Combines the project with the given entry file into one script, which goes to the file that
`output` names. With `verbose` the course of the work is printed. The symbols are walked in the order
that the run takes for the project. -/
def combineIn (order : Link.Analysis → List String) (entry : Path) (output : String)
    (verbose : Bool) : Action Unit := do
  let s ← get
  let project := Link.projectAt s.files (entry.spelled s.directory)
  match project.combineIn (order project.analysis) with
  | .error (e, notes) =>
    if verbose then (notes.map (Link.Note.text (complaintOn s))).forM printLine
    fail (.write e)
  | .ok combined =>
    if verbose then (combined.notes.map (Link.Note.text (complaintOn s))).forM printLine
    match (← get).textTarget output with
    | .error fault => fail (.file ⟨fault, output⟩)
    | .ok location => modify (·.write location (.text combined.text))
    if verbose then combined.writeNotes.forM printLine
    say (successLine output)

/-- Combines a project, its symbols walked in the order of their names. -/
def combineInto (entry : Path) (output : String) (verbose : Bool) : Action Unit :=
  combineIn Link.Analysis.order entry output verbose

end RobotKit.Project
