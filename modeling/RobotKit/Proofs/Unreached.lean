import Mathlib.Data.List.Basic
import RobotKit.Proofs.Tree
import RobotKit.Proofs.Unreadable

/-!
# Files that a project does not reach

Combining a project looks at the paths of all files in the project directory, but only into those
that it scans. So two hosts on which the same paths lead to files, and on which the scanned files
are the same, get the same script (`combineInto_ignores_unreached`). What is read is known only
when the scan is over; every function that reads is shown to depend on the scanned files alone.
-/

namespace RobotKit.Link

open List RobotKit.Script RobotKit.Files

variable {read read' : Reads} {modules : Table String} {entry : String}

/-- What has been scanned stays scanned. -/
theorem scanned_subset_scanQueue (fuel : Nat) (work : Worklist) :
    work.scan.scanned ⊆ (scanQueue read modules entry fuel work).scanned := by
  induction fuel generalizing work with
  | zero => exact fun _ h => h
  | succ fuel ih =>
    rw [scanQueue]
    split
    · exact fun _ h => h
    · rename_i file rest _
      intro other hother
      apply ih
      rw [scanned_scanFile]
      exact mem_append_left _ hother

theorem scanFile_congr {file : String} (h : read' file = read file) (work : Worklist) :
    scanFile read' modules entry file work = scanFile read modules entry file work := by
  rw [scanFile, scanFile, h]

/-- A scan depends on what it looks at alone. -/
theorem scanQueue_congr (fuel : Nat) {work : Worklist}
    (h : ∀ file ∈ (scanQueue read modules entry fuel work).scanned, read' file = read file) :
    scanQueue read' modules entry fuel work = scanQueue read modules entry fuel work := by
  induction fuel generalizing work with
  | zero => rfl
  | succ fuel ih =>
    rw [scanQueue] at h ⊢
    rw [scanQueue]
    split at h
    · rfl
    · rename_i file rest _
      have hfile : read' file = read file := by
        apply h
        apply scanned_subset_scanQueue
        rw [scanned_scanFile]
        exact mem_append_right _ (mem_singleton_self file)
      rw [scanFile_congr hfile]
      exact ih h

theorem addDependencies_congr {scan : Scan} {origins : Table (Table Origin)}
    {deps : Table (List String)} {file : String} (h : read' file = read file) :
    addDependencies read' scan origins entry deps file
      = addDependencies read scan origins entry deps file := by
  rw [addDependencies, addDependencies, h]

theorem Scan.dependencies_congr {scan : Scan}
    (h : ∀ file ∈ scan.scanned, read' file = read file) :
    scan.dependencies read' entry = scan.dependencies read entry :=
  foldl_ext _ _ _ fun _ file hfile => addDependencies_congr (h file (mem_sortNames.mp hfile))

/-- Do two projects have the same files, and does the second read what the first one scans as the
first one does? -/
structure Project.Alike (project project' : Project) : Prop where
  directory : project'.directory = project.directory
  entry : project'.entry = project.entry
  files : project'.files = project.files
  read : ∀ file ∈ project.analysis.scan.scanned, project'.read file = project.read file

namespace Project.Alike

variable {project project' : Project}

section

variable (h : project.Alike project')

include h

theorem analysis : project'.analysis = project.analysis := by
  have hscan : scanProject project'.read (moduleMap project'.files) project'.entry
      = project.analysis.scan := by
    rw [h.files, h.entry]
    exact scanQueue_congr _ h.read
  have hnames (declared : Table (List String)) :
      project'.newNames declared = project.newNames declared := by
    simp only [newNames, relative, h.entry, h.directory]
  have hdependencies : project.analysis.scan.dependencies project'.read project.entry
      = project.analysis.scan.dependencies project.read project.entry :=
    Scan.dependencies_congr h.read
  rw [Project.analysis, hscan, hnames, h.entry, hdependencies]
  rfl

theorem pieces :
    project'.piecesOf project.analysis = project.piecesOf project.analysis := by
  unfold piecesOf
  rw [h.entry]
  refine flatMap_congr fun file hfile => ?_
  rw [h.read file (mem_sortNames.mp hfile)]

theorem notes (order : List String) :
    project'.notes project.analysis order = project.notes project.analysis order := by
  have hunreadable : (sortNames project.analysis.scan.scanned).filter
        (fun file => (project'.read file).isNone)
      = (sortNames project.analysis.scan.scanned).filter
        (fun file => (project.read file).isNone) :=
    filter_congr fun file hfile => by rw [h.read file (mem_sortNames.mp hfile)]
  have hscanNotes : project'.scanNotes project.analysis = project.scanNotes project.analysis := by
    simp only [scanNotes, relative, h.directory]
  unfold Project.notes
  rw [hunreadable, hscanNotes, h.directory, h.files, h.entry]

/-- Alike projects are combined alike, notes and errors included. -/
theorem combineIn (order : List String) : project'.combineIn order = project.combineIn order := by
  unfold Project.combineIn
  dsimp only
  rw [h.analysis, h.pieces, h.notes]

end

end Project.Alike

/-! ## Projects in alike trees -/

/-- The script file at a location below a directory, if its name is one of a script. -/
def scriptFile? (directory location : Location) : Option ScriptFile :=
  if isScriptName (location.getLast?.getD "") then
    some ⟨"/".intercalate location, Location.text (directory ++ location)⟩
  else none

/-- What is below a directory; nothing, if there is no such directory. -/
def below (root : Node) (directory : Location) : Node := (root.find? directory).getD (.dir [])

theorem wellFormed_below {root : Node} (h : root.WellFormed) (directory : Location) :
    (below root directory).WellFormed := by
  unfold below
  cases hfind : root.find? directory with
  | none => exact .dir nofun .nil nofun
  | some node => exact (h.find? hfind).1

theorem contentAt_below (root : Node) (directory location : Location) :
    (below root directory).contentAt location = root.contentAt (directory ++ location) := by
  unfold Node.contentAt
  rw [Node.find?_append, below]
  cases root.find? directory with
  | some node => rfl
  | none => cases location <;> rfl

/-- The paths of the files below a directory, in the order in which they are met. -/
def pathsBelow (root : Node) (directory : Location) : List Location :=
  ((below root directory).walk []).map (·.1)

/-- The script files of a project directory are found by their locations alone. -/
theorem scriptFiles_eq (root : Node) (directory : Location) :
    scriptFiles root directory
      = (pathsBelow root directory).filterMap (scriptFile? directory) := by
  unfold scriptFiles pathsBelow below
  rw [filterMap_map]
  cases root.find? directory with
  | none => rfl
  | some node =>
    cases node with
    | dir entries => rfl
    | file content mode => rfl

theorem readScript_eq_bind (root : Node) (file : String) :
    readScript root file = (root.contentAt (Path.ofString file).parts).bind scriptIn := by
  unfold readScript Node.contentAt
  cases root.find? (Path.ofString file).parts with
  | none => rfl
  | some node => cases node <;> rfl

end RobotKit.Link

namespace RobotKit.Project

open List RobotKit.Files RobotKit.Host RobotKit.Link

/-- What is left on the host when a project was combined well. -/
theorem written_of_combineIn {order : Analysis → List String} {s t : State} {entry : Path}
    {output : String} {verbose : Bool}
    (h : (combineIn order entry output verbose).run.run s = (.ok (), t)) :
    ∃ text location, (projectOn s entry).outcomeIn (order (projectOn s entry).analysis) = .ok text
      ∧ s.textTarget output = .ok location
      ∧ t.directory = s.directory ∧ t.files = (s.write location (.text text)).files := by
  obtain ⟨⟨text, houtcome⟩, ⟨location, hlocation⟩, lines, hlines⟩ :=
    ends_combineIn_iff.mp ⟨_, _, h, trivial⟩
  obtain ⟨result, hresult, rfl⟩ := Link.Project.outcomeIn_eq_ok_iff.mp houtcome
  have hends := results_combineIn order s entry output verbose
  rw [Results, h, hresult, hlocation] at hends
  simp only [combineEnd, hlines, filesWith] at hends
  exact ⟨result.text, location, houtcome, hlocation, hends.2⟩

end RobotKit.Project
