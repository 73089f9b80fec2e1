import RobotKit.Project.Combine
import RobotKit.Proofs.Actions
import RobotKit.Proofs.NameList
import RobotKit.Proofs.Reachability

/-!
# Files that hold no script

A file that cannot be read or parsed counts as an empty script: a project combines, or fails to, as
it would with empty scripts in the place of such files (`Project.outcome_filled`). Only the notes
name them.
-/

namespace RobotKit.Link

open List RobotKit.Script Relation

variable {project : Project} {file : String} {modules : Table String} {result : Combined}
  {entry : String}

/-! ## Notes -/

/-- The scan with other notes. -/
def Scan.withNotes (scan : Scan) (notes : List Note) : Scan := { scan with notes }

/-- The work list with other notes. -/
def Worklist.withNotes (work : Worklist) (notes : List Note) : Worklist :=
  { work with scan := work.scan.withNotes notes }

/-- Does the step look at no notes, and does it add none on files whose statements were to be
taken? -/
def AddsNotes (f : Worklist → Worklist) : Prop :=
  ∀ work, ∃ added, (∀ note ∈ added, ∀ file, note ≠ .notParsed file) ∧
    ∀ notes, f (work.withNotes notes) = (f work).withNotes (notes ++ added)

namespace AddsNotes

variable {f g : Worklist → Worklist}

theorem comp (hf : AddsNotes f) (hg : AddsNotes g) : AddsNotes fun work => g (f work) := by
  intro work
  obtain ⟨first, hfirst, hf⟩ := hf work
  obtain ⟨second, hsecond, hg⟩ := hg (f work)
  refine ⟨first ++ second, forall_mem_append.mpr ⟨hfirst, hsecond⟩, fun notes => ?_⟩
  show g (f (work.withNotes notes)) = _
  rw [hf, hg, append_assoc]

theorem of_silent (h : ∀ work notes, f (work.withNotes notes) = (f work).withNotes notes) :
    AddsNotes f :=
  fun work => ⟨[], nofun, fun notes => by rw [h, append_nil]⟩

theorem note {note : Note} (hnote : ∀ file, note ≠ .notParsed file) :
    AddsNotes (Worklist.note · note) :=
  fun _ => ⟨[note], forall_mem_singleton.mpr hnote, fun _ => rfl⟩

end AddsNotes

theorem stepsHave_addsNotes (file : String) : StepsHave file AddsNotes where
  nothing := .of_silent fun _ _ => rfl
  comp := .comp
  note _ := .note (by simp)
  outside _ := .of_silent fun _ _ => rfl
  enqueue path := by
    refine .of_silent fun work notes => ?_
    by_cases h : work.scan.scanned.contains path = true
    · simp only [Worklist.enqueue, Worklist.withNotes, Scan.withNotes, h, ↓reduceIte]
    · simp only [Worklist.enqueue, Worklist.withNotes, Scan.withNotes, h]
      rfl
  record _ _ := .of_silent fun _ _ => rfl

/-- Recording declarations in a work list records them in its scan. -/
theorem foldl_declare_scan (file : String) (found : List Declaration) (work : Worklist) :
    found.foldl (fun work d => { work with scan := work.scan.declare file d }) work
      = { work with scan := found.foldl (Scan.declare · file ·) work.scan } := by
  induction found generalizing work with
  | nil => rfl
  | cons d rest ih => rw [foldl_cons, ih]; rfl

theorem addsNotes_declare (file : String) (found : List Declaration) :
    AddsNotes fun work => { work with scan := found.foldl (Scan.declare · file ·) work.scan } := by
  have hstep (d : Declaration) :
      AddsNotes fun work => { work with scan := work.scan.declare file d } :=
    fun _ => ⟨[_], forall_mem_singleton.mpr (by simp), fun _ => rfl⟩
  have hfold := (stepsHave_addsNotes file).foldl hstep found
  simpa only [foldl_declare_scan] using hfold

theorem addsNotes_scanFile (read : Reads) (modules : Table String) (entry file : String) :
    AddsNotes (scanFile read modules entry file) := by
  have hlook : AddsNotes fun work => { work with scan := work.scan.looked file } :=
    fun _ => ⟨[_], forall_mem_singleton.mpr (by simp), fun _ => rfl⟩
  unfold scanFile
  cases hread : read file with
  | none => exact hlook.comp (.note (by simp))
  | some body =>
    exact (hlook.comp (addsNotes_declare file _)).comp
      ((stepsHave_addsNotes file).followImports modules (importsOf body))

theorem ne_notParsed_of_mem_scanQueue {read : Reads} (fuel : Nat) {work : Worklist}
    (h : ∀ note ∈ work.scan.notes, ∀ file, note ≠ .notParsed file) :
    ∀ note ∈ (scanQueue read modules entry fuel work).notes, ∀ file, note ≠ .notParsed file := by
  induction fuel generalizing work with
  | zero => exact h
  | succ fuel ih =>
    rw [scanQueue]
    split
    · exact h
    · rename_i file rest _
      obtain ⟨added, hadded, hnotes⟩ :=
        addsNotes_scanFile read modules entry file { work with queue := rest }
      have hscan := congrArg (·.scan.notes) (hnotes work.scan.notes)
      refine ih ?_
      show ∀ note ∈ (scanFile read modules entry file { work with queue := rest }).scan.notes, _
      rw [show (scanFile read modules entry file { work with queue := rest }).scan.notes
        = work.scan.notes ++ added from hscan]
      exact forall_mem_append.mpr ⟨h, hadded⟩

/-! ## Empty scripts in the place of missing ones -/

/-- Reads an empty script where there is none. -/
def Reads.filled (read : Reads) : Reads := fun file => some ((read file).getD [])

theorem scanFile_filled (read : Reads) (modules : Table String) (entry file : String)
    (work : Worklist) :
    ∃ notes, scanFile read.filled modules entry file work
      = (scanFile read modules entry file work).withNotes notes := by
  cases hread : read file with
  | none =>
    simp only [scanFile, Reads.filled, hread]
    exact ⟨_, rfl⟩
  | some body =>
    simp only [scanFile, Reads.filled, hread]
    exact ⟨_, rfl⟩

/-- With empty scripts in the place of missing ones a scan finds the same. -/
theorem scanQueue_filled (read : Reads) (modules : Table String) (entry : String) (fuel : Nat)
    (work : Worklist) (notes : List Note) :
    ∃ notes', scanQueue read.filled modules entry fuel (work.withNotes notes)
      = (scanQueue read modules entry fuel work).withNotes notes' := by
  induction fuel generalizing work notes with
  | zero => exact ⟨notes, rfl⟩
  | succ fuel ih =>
    simp only [scanQueue, Worklist.withNotes, Scan.withNotes]
    split
    · exact ⟨notes, rfl⟩
    · rename_i file rest _
      let rested : Worklist := { work with queue := rest }
      obtain ⟨added, -, hadds⟩ := addsNotes_scanFile read modules entry file rested
      obtain ⟨filled, hfilled⟩ :=
        scanFile_filled read modules entry file (rested.withNotes notes)
      obtain ⟨notes', hrest⟩ := ih (scanFile read modules entry file rested) filled
      rw [hadds] at hfilled
      exact ⟨notes', (congrArg (scanQueue _ _ _ fuel) hfilled).trans hrest⟩

/-- The project with empty scripts in the place of files that hold none. -/
def Project.filled (project : Project) : Project := { project with read := project.read.filled }

/-- What comes of combining a project whose symbols are walked in some order: the text of the script,
or the error. -/
def Project.outcomeIn (project : Project) (order : List String) : Except WriteError String :=
  match project.combineIn order with
  | .ok result => .ok result.text
  | .error (e, _) => .error e

/-- What comes of combining a project. -/
def Project.outcome (project : Project) : Except WriteError String :=
  project.outcomeIn project.analysis.order

theorem Project.outcomeIn_eq_ok_iff {order : List String} {text : String} :
    project.outcomeIn order = .ok text
      ↔ ∃ result, project.combineIn order = .ok result ∧ result.text = text := by
  unfold outcomeIn
  cases project.combineIn order with
  | ok result => simp
  | error failure => simp

theorem Project.outcome_eq_ok_iff {text : String} :
    project.outcome = .ok text ↔ ∃ result, project.combine = .ok result ∧ result.text = text :=
  outcomeIn_eq_ok_iff

theorem Project.analysis_filled (project : Project) :
    ∃ notes, project.filled.analysis
      = { project.analysis with scan := project.analysis.scan.withNotes notes } := by
  obtain ⟨notes, hscan⟩ : ∃ notes,
      scanProject project.read.filled (moduleMap project.files) project.entry
        = project.analysis.scan.withNotes notes :=
    scanQueue_filled project.read _ _ _ ⟨.empty, [project.entry]⟩ []
  refine ⟨notes, ?_⟩
  rw [Project.analysis]
  simp only [Project.filled, hscan]
  rfl

theorem Project.outcome_filled (project : Project) :
    project.filled.outcome = project.outcome := by
  obtain ⟨notes, hanalysis⟩ := project.analysis_filled
  have hpieces : project.filled.piecesOf project.filled.analysis
      = project.piecesOf project.analysis := by
    rw [hanalysis]
    rfl
  have hchunk : project.filled.analysis.chunkOf = project.analysis.chunkOf := by
    rw [hanalysis]
    rfl
  have horder : project.filled.analysis.order = project.analysis.order := by
    rw [hanalysis]
    rfl
  have hexternal : project.filled.analysis.scan.external = project.analysis.scan.external := by
    rw [hanalysis]
    rfl
  unfold outcome outcomeIn combineIn
  dsimp only
  rw [hpieces, hchunk, horder, hexternal]
  cases (project.piecesOf project.analysis).mapM project.analysis.chunkOf with
  | error e => rfl
  | ok chunks => rfl

/-! ## Which files the notes name -/

theorem Project.notParsed_mem_notes {order : List String} :
    .notParsed file ∈ project.notes project.analysis order
      ↔ file ∈ project.analysis.scan.scanned ∧ project.read file = none := by
  have hscan : .notParsed file ∉ project.analysis.scan.notes := fun hmem =>
    ne_notParsed_of_mem_scanQueue _ (by simp [Scan.empty]) _ hmem file rfl
  simp [notes, hscan]

/-- The text of the file at a path, if there is one and it holds text. -/
def textAt (root : Files.Node) (file : String) : Option String :=
  match root.find? (Files.Path.ofString file).parts with
  | some (.file (.text value) _) => some value
  | some (.file (.resource value) _) => some value.script
  | _ => none

theorem readScript_eq_readTexts (root : Files.Node) :
    readScript root = readTexts (textAt root) := by
  funext file
  unfold readScript readTexts textAt
  cases root.find? (Files.Path.ofString file).parts with
  | none => rfl
  | some node =>
    cases node with
    | dir entries => rfl
    | file content mode => cases content <;> rfl

/-- Is there a file at the path, and is its text a script? -/
def HoldsScript (root : Files.Node) (file : String) : Prop :=
  ∃ text body, textAt root file = some text ∧ parse text = .ok body

theorem readScript_eq_none_iff {root : Files.Node} :
    readScript root file = none ↔ ¬ HoldsScript root file := by
  rw [readScript_eq_readTexts, Option.eq_none_iff_forall_ne_some, HoldsScript, exists_comm,
    not_exists]
  exact forall_congr' fun body => not_congr readTexts_eq_some_iff

/-- Does the entry file of the project lead to the file, by one import after another? -/
def Project.Reaches (project : Project) (file : String) : Prop :=
  ReflTransGen (FileLeadsTo project.read (moduleMap project.files)) project.entry file

theorem Project.notes_of_combine (h : project.combine = .ok result) :
    result.notes = project.notes project.analysis project.analysis.order := by
  unfold combine combineIn at h
  dsimp only at h
  split at h
  · exact nomatch h
  · obtain rfl := Except.ok.inj h
    rfl

/-- A script that was combined names in its notes exactly the files that were passed over. -/
theorem Project.notParsed_mem_iff (h : project.combine = .ok result) :
    .notParsed file ∈ result.notes ↔ project.Reaches file ∧ project.read file = none := by
  have hscanned : file ∈ project.analysis.scan.scanned ↔ project.Reaches file :=
    (tracks_scanProject _ _ _).mem_scanned_iff
  rw [notes_of_combine h, notParsed_mem_notes, hscanned]

end RobotKit.Link

namespace RobotKit.Project

open List RobotKit.Files RobotKit.Host RobotKit.Link

/-- The project of an entry file on a host. -/
def projectOn (s : State) (entry : Path) : Link.Project :=
  projectAt s.files (entry.spelled s.directory)

/-- How a run of `combineInto` ends, and what it writes where. -/
structure CombineEnd where
  result : Except Failure Unit
  written : Option (Location × String)

/-- How combining a project ends: it writes the script unless a chunk cannot be written or there is
no place for the script, and then reports that it did. -/
def combineEnd (combined : Except (Script.WriteError × List Note) Combined)
    (target : Except Fault Location) (output : String) : CombineEnd :=
  match combined, target with
  | .error (e, _), _ => ⟨.error (.write e), none⟩
  | .ok _, .error fault => ⟨.error (.file ⟨fault, output⟩), none⟩
  | .ok result, .ok location =>
    match Console.render (successLine output) with
    | .ok _ => ⟨.ok (), some (location, result.text)⟩
    | .error e => ⟨.error (.markup e), some (location, result.text)⟩

/-- The files of a host after a text was written at a location, or after nothing was. -/
def filesWith (s : State) : Option (Location × String) → Node
  | none => s.files
  | some (location, text) => (s.write location (.text text)).files

theorem results_combineIn (order : Analysis → List String) (s : State) (entry : Path)
    (output : String) (verbose : Bool) :
    Results (combineIn order entry output verbose) s fun result t =>
      result = (combineEnd ((projectOn s entry).combineIn (order (projectOn s entry).analysis))
        (s.textTarget output) output).result
      ∧ t.directory = s.directory
      ∧ t.files = filesWith s (combineEnd
        ((projectOn s entry).combineIn (order (projectOn s entry).analysis))
        (s.textTarget output) output).written := by
  unfold combineIn projectOn
  simp only [results_bind, results_get]
  cases (projectAt s.files (entry.spelled s.directory)).combineIn _ with
  | error failure => cases verbose <;> simp [combineEnd, filesWith, -forM_map]
  | ok result =>
    -- what is printed on the way does not change where the output goes
    have htarget (text : String) :
        State.textTarget { s with output := text } output = s.textTarget output := rfl
    have hwrite (text : String) (location : Location) (content : Content) :
        (State.write { s with output := text } location content).directory = s.directory
          ∧ (State.write { s with output := text } location content).files
            = (s.write location content).files :=
      ⟨rfl, rfl⟩
    cases hlocation : s.textTarget output with
    | error fault => cases verbose <;> simp [htarget, hlocation, combineEnd, filesWith, -forM_map]
    | ok location =>
      cases hrender : Console.render (successLine output) with
      | error e =>
        cases verbose <;>
          simp [htarget, hlocation, combineEnd, filesWith, results_say, hrender, hwrite, -forM_map]
      | ok lines =>
        cases verbose <;>
          simp [htarget, hlocation, combineEnd, filesWith, results_say, hrender, hwrite, -forM_map]

/-- When a project is combined into a file without a failure. -/
theorem ends_combineIn_iff {order : Analysis → List String} {s : State} {entry : Path}
    {output : String} {verbose : Bool} :
    Ends (combineIn order entry output verbose) s (fun _ _ => True)
      ↔ (∃ text, (projectOn s entry).outcomeIn (order (projectOn s entry).analysis) = .ok text)
        ∧ (∃ location, s.textTarget output = .ok location)
        ∧ ∃ lines, Console.render (successLine output) = .ok lines := by
  rw [ends_true_iff, (results_combineIn order s entry output verbose).1, Link.Project.outcomeIn]
  cases (projectOn s entry).combineIn _ with
  | error failure => simp [combineEnd]
  | ok result =>
    cases s.textTarget output with
    | error fault => simp [combineEnd]
    | ok location =>
      cases hrender : Console.render (successLine output) <;> simp [combineEnd, hrender]

/-- Combining a project ends well exactly if it does with empty scripts in the place of the files
that hold none, and gives the same text. So it vouches for a file that the entry file reaches only
if no note says that the file was passed over. -/
theorem combineInto_passes_over_unreadable (s : State) (entry : Path) (output : String)
    (verbose : Bool) :
    (Ends (combineInto entry output verbose) s (fun _ _ => True)
      ↔ (∃ text, (projectOn s entry).filled.outcome = .ok text)
        ∧ (∃ location, s.textTarget output = .ok location)
        ∧ ∃ lines, Console.render (successLine output) = .ok lines)
    ∧ ∀ result, (projectOn s entry).combine = .ok result →
        (projectOn s entry).filled.outcome = .ok result.text
        ∧ ∀ file, .notParsed file ∈ result.notes
            ↔ (projectOn s entry).Reaches file ∧ ¬ HoldsScript s.files file := by
  rw [Project.outcome_filled]
  refine ⟨ends_combineIn_iff, fun result hresult => ⟨?_, fun file => ?_⟩⟩
  · exact Project.outcome_eq_ok_iff.mpr ⟨result, hresult, rfl⟩
  · rw [Project.notParsed_mem_iff hresult]
    exact and_congr_right fun _ => readScript_eq_none_iff

/-- A host with one script in its current directory. -/
def hostWith (script : String) : State :=
  quietHost (.dir [("work", .dir [("main.py", .plain (.text script))])]) ["work"]

/-- A script that the grammar refuses. -/
def broken : String := "def f(:\n"

theorem combine_broken :
    (projectOn (hostWith broken) (.ofString "main.py")).outcome.toOption.isSome
      ∧ (Script.parse broken).toOption.isNone
      ∧ ((hostWith broken).textTarget "out.txt").toOption.isSome
      ∧ (Console.plainText (successLine "out.txt")).toOption.isSome := by
  decide +kernel

theorem not_holdsScript_broken : ¬ HoldsScript (hostWith broken).files "/work/main.py" := by
  rintro ⟨text, body, htext, hparse⟩
  obtain rfl : broken = text := Option.some.inj htext
  have hnone := combine_broken.2.1
  rw [hparse] at hnone
  exact nomatch hnone

theorem reaches_main (script : String) :
    (projectOn (hostWith script) (.ofString "main.py")).Reaches "/work/main.py" :=
  .refl

/-- Combining a project whose only script is broken ends well, and a note names the script. -/
theorem combine_broken_notes_main :
    ∃ result, (projectOn (hostWith broken) (.ofString "main.py")).combine = .ok result
      ∧ .notParsed "/work/main.py" ∈ result.notes := by
  obtain ⟨text, houtcome⟩ := exists_eq_ok_of_isSome combine_broken.1
  obtain ⟨result, hresult, -⟩ := Project.outcome_eq_ok_iff.mp houtcome
  obtain ⟨-, hvouches⟩ :=
    combineInto_passes_over_unreadable (hostWith broken) (.ofString "main.py") "out.txt" true
  exact ⟨result, hresult,
    ((hvouches result hresult).2 _).mpr ⟨reaches_main broken, not_holdsScript_broken⟩⟩

theorem combineInto_broken_ends_well :
    Ends (combineInto (.ofString "main.py") "out.txt" false) (hostWith broken) (fun _ _ => True)
      ∧ (projectOn (hostWith broken) (.ofString "main.py")).Reaches "/work/main.py"
      ∧ ¬ HoldsScript (hostWith broken).files "/work/main.py" := by
  obtain ⟨houtcome, -, htarget, hplain⟩ := combine_broken
  obtain ⟨plain, hplain⟩ := exists_eq_ok_of_isSome hplain
  have hrender : ∃ lines, Console.render (successLine "out.txt") = .ok lines := by
    rw [Console.render, hplain]
    exact ⟨_, rfl⟩
  refine ⟨ends_combineIn_iff.mpr ⟨?_, ?_, hrender⟩, reaches_main broken, not_holdsScript_broken⟩
  · exact exists_eq_ok_of_isSome houtcome
  · exact exists_eq_ok_of_isSome htarget

end RobotKit.Project
