import RobotKit.Command.Run
import RobotKit.Proofs.Opening
import RobotKit.Proofs.Unreached

/-!
# Building and uploading in one command

A build writes one file, which opening a project does not look at. So a project that was opened for
its build is opened again as the same project, and the one command that builds and uploads does what
the two commands do one after the other (`mu_runs_build_then_upload`).
-/

namespace RobotKit.Project

open RobotKit.Config RobotKit.Files RobotKit.Host

variable {s t : State} {p : Project} {verbose : Bool}

/-- The place of the combined script of the project in the current directory. -/
def outputPlace (s : State) : Location := s.directory ++ [".out", "main.py"]

/-- Is a host as it was, up to the combined script and what was printed? -/
structure SameButOutput (s t : State) : Prop where
  directory : t.directory = s.directory
  notDirectory : s.files.shapeAt (outputPlace s) ≠ some .directory
  shapeAt : ∀ location ≠ outputPlace s, t.files.shapeAt location = s.files.shapeAt location

theorem SameButOutput.keepsDirectories (h : SameButOutput s t) :
    s.files.KeepsDirectories t.files := by
  intro location hlocation
  rw [h.shapeAt, hlocation]
  rintro rfl
  exact h.notDirectory hlocation

theorem SameButOutput.hasParts (h : SameButOutput s t) (hparts : HasParts s.files s.directory) :
    HasParts t.files t.directory := by
  intro names hnames
  have hother : names ≠ [".out", "main.py"] := by
    rintro rfl
    exact absurd hnames (by decide)
  rw [h.directory, h.shapeAt _ fun heq => hother (List.append_cancel_left heq)]
  exact hparts names hnames

theorem outputFile_here (hp : p.directory = .here) :
    p.outputFile = .ofString ".out/main.py" ∧ p.outputFile.toString = ".out/main.py" := by
  rw [outputFile, hp]
  decide

/-- A build that ends well writes the combined script and nothing else. -/
theorem sameButOutput_of_build (hat : s.At .here s.directory) (hp : p.directory = .here)
    (h : (p.build verbose).run.run s = (.ok (), t)) : SameButOutput s t := by
  have hends : Ends (p.build verbose) s fun _ u => u = t := ⟨(), t, h, rfl⟩
  unfold build at hends
  rw [ends_bind, ends_say, (outputFile_here hp).2] at hends
  obtain ⟨lines, -, _, _, hcombine, rfl⟩ := hends
  obtain ⟨text, location, -, htarget, hdirectory, hfiles⟩ := written_of_combineIn hcombine
  have hpath : Path.ofString ".out/main.py" = Path.here.below [".out", "main.py"] := by decide
  unfold State.textTarget at htarget
  rw [if_neg (by decide), if_neg (by decide +kernel), hpath] at htarget
  have htarget : s.target (Path.here.below [".out", "main.py"]) = .ok location := htarget
  obtain ⟨hresolve, hnot, -⟩ := State.target_eq_ok_iff.mp htarget
  obtain ⟨rfl, hparent⟩ := (hat.resolve_below_eq_ok_iff (by decide) (by decide)).mp hresolve
  have hparent : s.files.shapeAt (outputPlace s).dropLast = some .directory := by
    rw [outputPlace, List.dropLast_append_of_ne_nil (by decide)]
    exact hparent
  refine ⟨hdirectory, hnot, fun other hother => ?_⟩
  rw [hfiles]
  exact (State.shapeAt_write (s := s) hnot hparent other).trans (if_neg hother)

/-- Opening the project in the current directory, if its parts are all there, gives the same
project as long as only the combined script changes. -/
theorem exists_of_ends_openAt_here (hparts : HasParts s.files s.directory)
    {Q : Project → State → Prop} (h : Ends (openAt .here) s Q) :
    ∃ p, s.At .here s.directory ∧ p.directory = .here ∧ (openAt .here).run.run s = (.ok p, s)
      ∧ ∀ t, SameButOutput s t → (openAt .here).run.run t = (.ok p, t) := by
  obtain ⟨D, content, hat, hfile⟩ := exists_of_ends_openAt h
  obtain rfl : s.directory = D := Except.ok.inj hat.resolve
  obtain ⟨text, config, htext, hread, hconfig⟩ := (ends_openAt_of_hasParts hat hfile hparts).mp h
  obtain ⟨name, slot, package, hproject, hpackage, -⟩ := ends_ofConfig.mp hconfig
  have hopen {t : State} (hat : t.At .here s.directory)
      (hfile : t.files.shapeAt (fileIn s.directory) = some (.file content))
      (hparts : HasParts t.files s.directory) : (openAt .here).run.run t = (.ok _, t) :=
    run_eq_of_ends ((ends_openAt_of_hasParts hat hfile hparts).mpr ⟨text, config, htext, hread,
      ends_ofConfig.mpr ⟨name, slot, package, hproject, hpackage, rfl, rfl⟩⟩)
  refine ⟨_, hat, rfl, hopen hat hfile hparts, fun t hsame => ?_⟩
  have hother : fileIn s.directory ≠ outputPlace s := by
    intro heq
    exact absurd (List.append_cancel_left heq) (by decide)
  refine hopen (hat.of_keeps hsame.directory hsame.keepsDirectories) ?_ ?_
  · rw [hsame.shapeAt _ hother, hfile]
  · rw [← hsame.directory]
    exact hsame.hasParts hparts

end RobotKit.Project

namespace RobotKit.Command

open RobotKit.Files RobotKit.Host RobotKit.Project

/-- The words of a command that may print the course of its work. -/
def commandWords (command : String) (verbose : Bool) : List String :=
  command :: if verbose then ["--verbose"] else []

theorem run_commandWords (verbose : Bool) (s : State) :
    (run (commandWords "mu" verbose)).run.run s = (buildAndUpload verbose (return)).run.run s
    ∧ (run (commandWords "build" verbose)).run.run s = (build verbose).run.run s
    ∧ (run ["upload", ".out/main.py"]).run.run s = (upload ".out/main.py").run.run s := by
  cases verbose <;> exact ⟨rfl, rfl, rfl⟩

/-- In a directory with all parts of a project, the command `mu` does what `build` and `upload` do
one after the other if the project can be opened and built, and what `build` does if not. -/
theorem mu_runs_build_then_upload (s : State) (verbose : Bool)
    (hparts : HasParts s.files s.directory) :
    (Ends (do (← openAt .here).build verbose) s (fun _ _ => True) →
      (run (commandWords "mu" verbose)).run.run s = (do
        run (commandWords "build" verbose)
        run ["upload", ".out/main.py"]).run.run s)
    ∧ (¬ Ends (do (← openAt .here).build verbose) s (fun _ _ => True) →
      (run (commandWords "mu" verbose)).run.run s
        = (run (commandWords "build" verbose)).run.run s) := by
  obtain ⟨hmu, hbuild, -⟩ := run_commandWords verbose s
  rw [run_bind, hmu, hbuild]
  constructor
  · intro hends
    obtain ⟨p, hat, hp, hopen, hagain⟩ := exists_of_ends_openAt_here hparts (ends_bind.mp hends)
    obtain ⟨⟨⟩, t, hrun, -⟩ := hends
    obtain ⟨-, -, hupload⟩ := run_commandWords verbose t
    rw [build, run_handle_of_ok hrun]
    dsimp only
    rw [hupload]
    rw [run_bind, hopen] at hrun
    have hsame := sameButOutput_of_build hat hp hrun
    -- both commands come to the same upload, with the same handler around it
    refine run_handle_congr ?_
    simp only [run_bind, hopen, hrun, hagain t hsame, (outputFile_here hp).1]
    rcases (p.upload (.ofString ".out/main.py")).run.run t with ⟨e | ⟨⟩, u⟩ <;> rfl
  · intro hfails
    refine run_handle_congr ?_
    simp only [run_bind]
    rcases hopen : (openAt .here).run.run s with ⟨e | p, u⟩
    · rfl
    · dsimp only
      rcases hrun : (p.build verbose).run.run u with ⟨e | _, t⟩
      · rfl
      · refine absurd ?_ hfails
        exact ends_bind.mpr ⟨p, u, hopen, (), t, hrun, trivial⟩

/-- A host with a complete project in its current directory and an uploader in its cache. -/
def readyHost : State :=
  quietHost (.dir [
    ("cache", .dir [("vexcom", .dir [("linux-arm32", .dir [
      ("vexcom", .file (.text "vexcom") 0o755)])])]),
    ("work", .dir [(".out", .dir []), ("dishpy.toml", .plain (.text plainFile)),
      ("src", .dir [("main.py", .plain (.text "speed = 1\n")),
        ("vex", .dir [("__init__.py", .plain (.text ""))])])])]) ["work"]

theorem plainText_build :
    (Console.plainText "📦 [yellow]Combining project into a single file...[/yellow]").toOption.isSome
    ∧ (Console.plainText (successLine ".out/main.py")).toOption.isSome := by
  decide +kernel

theorem build_readyHost : (projectOn readyHost (entryIn .here)).outcome.toOption.isSome
    ∧ (readyHost.textTarget ".out/main.py").toOption.isSome := by
  decide +kernel

theorem mu_on_readyHost :
    HasParts readyHost.files readyHost.directory
    ∧ Ends (do (← openAt .here).build false) readyHost (fun _ _ => True)
    ∧ (run ["mu"]).run.run readyHost = (do
        run ["build"]
        run ["upload", ".out/main.py"]).run.run readyHost := by
  have hparts : HasParts readyHost.files readyHost.directory := by
    unfold HasParts
    decide
  obtain ⟨config, hread, hproject, hpackage⟩ := settings_of_namesRobot robot_files.2.1
  have hbuilds : Ends (do (← openAt .here).build false) readyHost fun _ _ => True := by
    rw [ends_bind, ends_openAt_of_hasParts ⟨rfl, rfl⟩ rfl hparts]
    refine ⟨plainFile, config, rfl, hread, ends_ofConfig.mpr ⟨_, _, _, hproject, hpackage, ?_⟩⟩
    obtain ⟨lines, hlines⟩ := exists_render_eq_ok plainText_build.1
    rw [Project.build, ends_bind, ends_say]
    exact ⟨lines, hlines, ends_combineIn_iff.mpr ⟨exists_eq_ok_of_isSome build_readyHost.1,
      exists_eq_ok_of_isSome build_readyHost.2, exists_render_eq_ok plainText_build.2⟩⟩
  exact ⟨hparts, hbuilds, (mu_runs_build_then_upload readyHost false hparts).1 hbuilds⟩

end RobotKit.Command
