import RobotKit.Proofs.ImportLines
import RobotKit.Proofs.Path
import RobotKit.Proofs.Unreached

/-!
# The device library stays outside

Scripts find the device library under the name `vex`. A copy of it may lie in the project directory,
but a scan never looks into it: imports of that name are not followed, the name of a module below a
package is longer, and no other name leads to the copy, since a file of a project directory has one
module name only (`moduleName_unique`). The imports of the library are lines of the header instead
(`device_library_stays_outside`).
-/

namespace RobotKit.Link

open List RobotKit.Script RobotKit.Files RobotKit.Host Relation

variable {directory : Location} {root : Node} {modules : Table String}

/-! ## One name for each file -/

theorem mem_scriptFiles {file : ScriptFile} (hroot : root.WellFormed)
    (h : file ∈ scriptFiles root directory) :
    ∃ location, (∀ name ∈ directory ++ location, IsName name) ∧
      file = ⟨"/".intercalate location, Location.text (directory ++ location)⟩ := by
  rw [scriptFiles_eq, mem_filterMap] at h
  obtain ⟨location, hlocation, hfile⟩ := h
  obtain ⟨found, hfound, rfl⟩ := mem_map.mp hlocation
  have hcontent : root.contentAt (directory ++ found.1) = some found.2 := by
    rw [← contentAt_below]
    exact (Node.mem_walk (wellFormed_below hroot directory)).mp hfound
  obtain ⟨mode, hfind⟩ := Node.contentAt_eq_some_iff.mp hcontent
  refine ⟨found.1, (hroot.find? hfind).2, ?_⟩
  unfold scriptFile? at hfile
  split at hfile
  · exact (Option.some.inj hfile).symm
  · exact absurd hfile (by simp)

/-- The full path of a script file determines its path inside the project directory. -/
theorem eq_of_full_eq {file file' : ScriptFile} (hroot : root.WellFormed)
    (h : file ∈ scriptFiles root directory) (h' : file' ∈ scriptFiles root directory)
    (hfull : file.full = file'.full) : file = file' := by
  obtain ⟨location, hnames, rfl⟩ := mem_scriptFiles hroot h
  obtain ⟨location', hnames', rfl⟩ := mem_scriptFiles hroot h'
  have hlocation : directory ++ location = directory ++ location' := by
    rw [← Path.parts_ofString_text hnames, ← Path.parts_ofString_text hnames']
    exact congrArg (fun text => (Path.ofString text).parts) hfull
  rw [append_cancel_left hlocation]

theorem exists_mem_of_get?_moduleMap {files : List ScriptFile} {name path : String}
    (h : (moduleMap files).get? name = some path) :
    ∃ file ∈ files, moduleName file.relative = name ∧ file.full = path := by
  unfold moduleMap at h
  rw [Table.get?_ofList] at h
  have hmem := mem_reverse.mp (Table.mem_of_lookup h)
  obtain ⟨file, hfile, heq⟩ := mem_map.mp hmem
  obtain ⟨hname, hpath⟩ := Prod.mk.inj heq
  exact ⟨file, hfile, hname, hpath⟩

/-- No file of a project directory is found under two names. -/
theorem moduleName_unique {name name' path : String} (hroot : root.WellFormed)
    (h : (moduleMap (scriptFiles root directory)).get? name = some path)
    (h' : (moduleMap (scriptFiles root directory)).get? name' = some path) : name = name' := by
  obtain ⟨file, hfile, rfl, hfull⟩ := exists_mem_of_get?_moduleMap h
  obtain ⟨file', hfile', rfl, hfull'⟩ := exists_mem_of_get?_moduleMap h'
  rw [eq_of_full_eq hroot hfile hfile' (hfull.trans hfull'.symm)]

/-! ## No import leads into the library -/

/-- A module below a package has a dot in its name. -/
theorem nested_ne_device (package source : String) : package ++ "." ++ source ≠ "vex" := by
  intro h
  have hdot : '.' ∈ (package ++ "." ++ source).toList := by simp
  rw [h] at hdot
  exact absurd hdot (by decide)

/-- If the file of the library has no other name, no import leads to it. -/
theorem not_leadsTo_device {file path : String} {i : Import}
    (hunique : ∀ name, modules.get? name = some path → name = "vex") :
    ¬ i.LeadsTo modules file path := by
  intro h
  have hdevice : isDeviceModule "vex" = true := by decide
  cases h with
  | @module names a _ ha hlocal hget =>
    rw [hunique a.name hget, hdevice] at hlocal
    exact absurd hlocal (by simp)
  | source hlocal hsource =>
    cases hsource with
    | @direct name _ hget =>
      have hname := hlocal name rfl
      rw [hunique name hget, hdevice] at hname
      exact absurd hname (by simp)
    | nested _ _ _ hget => exact nested_ne_device _ _ (hunique _ hget)

theorem not_mem_scanned_device {read : Reads} {entry path : String}
    (hunique : ∀ name, modules.get? name = some path → name = "vex") (hentry : path ≠ entry) :
    path ∉ (scanProject read modules entry).scanned := by
  intro hscanned
  have hreach := (tracks_scanProject read modules entry).mem_scanned_iff.mp hscanned
  -- a file other than the entry file was reached by a last import
  rcases hreach.cases_tail with heq | ⟨file, -, body, -, i, -, hleads⟩
  · exact hentry heq
  · exact not_leadsTo_device hunique hleads

/-! ## Imports of the library -/

/-- Does the import name a module of the device library? -/
def Import.NamesDevice : Import → Prop
  | .modules aliases => ∃ a ∈ aliases, isDeviceModule a.name = true
  | .names source _ _ => ∃ name ∈ source, isDeviceModule name = true

/-- An import of the device library leaves the project, whatever else it names. -/
theorem Import.NamesDevice.leaves {i : Import} (h : i.NamesDevice) (modules : Table String)
    (file : String) : ∃ text, i.Leaves modules file text := by
  cases i with
  | modules aliases =>
    obtain ⟨a, ha, hdevice⟩ := h
    exact ⟨_, .module ha (.inl hdevice)⟩
  | names source aliases level =>
    obtain ⟨name, rfl, hdevice⟩ := h
    exact ⟨_, .device hdevice⟩

/-- The file that a project has under the name of the device library is not scanned unless the
project starts with it, and no statement of it is among those that a script of the project is made
of. Every import of the library in a scanned file, at any depth, is a line of the header. -/
theorem device_library_stays_outside {root : Node} (hroot : root.WellFormed) (entry : Location) :
    (∀ path, (moduleMap (projectAt root entry).files).get? "vex" = some path →
      path ≠ (projectAt root entry).entry →
      path ∉ (projectAt root entry).analysis.scan.scanned ∧
        ∀ p ∈ (projectAt root entry).written, p.file ≠ path) ∧
    ∀ result, (projectAt root entry).combine = .ok result →
      ∃ lines chunks,
        result.text = layout lines chunks ∧
        ((projectAt root entry).written.map (projectAt root entry).analysis.linked).mapM Stmt.text
          = .ok chunks ∧
        ∀ file ∈ (projectAt root entry).analysis.scan.scanned, ∀ body,
          (projectAt root entry).read file = some body → ∀ i : Import, i.Within body →
          i.NamesDevice → ∃ text ∈ lines, i.statement.text = .ok text := by
  constructor
  · intro path hpath hentry
    have hscanned : path ∉ (projectAt root entry).analysis.scan.scanned :=
      not_mem_scanned_device (fun name hname => moduleName_unique hroot hname hpath) hentry
    refine ⟨hscanned, ?_⟩
    intro p hp hfile
    obtain ⟨⟨hmem, -⟩, -⟩ := Project.mem_pieces.mp (Project.mem_pieces_of_mem_written hp)
    exact hscanned (hfile ▸ hmem)
  · intro result h
    obtain ⟨chunks, hchunks, htext⟩ := Project.text_combine h
    refine ⟨(projectAt root entry).importLines, chunks, htext, hchunks, ?_⟩
    intro file hfile body hread i hwithin hdevice
    obtain ⟨text, hleaves⟩ := hdevice.leaves (moduleMap (projectAt root entry).files) file
    refine ⟨text, ?_, hleaves.text_statement⟩
    exact Project.mem_importLines.mpr ⟨file, hfile, body, hread, i, hwithin, hleaves⟩

/-- A project directory with a copy of the device library. -/
def kitTree : Node :=
  .dir [("work", .dir [
    ("arm.py", .plain (.text "import vex.motor\nheight = 1\n")),
    ("main.py", .plain (.text "from vex import *\nimport arm\n")),
    ("vex", .dir [("__init__.py", .plain (.text "limit = 1\n"))])])]

theorem wellFormed_kitTree : kitTree.WellFormed := by
  have hnames : ∀ name ∈ ["arm.py", "main.py", "vex"], IsName name := by decide
  have hnodup : ["arm.py", "main.py", "vex"].Nodup := by decide
  have hlibrary : (Node.dir [("__init__.py", .plain (.text "limit = 1\n"))]).WellFormed :=
    .singleton (by decide) (.file _ _)
  refine .singleton (by decide) (.dir hnames hnodup ?_)
  exact forall_mem_cons.mpr ⟨.file _ _,
    forall_mem_cons.mpr ⟨.file _ _, forall_mem_singleton.mpr hlibrary⟩⟩

theorem combine_kitTree :
    (projectAt kitTree ["work", "main.py"]).combine.toOption.isSome ∧
      (moduleMap (projectAt kitTree ["work", "main.py"]).files).get? "vex"
        = some "/work/vex/__init__.py" ∧
      (projectAt kitTree ["work", "main.py"]).analysis.scan.scanned
        = ["/work/main.py", "/work/arm.py"] ∧
      ((projectAt kitTree ["work", "main.py"]).read "/work/arm.py").map importsOf
        = some [.modules [⟨"vex.motor", none⟩]] ∧
      (projectAt kitTree ["work", "main.py"]).entry = "/work/main.py" := by
  decide +kernel

/-- The copy of the library is not scanned, and the import of a module of it, in a file that the
entry file leads to, is a line of the header. -/
theorem kit_library_stays_outside :
    "/work/vex/__init__.py" ∉ (projectAt kitTree ["work", "main.py"]).analysis.scan.scanned ∧
      (∀ p ∈ (projectAt kitTree ["work", "main.py"]).written, p.file ≠ "/work/vex/__init__.py") ∧
      ∃ result lines chunks, (projectAt kitTree ["work", "main.py"]).combine = .ok result ∧
        result.text = layout lines chunks ∧
        "import vex.motor" ∈ lines := by
  obtain ⟨hcombine, hvex, hscanned, himports, hentry⟩ := combine_kitTree
  obtain ⟨result, hok⟩ := exists_eq_ok_of_isSome hcombine
  obtain ⟨hlibrary, hlines⟩ := device_library_stays_outside wellFormed_kitTree ["work", "main.py"]
  obtain ⟨hnot, hwritten⟩ := hlibrary _ hvex (by rw [hentry]; decide)
  obtain ⟨lines, chunks, htext, -, hdevice⟩ := hlines result hok
  -- from here on the project is not to be computed again
  generalize projectAt kitTree ["work", "main.py"] = project at *
  refine ⟨hnot, hwritten, result, lines, chunks, hok, htext, ?_⟩
  obtain ⟨body, hread, hbody⟩ := Option.map_eq_some_iff.mp himports
  have hwithin : Import.Within (.modules [⟨"vex.motor", none⟩]) body := by
    rw [← mem_importsOf, hbody]
    exact mem_singleton_self _
  obtain ⟨text, hmem, hstatement⟩ := hdevice "/work/arm.py" (by simp [hscanned]) body hread _ hwithin
    ⟨⟨"vex.motor", none⟩, mem_singleton_self _, by decide⟩
  have hline : (Import.modules [⟨"vex.motor", none⟩]).statement.text = .ok "import vex.motor" := by
    decide
  rw [Except.ok.inj (hline.symm.trans hstatement)]
  exact hmem

end RobotKit.Link
