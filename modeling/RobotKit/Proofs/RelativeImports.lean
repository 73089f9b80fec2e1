import RobotKit.Proofs.ModuleNames
import RobotKit.Proofs.Origins

/-!
# Imports of siblings

A relative import asks for a module in the directory of the importing script. The dots before its
name are not looked at: the module is searched at the top of the project first and then below the
last directory of the script alone, with and without the stem of the script
(`sourceFile?_scriptPath`). So the sibling is found by the scripts of the project directory, and
below it only by those one directory deep, unless other modules of the same name come first
(`relative_import_finds_sibling_iff`).
-/

namespace RobotKit.Link

open List RobotKit.Script RobotKit.Files Relation

variable {dirs : List String} {location : Location} {m : String} {sibling : Location}
  {packages : List (List String)} {d stem : String}

variable {root : Node} {directory : Location}

/-! ## Scripts and their texts -/

theorem isName_of_mem_scriptsBelow (hroot : root.WellFormed)
    (h : location ∈ scriptsBelow root directory) : ∀ name ∈ directory ++ location, IsName name := by
  obtain ⟨content, hcontent⟩ := Option.isSome_iff_exists.mp ((mem_scriptsBelow hroot).mp h).1
  obtain ⟨mode, hfind⟩ := Node.contentAt_eq_some_iff.mp hcontent
  exact (hroot.find? hfind).2

theorem text_inj_of_mem_scriptsBelow (hroot : root.WellFormed) {location location' : Location}
    (h : location ∈ scriptsBelow root directory) (h' : location' ∈ scriptsBelow root directory)
    (heq : Location.text (directory ++ location) = Location.text (directory ++ location')) :
    location = location' := by
  have hlocation : directory ++ location = directory ++ location' := by
    rw [← Path.parts_ofString_text (isName_of_mem_scriptsBelow hroot h), heq,
      Path.parts_ofString_text (isName_of_mem_scriptsBelow hroot h')]
  exact append_cancel_left hlocation

/-- A script is the module of that name in one package only. -/
theorem moduleFile?_package_unique {package package' : List String} (hm : m ≠ initName)
    (h : moduleFile? root directory package m = some location)
    (h' : moduleFile? root directory package' m = some location) : package = package' := by
  obtain ⟨-, hlocation⟩ := moduleFile?_eq_some_iff.mp h
  obtain ⟨-, hlocation'⟩ := moduleFile?_eq_some_iff.mp h'
  -- the stem tells the script of a package from that of a module
  rcases hlocation with rfl | ⟨rfl, -⟩
  · rcases hlocation' with heq | ⟨heq, -⟩
    · exact (append_singleton_inj.mp (scriptPath_inj.mp heq).1).1
    · exact absurd (scriptPath_inj.mp heq).2.symm hm
  · rcases hlocation' with heq | ⟨heq, -⟩
    · exact absurd (scriptPath_inj.mp heq).2 hm
    · exact (scriptPath_inj.mp heq).1

/-! ## Where a module is searched -/

section

variable (hnames : ∀ name ∈ directory ++ scriptPath (dirs ++ [d]) stem, IsName name)
  (hplain : PlainNames [d, stem])

include hnames hplain

/-- Of the path of a script only the last directory counts. -/
theorem packageName_scriptPath :
    packageName (Location.text (directory ++ scriptPath (dirs ++ [d]) stem))
      = ".".intercalate (importNames [d] stem) := by
  have hlast : (directory ++ scriptPath (dirs ++ [d]) stem).drop
      ((directory ++ scriptPath (dirs ++ [d]) stem).length - 2) = scriptPath [d] stem := by
    have hsplit : directory ++ scriptPath (dirs ++ [d]) stem
        = (directory ++ dirs) ++ scriptPath [d] stem := by simp [scriptPath]
    rw [hsplit]
    exact drop_left' (by simp [scriptPath, ← Nat.add_assoc])
  rw [packageName, filter_splitSlashes_text hnames, hlast]
  exact moduleName_scriptPath hplain

theorem packagesOf_scriptPath :
    packagesOf (Location.text (directory ++ scriptPath (dirs ++ [d]) stem))
      = (longestFirst (importNames [d] stem)).map (".".intercalate ·) := by
  rw [packagesOf, packageName_scriptPath hnames hplain,
    splitDots_intercalate (importNames_ne_nil _ _)]
  exact fun name hname => (hplain.1 name (mem_of_mem_importNames hname)).2

end

theorem mem_longestFirst {parts package : List String} (h : package ∈ longestFirst parts) :
    package ≠ [] ∧ package <+: parts := by
  obtain ⟨i, hi, rfl⟩ := mem_map.mp h
  have hlength := mem_range.mp hi
  refine ⟨?_, take_prefix _ _⟩
  rw [Ne, take_eq_nil_iff]
  rintro (hzero | rfl)
  · omega
  · exact absurd hlength (Nat.not_lt_zero i)

theorem intercalate_ne_empty {names : List String} (hne : names ≠ [])
    (h : ∀ name ∈ names, IsName name ∧ '.' ∉ name.toList) : ".".intercalate names ≠ "" := by
  intro hempty
  have hsplit := splitDots_intercalate hne fun name hname => (h name hname).2
  rw [hempty] at hsplit
  have hmem : "" ∈ names := hsplit ▸ mem_singleton_self _
  exact (h "" hmem).1.1 rfl

/-- The script that an import finds: that of the first package with a module of this name. -/
def searchModule (root : Node) (directory : Location) (packages : List (List String)) (m : String) :
    Option Location :=
  packages.findSome? fun package => moduleFile? root directory package m

theorem get?_moduleMap_top (hroot : root.WellFormed) (hplain : PlainScripts root directory)
    (hdots : '.' ∉ m.toList) (hm : m ≠ initName) :
    (moduleMap (scriptFiles root directory)).get? m
      = (moduleFile? root directory [] m).map
        fun location => Location.text (directory ++ location) := by
  have hnames : ∀ name ∈ [] ++ [m], '.' ∉ name.toList := by simpa using hdots
  rw [← get?_moduleMap_scriptFiles hroot hplain hnames hm, nil_append,
    String.intercalate_singleton]

/-- A module is searched at the top of the project, and then below the last directory of the
importing script. -/
theorem sourceFile?_scriptPath (hroot : root.WellFormed) (hplain : PlainScripts root directory)
    {d stem m : String} (hm : m ≠ initName) (hdots : '.' ∉ m.toList)
    (hscript : scriptPath (dirs ++ [d]) stem ∈ scriptsBelow root directory) :
    sourceFile? (moduleMap (scriptFiles root directory))
        (Location.text (directory ++ scriptPath (dirs ++ [d]) stem)) (some m)
      = (searchModule root directory ([] :: longestFirst (importNames [d] stem)) m).map
        fun location => Location.text (directory ++ location) := by
  have hlast : PlainNames [d, stem] := (hplain.plainNames hscript).last
  have hget {package : List String} (hpackage : ∀ name ∈ package, '.' ∉ name.toList) :=
    get?_moduleMap_scriptFiles (m := m) hroot hplain
      (forall_mem_append.mpr ⟨hpackage, forall_mem_singleton.mpr hdots⟩) hm
  rw [sourceFile?, Option.bind_some, get?_moduleMap_top hroot hplain hdots hm, searchModule,
    findSome?_cons]
  cases moduleFile? root directory [] m with
  | some location => rfl
  | none =>
    -- the packages that are tried as texts are lists of names joined by dots
    show (packagesOf _).findSome? _ = _
    rw [packagesOf_scriptPath (isName_of_mem_scriptsBelow hroot hscript) hlast, findSome?_map,
      map_findSome?, ← head?_filterMap, ← head?_filterMap]
    refine congrArg List.head? (filterMap_congr fun package hpackage => ?_)
    obtain ⟨hne, hsub⟩ := mem_longestFirst hpackage
    have hnames : ∀ name ∈ package, IsName name ∧ '.' ∉ name.toList :=
      fun name hname => hlast.1 name (mem_of_mem_importNames (hsub.subset hname))
    have hnested := hget fun name hname => (hnames name hname).2
    rw [String.intercalate_append_of_ne_nil hne (by simp), String.intercalate_singleton] at hnested
    simp [intercalate_ne_empty hne hnames, hnested]

/-! ## Which scripts find their siblings -/

/-- The search ends at the sibling if it comes to the package of the sibling, and if no module of
the name was found before. -/
theorem searchModule_cons_eq_some_iff {dirs package : List String} (hm : m ≠ initName)
    (hsibling : moduleFile? root directory dirs m = some sibling) :
    searchModule root directory (package :: packages) m = some sibling
      ↔ package = dirs ∨ moduleFile? root directory package m = none
        ∧ searchModule root directory packages m = some sibling := by
  rw [searchModule, findSome?_cons]
  cases hfile : moduleFile? root directory package m with
  | none =>
    have hne : package ≠ dirs := by
      rintro rfl
      exact absurd (hfile.symm.trans hsibling) (by simp)
    simp [hne, searchModule]
  | some location =>
    simp only [Option.some.injEq, reduceCtorEq, false_and, or_false]
    constructor
    · rintro rfl
      exact moduleFile?_package_unique hm hfile hsibling
    · rintro rfl
      exact Option.some.inj (hfile.symm.trans hsibling)

/-- A search from a script below the project directory. -/
theorem searchModule_scriptPath_iff {d stem m : String} (hm : m ≠ initName)
    (hsibling : moduleFile? root directory (dirs ++ [d]) m = some sibling) :
    searchModule root directory ([] :: longestFirst (importNames [d] stem)) m = some sibling
      ↔ moduleFile? root directory [] m = none ∧
        ((∃ e, dirs ++ [d] = [e] ∧
            (stem = initName ∨ moduleFile? root directory [e, stem] m = none))
          ∨ stem ≠ initName ∧ dirs ++ [d] = [stem, stem]) := by
  have hnil : searchModule root directory [] m = some sibling ↔ False := by simp [searchModule]
  have htop : [] ≠ dirs ++ [d] := by simp
  have hone (P : String → Prop) : (∃ e, dirs ++ [d] = [e] ∧ P e) ↔ P d ∧ [d] = dirs ++ [d] := by
    cases dirs with
    | nil => simp
    | cons first rest => simp
  -- the package with the stem is that of the script only if both directories are named so
  have htwo : [d, stem] = dirs ++ [d] ↔ dirs ++ [d] = [stem, stem] := by
    have hpair (a : String) : [a, stem] = [a] ++ [stem] := rfl
    rw [hpair, hpair, append_singleton_inj, append_singleton_inj]
    constructor
    · rintro ⟨rfl, rfl⟩
      exact ⟨rfl, rfl⟩
    · rintro ⟨rfl, rfl⟩
      exact ⟨rfl, rfl⟩
  by_cases hinit : stem = initName
  · have hpackages : longestFirst (importNames [d] stem) = [[d]] := by
      rw [importNames, if_pos ⟨hinit, by simp⟩]
      rfl
    rw [hpackages, searchModule_cons_eq_some_iff hm hsibling,
      searchModule_cons_eq_some_iff hm hsibling, hnil, hone]
    simp [htop, hinit]
  · have hpackages : longestFirst (importNames [d] stem) = [[d, stem], [d]] := by
      rw [importNames, if_neg (fun h => hinit h.1)]
      rfl
    rw [hpackages, searchModule_cons_eq_some_iff hm hsibling,
      searchModule_cons_eq_some_iff hm hsibling, searchModule_cons_eq_some_iff hm hsibling, hnil,
      hone, htwo]
    simp only [htop, hinit, false_or, not_false_eq_true, true_and, and_false, or_false, ne_eq]
    exact and_congr_right fun _ => or_comm

theorem PlainScripts.dot_notMem (hplain : PlainScripts root directory) {package : List String}
    (h : moduleFile? root directory package m = some location) : '.' ∉ m.toList := by
  obtain ⟨hscript, rfl | ⟨rfl, -⟩⟩ := moduleFile?_eq_some_iff.mp h
  · exact ((hplain.plainNames hscript).1 m (by simp)).2
  · exact ((hplain.plainNames hscript).1 m (by simp)).2

theorem mem_scriptsBelow_of_searchModule
    (h : searchModule root directory packages m = some location) :
    location ∈ scriptsBelow root directory := by
  obtain ⟨package, -, hfile⟩ := exists_of_findSome?_eq_some h
  exact (moduleFile?_eq_some_iff.mp hfile).1

/-- Where an import of a module with a sibling leads, in terms of the names of directories. -/
theorem sourceFile?_eq_sibling_iff (hroot : root.WellFormed)
    (hplain : PlainScripts root directory) {stem m : String}
    (hscript : scriptPath dirs stem ∈ scriptsBelow root directory) (hm : m ≠ initName)
    (hsibling : moduleFile? root directory dirs m = some sibling) :
    sourceFile? (moduleMap (scriptFiles root directory))
        (Location.text (directory ++ scriptPath dirs stem)) (some m)
          = some (Location.text (directory ++ sibling))
      ↔ dirs = [] ∨ moduleFile? root directory [] m = none ∧
        ((∃ d, dirs = [d] ∧ (stem = initName ∨ moduleFile? root directory [d, stem] m = none))
          ∨ stem ≠ initName ∧ dirs = [stem, stem]) := by
  have hdots := hplain.dot_notMem hsibling
  -- at the top the bare name of the module is found at once
  rcases eq_nil_or_concat dirs with rfl | ⟨dirs, d, rfl⟩
  · refine iff_of_true (sourceFile?_eq_some_iff.mpr (.direct ?_)) (.inl rfl)
    rw [get?_moduleMap_top hroot hplain hdots hm, hsibling, Option.map_some]
  · rw [concat_eq_append] at hscript hsibling ⊢
    have hsearch : (searchModule root directory ([] :: longestFirst (importNames [d] stem)) m).map
          (fun location => Location.text (directory ++ location))
            = some (Location.text (directory ++ sibling))
        ↔ searchModule root directory ([] :: longestFirst (importNames [d] stem)) m
            = some sibling := by
      rw [Option.map_eq_some_iff]
      constructor
      · rintro ⟨location, hfound, htext⟩
        rw [hfound, text_inj_of_mem_scriptsBelow hroot (mem_scriptsBelow_of_searchModule hfound)
          (moduleFile?_eq_some_iff.mp hsibling).1 htext]
      · exact fun hfound => ⟨sibling, hfound, rfl⟩
    rw [sourceFile?_scriptPath hroot hplain hm hdots hscript, hsearch,
      searchModule_scriptPath_iff hm hsibling]
    exact (or_iff_right (by simp)).symm

/-- A relative import of a module that exists beside the importing script leads to it exactly if the
script lies in the project directory itself or one directory below it. In the second case no module
of the name may stand at the top of the project or below a directory with the name of the script.
Deeper down, only a script named as its directory and the one above finds a sibling. Where the
sibling is found, it is scanned, and the names are taken from it. -/
theorem relative_import_finds_sibling_iff (entry : Location) (hroot : root.WellFormed)
    (hplain : PlainScripts root entry.dropLast) {dirs : List String} {stem m file : String}
    {sibling : Location} {aliases : List Alias} {body : List Stmt}
    (hscript : scriptPath dirs stem ∈ scriptsBelow root entry.dropLast)
    (hfile : file = Location.text (entry.dropLast ++ scriptPath dirs stem))
    (hscanned : file ∈ (projectAt root entry).analysis.scan.scanned)
    (hread : (projectAt root entry).read file = some body)
    (hwithin : (Import.names (some m) aliases 1).Within body) (hm : m ≠ initName)
    (hsibling : moduleFile? root entry.dropLast dirs m = some sibling) :
    ((Import.names (some m) aliases 1).LeadsTo (moduleMap (projectAt root entry).files) file
        (Location.text (entry.dropLast ++ sibling))
      ↔ isDeviceModule m = false ∧ (dirs = [] ∨ moduleFile? root entry.dropLast [] m = none ∧
        ((∃ d, dirs = [d] ∧ (stem = initName ∨ moduleFile? root entry.dropLast [d, stem] m = none))
          ∨ stem ≠ initName ∧ dirs = [stem, stem]))) ∧
    ((Import.names (some m) aliases 1).LeadsTo (moduleMap (projectAt root entry).files) file
        (Location.text (entry.dropLast ++ sibling)) →
      Location.text (entry.dropLast ++ sibling) ∈ (projectAt root entry).analysis.scan.scanned ∧
      ∀ a ∈ aliases, ⟨Location.text (entry.dropLast ++ sibling), a.name⟩
        ∈ (projectAt root entry).taken file) := by
  refine ⟨?_, fun hleads => ⟨?_, fun a ha => ?_⟩⟩
  · rw [Import.leadsTo_names_iff, hfile]
    exact and_congr_right fun _ => sourceFile?_eq_sibling_iff hroot hplain hscript hm hsibling
  · have htracks := tracks_scanProject (projectAt root entry).read
      (moduleMap (projectAt root entry).files) (projectAt root entry).entry
    exact htracks.mem_scanned_iff.mpr
      ((htracks.mem_scanned_iff.mp hscanned).tail ⟨body, hread, _, hwithin, hleads⟩)
  · refine mem_flatMap.mpr ⟨_, ?_, Import.mem_takes.mpr ⟨_, _, _, rfl, hleads, a, ha, rfl⟩⟩
    rw [hread]
    exact mem_importsOf.mpr hwithin

/-- A project directory with scripts in a directory and in one below it, both with relative
imports. -/
def robotTree : Node :=
  .dir [("work", .dir [
    ("main.py", .plain (.text
      "from robot.hand import grip\nfrom robot.arm import lift\n\nprint(grip(), lift())\n")),
    ("robot", .dir [
      ("arm", .dir [
        ("__init__.py", .plain (.text
          "from .motor import power\n\ndef lift():\n    return power\n")),
        ("motor.py", .plain (.text "power = 5\n"))]),
      ("claw.py", .plain (.text "force = 2\n")),
      ("hand.py", .plain (.text
        "from .claw import force\n\ndef grip():\n    return force\n"))])])]

/-- The project in that directory. -/
@[irreducible] def robotProject : Project := projectAt robotTree ["work", "main.py"]

theorem wellFormed_robotTree : robotTree.WellFormed := by
  have harm : (Node.dir [
      ("__init__.py", .plain (.text "from .motor import power\n\ndef lift():\n    return power\n")),
      ("motor.py", .plain (.text "power = 5\n"))]).WellFormed := by
    refine .dir (by decide) (by decide) ?_
    exact forall_mem_cons.mpr ⟨.file _ _, forall_mem_singleton.mpr (.file _ _)⟩
  refine .singleton (by decide) (.dir (by decide) (by decide) ?_)
  refine forall_mem_cons.mpr ⟨.file _ _, forall_mem_singleton.mpr ?_⟩
  refine .dir (by decide) (by decide) ?_
  exact forall_mem_cons.mpr ⟨harm,
    forall_mem_cons.mpr ⟨.file _ _, forall_mem_singleton.mpr (.file _ _)⟩⟩

/-- The directories and stems of the scripts in that directory. -/
def robotScripts : List (List String × String) :=
  [([], "main"), (["robot"], "claw"), (["robot"], "hand"), (["robot", "arm"], initName),
    (["robot", "arm"], "motor")]

theorem scriptsBelow_robotTree :
    scriptsBelow robotTree ["work"] = robotScripts.map fun s => scriptPath s.1 s.2 := by
  decide +kernel

theorem plainScripts_robotTree : PlainScripts robotTree ["work"] := by
  have hnames : ∀ s ∈ robotScripts, PlainNames (s.1 ++ [s.2]) := by decide
  intro location hlocation
  rw [scriptsBelow_robotTree] at hlocation
  obtain ⟨s, hs, rfl⟩ := mem_map.mp hlocation
  exact ⟨s.1, s.2, rfl, hnames s hs⟩

theorem combine_robotProject :
    robotProject.combine.toOption.isSome ∧
      robotProject.analysis.scan.scanned = ["/work/main.py", "/work/robot/hand.py",
        "/work/robot/arm/__init__.py", "/work/robot/claw.py"] ∧
      (robotProject.read "/work/robot/hand.py").map importsOf
        = some [.names (some "claw") [⟨"force", none⟩] 1] ∧
      (robotProject.read "/work/robot/arm/__init__.py").map importsOf
        = some [.names (some "motor") [⟨"power", none⟩] 1] ∧
      sourceFile? (moduleMap robotProject.files) "/work/robot/arm/__init__.py" (some "motor")
        = none := by
  decide +kernel

theorem moduleFile?_robotTree :
    moduleFile? robotTree ["work"] ["robot"] "claw" = some (scriptPath ["robot"] "claw") ∧
      moduleFile? robotTree ["work"] ["robot", "arm"] "motor"
        = some (scriptPath ["robot", "arm"] "motor") ∧
      moduleFile? robotTree ["work"] [] "claw" = none ∧
      moduleFile? robotTree ["work"] ["robot", "hand"] "claw" = none := by
  unfold moduleFile?
  rw [scriptsBelow_robotTree]
  decide

/-- Two directories deep, a package does not find the module beside it, and the project is combined
without that module. -/
theorem robot_arm_misses_motor :
    robotProject.combine.toOption.isSome ∧
      "/work/robot/arm/__init__.py" ∈ robotProject.analysis.scan.scanned ∧
      (∃ body, robotProject.read "/work/robot/arm/__init__.py" = some body ∧
        (Import.names (some "motor") [⟨"power", none⟩] 1).Within body) ∧
      moduleFile? robotTree ["work"] ["robot", "arm"] "motor"
        = some ["robot", "arm", "motor.py"] ∧
      (∀ path, ¬ (Import.names (some "motor") [⟨"power", none⟩] 1).LeadsTo
        (moduleMap robotProject.files) "/work/robot/arm/__init__.py" path) ∧
      "/work/robot/arm/motor.py" ∉ robotProject.analysis.scan.scanned := by
  obtain ⟨hcombine, hscanned, -, himports, hnone⟩ := combine_robotProject
  obtain ⟨body, hread, hbody⟩ := Option.map_eq_some_iff.mp himports
  refine ⟨hcombine, by simp [hscanned], ⟨body, hread, ?_⟩, moduleFile?_robotTree.2.1, ?_,
    by simp [hscanned]⟩
  · rw [← mem_importsOf, hbody]
    exact mem_singleton_self _
  · intro path hleads
    rw [Import.leadsTo_names_iff, hnone] at hleads
    exact absurd hleads.2 (by simp)

/-- One directory deep, a script finds the module beside it. -/
theorem robot_hand_finds_claw :
    (Import.names (some "claw") [⟨"force", none⟩] 1).LeadsTo (moduleMap robotProject.files)
        "/work/robot/hand.py" "/work/robot/claw.py" ∧
      "/work/robot/claw.py" ∈ robotProject.analysis.scan.scanned ∧
      ⟨"/work/robot/claw.py", "force"⟩ ∈ robotProject.taken "/work/robot/hand.py" := by
  obtain ⟨-, hscanned, himports, -⟩ := combine_robotProject
  obtain ⟨body, hread, hbody⟩ := Option.map_eq_some_iff.mp himports
  have hhand : "/work/robot/hand.py" ∈ robotProject.analysis.scan.scanned := by simp [hscanned]
  have hwithin : (Import.names (some "claw") [⟨"force", none⟩] 1).Within body := by
    rw [← mem_importsOf, hbody]
    exact mem_singleton_self _
  have hscript : scriptPath ["robot"] "hand" ∈ scriptsBelow robotTree ["work"] := by
    simp [scriptsBelow_robotTree, robotScripts]
  obtain ⟨hclaw, -, htop, hbelow⟩ := moduleFile?_robotTree
  rw [robotProject] at hhand hread ⊢
  obtain ⟨hiff, hfound⟩ := relative_import_finds_sibling_iff ["work", "main.py"]
    wellFormed_robotTree plainScripts_robotTree hscript rfl hhand hread hwithin (by decide) hclaw
  have hleads := hiff.mpr ⟨by decide, .inr ⟨htop, .inl ⟨"robot", rfl, .inr hbelow⟩⟩⟩
  obtain ⟨hmem, htaken⟩ := hfound hleads
  exact ⟨hleads, hmem, htaken _ (mem_singleton_self _)⟩

end RobotKit.Link
