import RobotKit.Proofs.RelativeImports

/-!
# The module map as a namespace

A script is imported by its dotted name, the names of its directories and its stem with dots between
them; the script `__init__` stands for its directory, and a package comes before a module of the
same name. The module map is this namespace, no name more and no name less, exactly if no name
below the top of the project starts as the ending of scripts does (`moduleMap_is_namespace_iff`):
the ending vanishes wherever it stands in the dotted name, together with the dot before it.
-/

namespace RobotKit.Link

open List RobotKit.Files

variable {root : Node} {directory : Location} {dirs : List String} {stem : String}

/-- Have the scripts below the directory proper stems, and their names no dots? -/
def DotlessScripts (root : Node) (directory : Location) : Prop :=
  ∀ location ∈ scriptsBelow root directory, ∃ dirs stem, location = scriptPath dirs stem ∧
    ∀ name ∈ dirs ++ [stem], IsName name ∧ '.' ∉ name.toList

/-- Is the script the one that its dotted name stands for? A module gives way to the package of its
name. -/
def Prevails (root : Node) (directory : Location) (dirs : List String) (stem : String) : Prop :=
  scriptPath dirs stem ∈ scriptsBelow root directory ∧
    (stem = initName ∧ dirs ≠ []
      ∨ scriptPath (dirs ++ [stem]) initName ∉ scriptsBelow root directory)

/-- Does the name stand for the script at the path? The script `__init__` at the top of the project
has its stem as its name. -/
def InNamespace (root : Node) (directory : Location) (name path : String) : Prop :=
  ∃ dirs stem, Prevails root directory dirs stem ∧ name = ".".intercalate (importNames dirs stem) ∧
    path = Location.text (directory ++ scriptPath dirs stem)

theorem DotlessScripts.names (h : DotlessScripts root directory)
    (hscript : scriptPath dirs stem ∈ scriptsBelow root directory) :
    ∀ name ∈ dirs ++ [stem], IsName name ∧ '.' ∉ name.toList := by
  obtain ⟨dirs', stem', heq, hnames⟩ := h _ hscript
  obtain ⟨rfl, rfl⟩ := scriptPath_inj.mp heq
  exact hnames

/-! ## Names that lose an ending -/

theorem length_afterDot_le (name : List Char) : (afterDot name).length ≤ name.length + 1 := by
  unfold afterDot
  split
  · simp only [length_drop]
    omega
  · simp

theorem length_afterDot_lt {name : List Char} (h : "py".toList <+: name) :
    (afterDot name).length < name.length + 1 := by
  rw [afterDot, if_pos ( isPrefixOf_iff_prefix.mpr h), length_drop]
  omega

theorem length_flatMap_afterDot_le (names : List (List Char)) :
    (names.flatMap afterDot).length ≤ (names.flatMap ('.' :: ·)).length := by
  induction names with
  | nil => simp
  | cons name rest ih =>
    have := length_afterDot_le name
    simp only [flatMap_cons, length_append, length_cons]
    omega

theorem length_flatMap_afterDot_lt {names : List (List Char)} {name : List Char}
    (hname : name ∈ names) (hend : "py".toList <+: name) :
    (names.flatMap afterDot).length < (names.flatMap ('.' :: ·)).length := by
  induction names with
  | nil => exact absurd hname not_mem_nil
  | cons first rest ih =>
    simp only [flatMap_cons, length_append, length_cons]
    rcases mem_cons.mp hname with rfl | hrest
    · have := length_afterDot_lt hend
      have := length_flatMap_afterDot_le rest
      omega
    · have := length_afterDot_le first
      have := ih hrest
      omega

/-- A name below the top that starts like the ending of scripts makes the joined names shorter. -/
theorem length_gluedName_lt {names : List String} {name : String} (hname : name ∈ names.tail)
    (hend : "py".toList <+: name.toList) :
    (gluedName names).length < (".".intercalate names).toList.length := by
  cases names with
  | nil => exact absurd hname not_mem_nil
  | cons first rest =>
    rw [tail_cons] at hname
    have hlt := length_flatMap_afterDot_lt (mem_map_of_mem hname) hend
    rw [gluedName, toList_intercalate_dots, length_append, length_append]
    omega

theorem length_dropInit_le (name : List Char) : (dropInit name).length ≤ name.length := by
  unfold dropInit
  split
  · exact length_take_le' _ _
  · exact Nat.le_refl _

theorem gluedName_concat {first : String} (rest : List String) {last : String}
    (h : ¬ "py".toList <+: last.toList) :
    gluedName (first :: rest ++ [last]) = gluedName (first :: rest) ++ '.' :: last.toList := by
  simp [gluedName, afterDot_of_not_prefix h]

/-- A script goes by its dotted name exactly if no name below the top starts as the ending of
scripts does. -/
theorem moduleName_eq_dotted_iff (h : ∀ name ∈ dirs ++ [stem], IsName name ∧ '.' ∉ name.toList) :
    moduleName ("/".intercalate (scriptPath dirs stem)) = ".".intercalate (importNames dirs stem)
      ↔ ∀ name ∈ (dirs ++ [stem]).tail, ¬ "py".toList <+: name.toList := by
  constructor
  · intro heq name hname hend
    have hlt := length_gluedName_lt hname hend
    have hlength := congrArg (·.toList.length) heq
    simp only [moduleName_eq_gluedName h, String.toList_ofList] at hlength
    by_cases hinit : stem = initName ∧ dirs ≠ []
    · -- the last name vanishes on both sides, and what is left has different lengths
      obtain ⟨rfl, hdirs⟩ := hinit
      obtain ⟨first, rest, rfl⟩ := exists_cons_of_ne_nil hdirs
      rw [gluedName_concat rest (by decide)] at hlt hlength
      rw [dropInit_append (by decide), if_pos rfl, importNames, if_pos ⟨rfl, hdirs⟩] at hlength
      rw [toList_intercalate_concat hdirs, length_append, length_append] at hlt
      omega
    · rw [importNames, if_neg hinit] at hlength
      have := length_dropInit_le (gluedName (dirs ++ [stem]))
      omega
  · exact fun hends => moduleName_scriptPath ⟨h, hends⟩

/-! ## The namespace -/

/-- Two scripts with one dotted name are the same, or one is the package of the other. -/
theorem importNames_eq_cases {dirs' : List String} {stem' : String}
    (h : importNames dirs stem = importNames dirs' stem') :
    dirs = dirs' ∧ stem = stem' ∨ dirs = dirs' ++ [stem'] ∧ stem = initName
      ∨ dirs' = dirs ++ [stem] ∧ stem' = initName := by
  unfold importNames at h
  split at h <;> split at h
  · rename_i hinit hinit'
    exact .inl ⟨h, hinit.1.trans hinit'.1.symm⟩
  · rename_i hinit _
    exact .inr (.inl ⟨h, hinit.1⟩)
  · rename_i _ hinit'
    exact .inr (.inr ⟨h.symm, hinit'.1⟩)
  · exact .inl (append_singleton_inj.mp h)

theorem importNames_package (package : List String) (m : String) :
    importNames (package ++ [m]) initName = package ++ [m] :=
  if_pos ⟨rfl, concat_ne_nil m package⟩

section

variable (hroot : root.WellFormed) (hplain : PlainScripts root directory)
include hroot hplain

/-- What the module map holds is in the namespace: of two scripts with one name the package is met
later. -/
theorem inNamespace_of_get?_moduleMap {name path : String}
    (h : (moduleMap (scriptFiles root directory)).get? name = some path) :
    InNamespace root directory name path := by
  obtain ⟨location, hlocation, hkey, rfl, hlast⟩ := exists_of_get?_moduleMap hroot h
  obtain ⟨dirs, stem, rfl, hnames⟩ := hplain location hlocation
  rw [moduleName_scriptPath hnames] at hkey
  refine ⟨dirs, stem, ⟨hlocation, ?_⟩, hkey.symm, rfl⟩
  by_cases hinit : stem = initName ∧ dirs ≠ []
  · exact .inl hinit
  · refine .inr fun hpackage => hlast _ hpackage ?_ (metBefore_package dirs stem)
    rw [moduleName_scriptPath (hplain.plainNames hpackage), importNames_package, ← hkey,
      importNames, if_neg hinit]

theorem get?_moduleMap_of_inNamespace {name path : String}
    (h : InNamespace root directory name path) :
    (moduleMap (scriptFiles root directory)).get? name = some path := by
  obtain ⟨dirs, stem, ⟨hscript, hprevails⟩, rfl, rfl⟩ := h
  have hnames := hplain.plainNames hscript
  cases hget : (moduleMap (scriptFiles root directory)).get?
      (".".intercalate (importNames dirs stem)) with
  | none =>
    exact absurd (moduleName_scriptPath hnames) (moduleName_ne_of_get?_moduleMap hget hscript)
  | some path =>
    obtain ⟨dirs', stem', ⟨hscript', hprevails'⟩, hname, rfl⟩ :=
      inNamespace_of_get?_moduleMap hroot hplain hget
    have hdots {dirs : List String} {stem : String} (hnames : PlainNames (dirs ++ [stem])) :
        splitDots (".".intercalate (importNames dirs stem)) = importNames dirs stem :=
      splitDots_intercalate (importNames_ne_nil dirs stem)
        fun name hname => (hnames.1 name (mem_of_mem_importNames hname)).2
    have hsame : importNames dirs stem = importNames dirs' stem' := by
      rw [← hdots hnames, hname, hdots (hplain.plainNames hscript')]
    -- a module and the package of its name do not both prevail
    rcases importNames_eq_cases hsame with ⟨rfl, rfl⟩ | ⟨rfl, rfl⟩ | ⟨rfl, rfl⟩
    · rfl
    · rcases hprevails' with ⟨rfl, hdirs'⟩ | hnot
      · rw [importNames_package, importNames, if_pos ⟨rfl, hdirs'⟩] at hsame
        simp at hsame
      · exact absurd hscript hnot
    · rcases hprevails with ⟨rfl, hdirs⟩ | hnot
      · rw [importNames_package, importNames, if_pos ⟨rfl, hdirs⟩] at hsame
        simp at hsame
      · exact absurd hscript' hnot

end

/-- If a script goes by another name than its dotted one, so does the script that prevails. -/
theorem exists_prevails (hscript : scriptPath dirs stem ∈ scriptsBelow root directory)
    {name : String} (hname : name ∈ (dirs ++ [stem]).tail) :
    ∃ dirs' stem', Prevails root directory dirs' stem' ∧ name ∈ (dirs' ++ [stem']).tail := by
  by_cases hprevails : Prevails root directory dirs stem
  · exact ⟨dirs, stem, hprevails, hname⟩
  · have hpackage : scriptPath (dirs ++ [stem]) initName ∈ scriptsBelow root directory := by
      by_contra hnot
      exact hprevails ⟨hscript, .inr hnot⟩
    refine ⟨dirs ++ [stem], initName, ⟨hpackage, .inl ⟨rfl, concat_ne_nil stem dirs⟩⟩, ?_⟩
    rw [tail_append_of_ne_nil (concat_ne_nil stem dirs)]
    exact mem_append_left _ hname

/-- Where the names of all scripts have no dots, as identifiers have none, a script goes by its
dotted name exactly if no name below the top starts as the ending of scripts does. The module map is
the namespace of the scripts, with packages before modules and without other names, exactly if this
holds of all scripts. -/
theorem moduleMap_is_namespace_iff (hroot : root.WellFormed)
    (hdotless : DotlessScripts root directory) :
    (∀ dirs stem, scriptPath dirs stem ∈ scriptsBelow root directory →
        (moduleName ("/".intercalate (scriptPath dirs stem))
            = ".".intercalate (importNames dirs stem)
          ↔ ∀ name ∈ (dirs ++ [stem]).tail, ¬ "py".toList <+: name.toList)) ∧
      ((∀ name path, (moduleMap (scriptFiles root directory)).get? name = some path
          ↔ InNamespace root directory name path)
        ↔ ∀ dirs stem, scriptPath dirs stem ∈ scriptsBelow root directory →
          ∀ name ∈ (dirs ++ [stem]).tail, ¬ "py".toList <+: name.toList) := by
  refine ⟨fun dirs stem hscript => moduleName_eq_dotted_iff (hdotless.names hscript), ?_, ?_⟩
  · intro hmap dirs stem hscript name hname hend
    obtain ⟨dirs, stem, hprevails, hname⟩ := exists_prevails hscript hname
    -- the map leads from the dotted name to this script, so that is the name it goes by
    have hget := (hmap _ _).mpr ⟨dirs, stem, hprevails, rfl, rfl⟩
    obtain ⟨location, hlocation, hkey, htext, -⟩ := exists_of_get?_moduleMap hroot hget
    obtain rfl := text_inj_of_mem_scriptsBelow hroot hlocation hprevails.1 htext
    exact (moduleName_eq_dotted_iff (hdotless.names hlocation)).mp hkey name hname hend
  · intro hends
    have hplain : PlainScripts root directory := by
      intro location hlocation
      obtain ⟨dirs, stem, rfl, hnames⟩ := hdotless location hlocation
      exact ⟨dirs, stem, rfl, hnames, hends dirs stem hlocation⟩
    exact fun name path => ⟨inNamespace_of_get?_moduleMap hroot hplain,
      get?_moduleMap_of_inNamespace hroot hplain⟩

/-- In a directory with plain names the module map is the namespace, and the package of the arm is
found by its dotted name. -/
theorem robotTree_is_namespace :
    robotTree.WellFormed ∧ DotlessScripts robotTree ["work"] ∧
      (∀ name path, (moduleMap (scriptFiles robotTree ["work"])).get? name = some path
        ↔ InNamespace robotTree ["work"] name path) ∧
      (moduleMap (scriptFiles robotTree ["work"])).get? "robot.arm"
        = some "/work/robot/arm/__init__.py" := by
  have hdotless : DotlessScripts robotTree ["work"] := by
    intro location hlocation
    obtain ⟨dirs, stem, rfl, hnames⟩ := plainScripts_robotTree location hlocation
    exact ⟨dirs, stem, rfl, hnames.1⟩
  have hmap := (moduleMap_is_namespace_iff wellFormed_robotTree hdotless).2.mpr
    fun dirs stem hscript => (plainScripts_robotTree.plainNames hscript).2
  have hprevails : Prevails robotTree ["work"] ["robot", "arm"] initName := by
    unfold Prevails
    rw [scriptsBelow_robotTree]
    decide
  exact ⟨wellFormed_robotTree, hdotless, hmap,
    (hmap _ _).mpr ⟨["robot", "arm"], initName, hprevails, by decide, by decide⟩⟩

/-- A directory with a script whose name starts as the ending of scripts does. -/
def pyramidTree : Node :=
  .dir [("work", .dir [("arm", .dir [("pyramid.py", .plain (.text ""))])])]

/-- The pyramid is in the namespace of its project, but the module map has not its dotted name, and
has another one in its place. -/
theorem pyramidTree_is_not_namespace :
    pyramidTree.WellFormed ∧ DotlessScripts pyramidTree ["work"] ∧
      InNamespace pyramidTree ["work"] "arm.pyramid" "/work/arm/pyramid.py" ∧
      (moduleMap (scriptFiles pyramidTree ["work"])).entries
        = [("armramid", "/work/arm/pyramid.py")] := by
  have hscripts : scriptsBelow pyramidTree ["work"] = [scriptPath ["arm"] "pyramid"] := by
    decide +kernel
  have hnames : ∀ name ∈ ["arm", "pyramid"], IsName name ∧ '.' ∉ name.toList := by decide
  refine ⟨?_, ?_, ⟨["arm"], "pyramid", ?_, by decide, by decide⟩, by decide +kernel⟩
  · exact .singleton (by decide) (.singleton (by decide) (.singleton (by decide) (.file _ _)))
  · intro location hlocation
    rw [hscripts, mem_singleton] at hlocation
    exact ⟨["arm"], "pyramid", hlocation, hnames⟩
  · unfold Prevails
    rw [hscripts]
    decide

end RobotKit.Link
