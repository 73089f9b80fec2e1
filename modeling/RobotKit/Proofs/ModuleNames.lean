import RobotKit.Proofs.DeviceLibrary

/-!
# Scripts by their dotted names

Where the names of directories and scripts have no dots, and none below the project directory starts
as the ending of scripts does, the module name of a script is its path with dots
(`moduleName_scriptPath`). A dotted name then stands for two scripts at most, a package and a module
beside it. The package is met later, so the module map leads to it if there is one, and to the
module otherwise (`get?_moduleMap_scriptFiles`).
-/

namespace RobotKit.Link

open List RobotKit.Files

variable {names : List String} {dirs : List String} {package : List String} {location : Location}
  {stem : String} {m : String} {name : List Char}

/-! ## Names joined by dots -/

theorem intercalate_cons_eq_append_flatMap (separator : Char) (first : List Char)
    (rest : List (List Char)) :
    [separator].intercalate (first :: rest) = first ++ rest.flatMap (separator :: ·) := by
  induction rest generalizing first with
  | nil => simp
  | cons next rest ih => simp [ih]

theorem intercalate_concat_append (separator : String) (names : List String) (a b : String) :
    separator.intercalate (names ++ [a ++ b]) = separator.intercalate (names ++ [a]) ++ b := by
  cases names with
  | nil => simp
  | cons name rest =>
    rw [String.intercalate_append_of_ne_nil (by simp) (by simp),
      String.intercalate_append_of_ne_nil (by simp) (by simp), String.intercalate_singleton,
      String.intercalate_singleton, String.append_assoc, String.append_assoc, String.append_assoc]

theorem toList_intercalate_concat (hne : names ≠ []) (last : String) :
    (".".intercalate (names ++ [last])).toList
      = (".".intercalate names).toList ++ '.' :: last.toList := by
  rw [String.intercalate_append_of_ne_nil hne (by simp), String.intercalate_singleton]
  simp

/-- Names joined by dots are split into the names. -/
theorem splitDots_intercalate (hne : names ≠ []) (h : ∀ name ∈ names, '.' ∉ name.toList) :
    splitDots (".".intercalate names) = names := by
  have hparts : ∀ part ∈ names.map String.toList, '.' ∉ part := by simpa using h
  have hsplit : (".".intercalate names).toList.splitOn '.' = names.map String.toList := by
    rw [String.toList_intercalate]
    exact splitOn_intercalate '.' hparts (by simpa using hne)
  rw [splitDots, hsplit, map_map]
  simp [Function.comp_def]

/-- Slashes become dots. -/
theorem map_dot_intercalate (h : ∀ name ∈ names, '/' ∉ name.toList) :
    ("/".intercalate names).toList.map (fun c => if c = '/' then '.' else c)
      = (".".intercalate names).toList := by
  have hname {name : String} (hslash : '/' ∉ name.toList) :
      name.toList.map (fun c => if c = '/' then '.' else c) = name.toList := by
    refine (map_congr_left fun c hc => ?_).trans (map_id _)
    exact if_neg fun (heq : c = '/') => hslash (heq ▸ hc)
  induction names with
  | nil => simp
  | cons name rest ih =>
    obtain ⟨hfirst, hrest⟩ := forall_mem_cons.mp h
    cases rest with
    | nil => rw [String.intercalate_singleton, String.intercalate_singleton, hname hfirst]
    | cons next rest =>
      rw [String.intercalate_cons_cons, String.intercalate_cons_cons]
      simp only [String.toList_append, map_append, ih hrest, hname hfirst]
      rfl

/-! ## Endings -/

theorem dropEndings_append_of_notMem {word rest : List Char} (h : '.' ∉ word) (fuel : Nat) :
    dropEndings (word.length + fuel) (word ++ rest) = word ++ dropEndings fuel rest := by
  induction word with
  | nil => simp
  | cons c word ih =>
    obtain ⟨hc, hword⟩ := not_or.mp (mt mem_cons.mpr h)
    have hfuel : (c :: word).length + fuel = (word.length + fuel) + 1 := by
      rw [length_cons, Nat.add_right_comm]
    have hnot : ¬ scriptEnding.isPrefixOf (c :: (word ++ rest)) = true := by
      simp [scriptEnding, hc]
    rw [hfuel, cons_append, dropEndings, if_neg hnot, ih hword, cons_append]

/-- A name that does not start as the ending of scripts does, whatever name follows. -/
theorem not_isPrefixOf_dot_cons {word : List Char} (h : ¬ "py".toList <+: word)
    (rest : List Char) : ¬ scriptEnding.isPrefixOf ('.' :: (word ++ '.' :: rest)) = true := by
  rw [ isPrefixOf_iff_prefix]
  intro hprefix
  cases word with
  | nil => simp [scriptEnding] at hprefix
  | cons c word =>
    cases word with
    | nil => simp [scriptEnding] at hprefix
    | cons d word => exact h (by simpa [scriptEnding] using hprefix)

/-- What is left of a dot and a name when script endings vanish wherever they stand. -/
def afterDot (name : List Char) : List Char :=
  if "py".toList.isPrefixOf name then name.drop 2 else '.' :: name

theorem afterDot_of_not_prefix (h : ¬ "py".toList <+: name) :
    afterDot name = '.' :: name := by
  rw [afterDot, if_neg (mt isPrefixOf_iff_prefix.mp h)]

theorem dropEndings_dots {names : List (List Char)} (hdots : ∀ name ∈ names, '.' ∉ name)
    {fuel : Nat} (hfuel : (names.flatMap ('.' :: ·) ++ scriptEnding).length ≤ fuel) :
    dropEndings fuel (names.flatMap ('.' :: ·) ++ scriptEnding) = names.flatMap afterDot := by
  induction names generalizing fuel with
  | nil =>
    obtain ⟨more, rfl⟩ := Nat.exists_eq_add_of_le hfuel
    rw [Nat.add_comm]
    cases more <;> rfl
  | cons name rest ih =>
    obtain ⟨hname, hrest⟩ := forall_mem_cons.mp hdots
    have htext : (name :: rest).flatMap ('.' :: ·) ++ scriptEnding
        = '.' :: (name ++ (rest.flatMap ('.' :: ·) ++ scriptEnding)) := by simp
    rw [htext] at hfuel ⊢
    rw [length_cons, length_append] at hfuel
    obtain ⟨fuel, rfl⟩ := Nat.exists_eq_add_of_lt (Nat.lt_of_lt_of_le (Nat.succ_pos _) hfuel)
    rw [Nat.zero_add, dropEndings, flatMap_cons]
    by_cases hend : "py".toList <+: name
    · -- the ending vanishes with the dot, and the rest of the name stays
      obtain ⟨word, rfl⟩ := hend
      have hword : '.' ∉ word := fun h => hname (mem_append_right _ h)
      have hlength : word.length ≤ fuel := by
        rw [length_append] at hfuel
        omega
      obtain ⟨left, rfl⟩ := Nat.exists_eq_add_of_le hlength
      have hafter : afterDot ("py".toList ++ word) = word := by
        rw [afterDot, if_pos ( isPrefixOf_iff_prefix.mpr (prefix_append _ _))]
        rfl
      have hpy : scriptEnding.isPrefixOf
          ('.' :: ("py".toList ++ word ++ (rest.flatMap ('.' :: ·) ++ scriptEnding))) = true := by
        rw [ isPrefixOf_iff_prefix, append_assoc]
        exact prefix_append scriptEnding _
      have hdrop : ("py".toList ++ word ++ (rest.flatMap ('.' :: ·) ++ scriptEnding)).drop 2
          = word ++ (rest.flatMap ('.' :: ·) ++ scriptEnding) := rfl
      rw [if_pos hpy, hdrop, dropEndings_append_of_notMem hword, ih hrest, hafter]
      rw [length_append] at hfuel
      omega
    · -- another name or the ending follows, with its dot
      obtain ⟨after, hafter⟩ : ∃ after, rest.flatMap ('.' :: ·) ++ scriptEnding = '.' :: after := by
        cases rest with
        | nil => exact ⟨_, rfl⟩
        | cons next rest => exact ⟨_, rfl⟩
      have hnot := not_isPrefixOf_dot_cons hend after
      rw [← hafter] at hnot
      obtain ⟨left, rfl⟩ := Nat.exists_eq_add_of_le (show name.length ≤ fuel by omega)
      rw [if_neg hnot, dropEndings_append_of_notMem hname, ih hrest (by omega),
        afterDot_of_not_prefix hend, cons_append]

/-- The names of a path, joined as its module name joins them. -/
def gluedName : List String → List Char
  | [] => []
  | first :: rest => first.toList ++ (rest.map String.toList).flatMap afterDot

theorem toList_intercalate_dots (first : String) (rest : List String) :
    (".".intercalate (first :: rest)).toList
      = first.toList ++ (rest.map String.toList).flatMap ('.' :: ·) := by
  rw [String.toList_intercalate, map_cons]
  exact intercalate_cons_eq_append_flatMap '.' _ _

/-- Only an ending that a name after the first starts with makes a difference. -/
theorem gluedName_eq_intercalate (hends : ∀ name ∈ names.tail, ¬ "py".toList <+: name.toList) :
    gluedName names = (".".intercalate names).toList := by
  cases names with
  | nil => simp [gluedName]
  | cons first rest =>
    rw [gluedName, toList_intercalate_dots]
    congr 1
    refine flatMap_congr fun name hname => afterDot_of_not_prefix ?_
    obtain ⟨text, htext, rfl⟩ := mem_map.mp hname
    exact hends text htext

theorem dropEndings_intercalate (hne : names ≠ []) (hdots : ∀ name ∈ names, '.' ∉ name.toList) :
    dropEndings ((".".intercalate names).toList ++ scriptEnding).length
      ((".".intercalate names).toList ++ scriptEnding) = gluedName names := by
  obtain ⟨first, rest, rfl⟩ := exists_cons_of_ne_nil hne
  obtain ⟨hfirst, hrest⟩ := forall_mem_cons.mp hdots
  rw [toList_intercalate_dots, append_assoc, length_append,
    dropEndings_append_of_notMem hfirst, dropEndings_dots _ (Nat.le_refl _), gluedName]
  simpa using hrest

/-! ## The name of a directory's own script -/

/-- The stem of the script that stands for its directory. -/
def initName : String := "__init__"

theorem dropInit_of_notMem (h : '.' ∉ name) : dropInit name = name := by
  rw [dropInit, if_neg]
  rw [isSuffixOf_iff_suffix]
  intro hsuffix
  exact h (hsuffix.subset (by decide))

theorem eq_of_dot_cons_suffix {start last word : List Char} (hlast : '.' ∉ last)
    (hword : '.' ∉ word) (h : '.' :: word <:+ start ++ '.' :: last) : last = word := by
  obtain ⟨before, heq⟩ := h
  have hsplit := congrArg (splitAtChar '.') heq
  rw [splitAtChar_append, splitAtChar_append, splitAtChar_of_notMem hlast,
    splitAtChar_of_notMem hword] at hsplit
  exact (append_singleton_inj.mp hsplit).2.symm

theorem dropInit_append {start : List Char} {last : String} (h : '.' ∉ last.toList) :
    dropInit (start ++ '.' :: last.toList)
      = if last = initName then start else start ++ '.' :: last.toList := by
  split
  · rename_i hinit
    subst hinit
    have hsuffix : ".__init__".toList.isSuffixOf (start ++ '.' :: initName.toList) = true := by
      rw [isSuffixOf_iff_suffix]
      exact ⟨start, rfl⟩
    rw [dropInit, if_pos hsuffix]
    exact take_left' (by simp [initName])
  · rename_i hinit
    rw [dropInit, if_neg]
    rw [isSuffixOf_iff_suffix]
    intro hsuffix
    have hlast : last.toList = initName.toList :=
      eq_of_dot_cons_suffix h (by decide) hsuffix
    exact hinit (String.toList_inj.mp hlast)

/-! ## Plain names -/

/-- The path of the script with a stem in a directory. -/
def scriptPath (dirs : List String) (stem : String) : Location := dirs ++ [stem ++ ".py"]

/-- Have these names no dots, and does none after the first start as the ending of scripts does? -/
def PlainNames (names : List String) : Prop :=
  (∀ name ∈ names, IsName name ∧ '.' ∉ name.toList)
    ∧ ∀ name ∈ names.tail, ¬ "py".toList <+: name.toList

instance : DecidablePred PlainNames := fun _ => inferInstanceAs (Decidable (_ ∧ _))

theorem PlainNames.last {d stem : String} (h : PlainNames (dirs ++ [d] ++ [stem])) :
    PlainNames [d, stem] := by
  obtain ⟨hnames, hends⟩ := h
  refine ⟨fun name hname => hnames name (by simp_all), fun name hname => hends name ?_⟩
  cases dirs with
  | nil => exact hname
  | cons first dirs => simp_all

/-- The names by which a script is imported. -/
def importNames (dirs : List String) (stem : String) : List String :=
  if stem = initName ∧ dirs ≠ [] then dirs else dirs ++ [stem]

/-- The module name of a script joins its names, and a last `__init__` vanishes. -/
theorem moduleName_eq_gluedName (h : ∀ name ∈ dirs ++ [stem], IsName name ∧ '.' ∉ name.toList) :
    moduleName ("/".intercalate (scriptPath dirs stem))
      = String.ofList (dropInit (gluedName (dirs ++ [stem]))) := by
  have hdotted : ("/".intercalate (scriptPath dirs stem)).toList.map
      (fun c => if c = '/' then '.' else c)
        = (".".intercalate (dirs ++ [stem])).toList ++ scriptEnding := by
    rw [scriptPath, intercalate_concat_append, String.toList_append, map_append,
      map_dot_intercalate fun name hname => (h name hname).1.2.2.2]
    rfl
  rw [moduleName]
  simp only [hdotted,
    dropEndings_intercalate (concat_ne_nil stem dirs) fun name hname => (h name hname).2]

/-- The module name of a script with plain names is its path with dots. -/
theorem moduleName_scriptPath (h : PlainNames (dirs ++ [stem])) :
    moduleName ("/".intercalate (scriptPath dirs stem))
      = ".".intercalate (importNames dirs stem) := by
  have hstem : '.' ∉ stem.toList := (h.1 stem (by simp)).2
  rw [moduleName_eq_gluedName h.1, gluedName_eq_intercalate h.2]
  by_cases hdirs : dirs = []
  · subst hdirs
    rw [importNames, if_neg (by simp), nil_append, String.intercalate_singleton,
      dropInit_of_notMem hstem, String.ofList_toList]
  · rw [toList_intercalate_concat hdirs, dropInit_append hstem, importNames]
    by_cases hinit : stem = initName
    · rw [if_pos hinit, if_pos ⟨hinit, hdirs⟩, String.ofList_toList]
    · rw [if_neg hinit, if_neg (fun h => hinit h.1), ← toList_intercalate_concat hdirs,
        String.ofList_toList]

theorem importNames_ne_nil (dirs : List String) (stem : String) : importNames dirs stem ≠ [] := by
  unfold importNames
  split
  · rename_i h
    exact h.2
  · simp

theorem mem_of_mem_importNames {stem name : String} (h : name ∈ importNames dirs stem) :
    name ∈ dirs ++ [stem] := by
  unfold importNames at h
  split at h
  · exact mem_append_left _ h
  · exact h

/-- Names lead to a package with its own script and to a module beside it. -/
theorem importNames_eq_concat_iff {dirs package : List String} {stem m : String}
    (hm : m ≠ initName) :
    importNames dirs stem = package ++ [m]
      ↔ dirs = package ++ [m] ∧ stem = initName ∨ dirs = package ∧ stem = m := by
  unfold importNames
  split
  · rename_i hinit
    constructor
    · exact fun h => .inl ⟨h, hinit.1⟩
    · rintro (⟨h, -⟩ | ⟨-, h⟩)
      · exact h
      · exact absurd (h.symm.trans hinit.1) hm
  · rename_i hnot
    rw [append_singleton_inj]
    constructor
    · exact .inr
    · rintro (⟨hdirs, hstem⟩ | h)
      · exact absurd ⟨hstem, by simp [hdirs]⟩ hnot
      · exact h

/-- The scripts with a dotted name are the one of a package and the one of a module. -/
theorem moduleName_scriptPath_eq_iff {dirs package : List String} {stem m : String}
    (h : PlainNames (dirs ++ [stem])) (hdots : ∀ name ∈ package ++ [m], '.' ∉ name.toList)
    (hm : m ≠ initName) :
    moduleName ("/".intercalate (scriptPath dirs stem)) = ".".intercalate (package ++ [m])
      ↔ dirs = package ++ [m] ∧ stem = initName ∨ dirs = package ∧ stem = m := by
  rw [moduleName_scriptPath h, ← importNames_eq_concat_iff hm]
  refine ⟨fun heq => ?_, congrArg _⟩
  have hnames : ∀ name ∈ importNames dirs stem, '.' ∉ name.toList :=
    fun name hname => (h.1 name (mem_of_mem_importNames hname)).2
  rw [← splitDots_intercalate (importNames_ne_nil dirs stem) hnames, heq,
    splitDots_intercalate (concat_ne_nil m package) hdots]

/-! ## The scripts of a directory -/

/-- The paths of the scripts below a directory, in the order in which they are met. -/
def scriptsBelow (root : Node) (directory : Location) : List Location :=
  (((below root directory).walk []).map (·.1)).filter
    fun location => isScriptName (location.getLast?.getD "")

theorem scriptFiles_eq_map (root : Node) (directory : Location) :
    scriptFiles root directory = (scriptsBelow root directory).map fun location =>
      ⟨"/".intercalate location, Location.text (directory ++ location)⟩ := by
  rw [scriptFiles_eq, scriptsBelow]
  exact filterMap_filter.symm.trans (congrFun filterMap_eq_map _)

variable {root : Node} {directory : Location}

theorem mem_scriptsBelow (hroot : root.WellFormed) :
    location ∈ scriptsBelow root directory
      ↔ (root.contentAt (directory ++ location)).isSome
        ∧ isScriptName (location.getLast?.getD "") = true := by
  rw [scriptsBelow, mem_filter, mem_map, ← contentAt_below, Option.isSome_iff_exists]
  refine and_congr_left fun _ => ⟨?_, ?_⟩
  · rintro ⟨found, hfound, rfl⟩
    exact ⟨found.2, (Node.mem_walk (wellFormed_below hroot directory)).mp hfound⟩
  · rintro ⟨content, hcontent⟩
    exact ⟨(location, content),
      (Node.mem_walk (wellFormed_below hroot directory)).mpr hcontent, rfl⟩

theorem pairwise_scriptsBelow (hroot : root.WellFormed) (directory : Location) :
    (scriptsBelow root directory).Pairwise fun location other => ¬ MetBefore other location :=
  (pairwise_map.mpr (Node.pairwise_walk (wellFormed_below hroot directory))).filter _

/-- Have all scripts below the directory plain names? -/
def PlainScripts (root : Node) (directory : Location) : Prop :=
  ∀ location ∈ scriptsBelow root directory,
    ∃ dirs stem, location = scriptPath dirs stem ∧ PlainNames (dirs ++ [stem])

/-- The script of a module of a package: that of the package of its name, or else the one with this
stem. -/
def moduleFile? (root : Node) (directory : Location) (package : List String) (m : String) :
    Option Location :=
  [scriptPath (package ++ [m]) initName, scriptPath package m].find?
    (· ∈ scriptsBelow root directory)

theorem moduleFile?_eq_some_iff :
    moduleFile? root directory package m = some location
      ↔ location ∈ scriptsBelow root directory
        ∧ (location = scriptPath (package ++ [m]) initName
          ∨ location = scriptPath package m
            ∧ scriptPath (package ++ [m]) initName ∉ scriptsBelow root directory) := by
  rw [moduleFile?, find?_cons, find?_singleton]
  by_cases hpackage : scriptPath (package ++ [m]) initName ∈ scriptsBelow root directory
  · simp only [hpackage, decide_true, Option.some.injEq]
    constructor
    · rintro rfl
      exact ⟨hpackage, .inl rfl⟩
    · rintro ⟨-, rfl | ⟨-, hnot⟩⟩
      · rfl
      · exact absurd trivial hnot
  · simp only [hpackage, decide_false, Option.ite_none_right_eq_some, decide_eq_true_eq,
      Option.some.injEq, not_false_eq_true, and_true]
    constructor
    · rintro ⟨hmodule, rfl⟩
      exact ⟨hmodule, .inr rfl⟩
    · rintro ⟨hmem, rfl | rfl⟩
      · exact absurd hmem hpackage
      · exact ⟨hmem, rfl⟩

theorem moduleFile?_eq_none_iff :
    moduleFile? root directory package m = none
      ↔ scriptPath (package ++ [m]) initName ∉ scriptsBelow root directory
        ∧ scriptPath package m ∉ scriptsBelow root directory := by
  simp [moduleFile?]

theorem scriptPath_inj {dirs dirs' : List String} {stem stem' : String} :
    scriptPath dirs stem = scriptPath dirs' stem' ↔ dirs = dirs' ∧ stem = stem' := by
  rw [scriptPath, scriptPath, append_singleton_inj, String.append_left_inj]

theorem PlainScripts.plainNames (hplain : PlainScripts root directory)
    (h : scriptPath dirs stem ∈ scriptsBelow root directory) :
    PlainNames (dirs ++ [stem]) := by
  obtain ⟨dirs', stem', heq, hnames⟩ := hplain _ h
  obtain ⟨rfl, rfl⟩ := scriptPath_inj.mp heq
  exact hnames

/-- Of the items with a key, the last one is looked up. -/
theorem exists_of_lookup_reverse_map {α : Type} {R : α → α → Prop} (hR : ∀ a, ¬ R a a)
    {items : List α} (hitems : items.Pairwise fun a b => ¬ R b a) {key value : α → String}
    {k v : String}
    (h : (items.map fun a => (key a, value a)).reverse.lookup k = some v) :
    ∃ a ∈ items, key a = k ∧ value a = v ∧ ∀ b ∈ items, key b = k → ¬ R a b := by
  -- what stands later in the list is looked up first
  induction items with
  | nil => simp at h
  | cons first rest ih =>
    obtain ⟨hfirst, hrest⟩ := pairwise_cons.mp hitems
    rw [map_cons, reverse_cons, lookup_append, Option.or_eq_some_iff] at h
    rcases h with h | ⟨hnone, h⟩
    · obtain ⟨a, ha, hkey, hvalue, hlast⟩ := ih hrest h
      refine ⟨a, mem_cons_of_mem _ ha, hkey, hvalue, forall_mem_cons.mpr ⟨?_, hlast⟩⟩
      exact fun _ => hfirst a ha
    · obtain rfl : k = key first := by
        by_contra hkey
        simp [Table.lookup_cons_of_ne hkey] at h
      have hvalue : value first = v := by simpa using h
      refine ⟨first, mem_cons_self, rfl, hvalue, forall_mem_cons.mpr ⟨?_, ?_⟩⟩
      · exact fun _ => hR first
      · intro b hb hkey
        have hne := lookup_eq_none_iff.mp hnone (key b, value b)
          (mem_reverse.mpr (mem_map.mpr ⟨b, hb, rfl⟩))
        simp [hkey] at hne

theorem moduleMap_scriptFiles (root : Node) (directory : Location) :
    moduleMap (scriptFiles root directory)
      = .ofList ((scriptsBelow root directory).map fun location =>
        (moduleName ("/".intercalate location), Location.text (directory ++ location))) := by
  rw [moduleMap, scriptFiles_eq_map, map_map]
  rfl

/-- The module map leads to the script of the name that is met last. -/
theorem exists_of_get?_moduleMap (hroot : root.WellFormed) {name path : String}
    (h : (moduleMap (scriptFiles root directory)).get? name = some path) :
    ∃ location ∈ scriptsBelow root directory, moduleName ("/".intercalate location) = name ∧
      Location.text (directory ++ location) = path ∧
      ∀ other ∈ scriptsBelow root directory, moduleName ("/".intercalate other) = name →
        ¬ MetBefore location other := by
  rw [moduleMap_scriptFiles, Table.get?_ofList] at h
  exact exists_of_lookup_reverse_map (fun _ h => Nat.lt_irrefl _ h.length_lt)
    (pairwise_scriptsBelow hroot directory) h

theorem moduleName_ne_of_get?_moduleMap {name : String}
    (h : (moduleMap (scriptFiles root directory)).get? name = none)
    (hlocation : location ∈ scriptsBelow root directory) :
    moduleName ("/".intercalate location) ≠ name := by
  rintro rfl
  rw [moduleMap_scriptFiles, Table.get?_ofList] at h
  have hne := lookup_eq_none_iff.mp h _
    (mem_reverse.mpr (mem_map.mpr ⟨location, hlocation, rfl⟩))
  simp at hne

theorem metBefore_package (package : List String) (m : String) :
    MetBefore (scriptPath package m) (scriptPath (package ++ [m]) initName) := by
  induction package with
  | nil => exact .fileFirst _ _ _ _
  | cons name rest ih => exact .inside name ih

/-- A dotted name leads to the package of that name, or else to the module. -/
theorem get?_moduleMap_scriptFiles (hroot : root.WellFormed)
    (hplain : PlainScripts root directory) (hdots : ∀ name ∈ package ++ [m], '.' ∉ name.toList)
    (hm : m ≠ initName) :
    (moduleMap (scriptFiles root directory)).get? (".".intercalate (package ++ [m]))
      = (moduleFile? root directory package m).map
        fun location => Location.text (directory ++ location) := by
  have hname {dirs : List String} {stem : String}
      (hscript : scriptPath dirs stem ∈ scriptsBelow root directory) :=
    moduleName_scriptPath_eq_iff (hplain.plainNames hscript) hdots hm
  cases hget : (moduleMap (scriptFiles root directory)).get? (".".intercalate (package ++ [m])) with
  | none =>
    have hnot {dirs : List String} {stem : String}
        (hnamed : dirs = package ++ [m] ∧ stem = initName ∨ dirs = package ∧ stem = m) :
        scriptPath dirs stem ∉ scriptsBelow root directory := fun hscript =>
      moduleName_ne_of_get?_moduleMap hget hscript ((hname hscript).mpr hnamed)
    rw [moduleFile?_eq_none_iff.mpr ⟨hnot (.inl ⟨rfl, rfl⟩), hnot (.inr ⟨rfl, rfl⟩)⟩]
    rfl
  | some path =>
    obtain ⟨location, hlocation, hkey, rfl, hlast⟩ := exists_of_get?_moduleMap hroot hget
    suffices hfile : moduleFile? root directory package m = some location by
      rw [hfile, Option.map_some]
    obtain ⟨dirs, stem, rfl, -⟩ := hplain location hlocation
    refine moduleFile?_eq_some_iff.mpr ⟨hlocation, ?_⟩
    rcases (hname hlocation).mp hkey with ⟨rfl, rfl⟩ | ⟨rfl, rfl⟩
    · exact .inl rfl
    · -- a package of the same name would have been met later
      refine .inr ⟨rfl, fun hpackage => ?_⟩
      exact hlast _ hpackage ((hname hpackage).mpr (.inl ⟨rfl, rfl⟩)) (metBefore_package _ _)

end RobotKit.Link
