import RobotKit.Proofs.ImportLines
import RobotKit.Proofs.Path
import RobotKit.Proofs.Reexports

/-!
# Modules of the project in the header

The scan decides for each name of an import whether it is a module of the project, but it records
the statement as a whole. A line of the header can therefore name a module of the project: where
one statement lists it beside a module outside, or where a statement takes it from a directory that
is no package itself. These are the only two ways (`importLines_name_local_iff`).
-/

namespace RobotKit.Link

open List RobotKit.Script RobotKit.Files

variable {names : List Alias} {source : Option String} {level : Nat} {a : Alias}

/-! ## The modules that a line names -/

/-- The names of a list in which a blank stands before each item and commas between them, without
the names that they are bound to. -/
def itemNames (items : List Char) : List String :=
  (splitAtChar ',' items).map fun item => String.ofList ((item.drop 1).takeWhile (· ≠ ' '))

/-- The modules that the text of an import names: those of its list, or the one that it takes names
from and the modules that these names can be there. -/
def lineModules (line : String) : List String :=
  if "import ".toList.isPrefixOf line.toList then itemNames (line.toList.drop 6)
  else if "from ".toList.isPrefixOf line.toList then
    let rest := line.toList.drop 5
    let source := String.ofList (rest.takeWhile (· ≠ ' '))
    source :: (itemNames ((rest.dropWhile (· ≠ ' ')).drop 7)).map (source ++ "." ++ ·)
  else []

/-- Does the text consist of words, none of them empty, with dots between them? -/
def IsModuleName (text : String) : Prop :=
  ∀ part ∈ splitAtChar '.' text.toList, part ≠ [] ∧ IsWord (String.ofList part)

instance (text : String) : Decidable (IsModuleName text) :=
  decidable_of_iff
    ((splitAtChar '.' text.toList).all (fun part => !part.isEmpty && part.all isWordChar) = true)
    (by simp [IsModuleName, IsWord])

theorem not_isModuleName_empty : ¬ IsModuleName "" :=
  fun h => (h [] (by simp [splitAtChar])).1 rfl

/-- The two sides of a dot in a module name are module names. -/
theorem IsModuleName.of_dot {first last : String} (h : IsModuleName (first ++ "." ++ last)) :
    IsModuleName first ∧ IsModuleName last := by
  have hsplit : splitAtChar '.' (first ++ "." ++ last).toList
      = splitAtChar '.' first.toList ++ splitAtChar '.' last.toList := by
    simp [String.toList_append, splitAtChar_append]
  unfold IsModuleName at h
  rw [hsplit] at h
  exact forall_mem_append.mp h

/-! ## Lines are read back -/

/-- Can the name, and the name that it is bound to, stand in the list of an import? -/
def IsItem (a : Alias) : Prop :=
  ' ' ∉ a.name.toList ∧ ',' ∉ a.name.toList ∧ ∀ bound ∈ a.boundAs, ',' ∉ bound.toList

theorem isDotted_of_isWord {text : String} (h : IsWord text) : IsDotted text :=
  fun c hc => .inl (h c hc)

theorem notMem_of_isDotted {text : String} (h : IsDotted text) {c : Char}
    (hc : isWordChar c = false) (hdot : c ≠ '.') : c ∉ text.toList := by
  intro hmem
  rcases h c hmem with hword | heq
  · rw [hword] at hc
    cases hc
  · exact hdot heq

theorem itemNames_append (item rest : List Char) :
    itemNames (item ++ ',' :: rest) = itemNames item ++ itemNames rest := by
  unfold itemNames
  rw [splitAtChar_append, map_append]

theorem takeWhile_append_blank {word rest : List Char} (hword : ' ' ∉ word)
    (hrest : ∀ c ∈ rest.head?, c = ' ') : (word ++ rest).takeWhile (· ≠ ' ') = word := by
  have hstop : rest.takeWhile (· ≠ ' ') = [] := by
    cases rest with
    | nil => rfl
    | cons c rest => simp [hrest c rfl]
  rw [takeWhile_append_of_pos, hstop, append_nil]
  intro c hc
  simpa using fun heq : c = ' ' => hword (heq ▸ hc)

/-- An item gives its name, whatever it is bound to. -/
theorem itemNames_write (ha : IsItem a) :
    itemNames (' ' :: a.write.toList) = [a.name] := by
  obtain ⟨hblank, hcomma, hbound⟩ := ha
  have hitem : ',' ∉ ' ' :: a.write.toList := by
    unfold Alias.write
    cases hb : a.boundAs with
    | none => simpa using hcomma
    | some bound => simpa [String.toList_append, hcomma] using hbound bound hb
  have hname : a.write.toList.takeWhile (· ≠ ' ') = a.name.toList := by
    unfold Alias.write
    rw [String.toList_append]
    apply takeWhile_append_blank hblank
    cases a.boundAs with
    | none => simp
    | some bound => simp [String.toList_append]
  unfold itemNames
  rw [splitAtChar_of_notMem hitem, map_singleton, drop_one, tail_cons, hname,
    String.ofList_toList]

theorem itemNames_commas (h : ∀ a ∈ names, IsItem a) (hne : names ≠ []) :
    itemNames (' ' :: (commas (names.map Alias.write)).toList) = names.map Alias.name := by
  induction names with
  | nil => exact absurd rfl hne
  | cons a rest ih =>
    obtain ⟨ha, hrest⟩ := forall_mem_cons.mp h
    cases rest with
    | nil => simpa [commas] using itemNames_write ha
    | cons b rest =>
      have htext : ' ' :: (commas ((a :: b :: rest).map Alias.write)).toList
          = ' ' :: a.write.toList ++
            ',' :: ' ' :: (commas ((b :: rest).map Alias.write)).toList := by
        simp [commas, String.toList_append]
      rw [htext, itemNames_append, itemNames_write ha, ih hrest (by simp)]
      rfl

theorem lineModules_importText (h : ∀ a ∈ names, IsItem a) (hne : names ≠ []) :
    lineModules (importText names) = names.map Alias.name := by
  have htext : (importText names).toList
      = "import".toList ++ ' ' :: (commas (names.map Alias.write)).toList := by
    simp [importText, String.toList_append]
  unfold lineModules
  rw [htext, if_pos (by simp)]
  exact itemNames_commas h hne

/-- The module that a `from` import names, with its dots. -/
def dottedSource (source : Option String) (level : Nat) : String :=
  String.ofList (List.replicate level '.') ++ source.getD ""

theorem lineModules_importFromText (hsource : ∀ name ∈ source, ' ' ∉ name.toList) :
    lineModules (importFromText source names level)
      = dottedSource source level ::
        (itemNames (' ' :: (commas (names.map Alias.write)).toList)).map
          (dottedSource source level ++ "." ++ ·) := by
  have htext : (importFromText source names level).toList
      = "from ".toList ++ ((dottedSource source level).toList ++
        ' ' :: ("import ".toList ++ (commas (names.map Alias.write)).toList)) := by
    simp [importFromText, dottedSource, String.toList_append]
  have hblank : ' ' ∉ (dottedSource source level).toList := by
    cases source with
    | none => simp [dottedSource]
    | some name => simpa [dottedSource, String.toList_append] using hsource name rfl
  have hdrop (rest : List Char) : ((dottedSource source level).toList ++ ' ' :: rest).dropWhile
      (· ≠ ' ') = ' ' :: rest := by
    rw [dropWhile_append_of_pos]
    · simp
    · intro c hc
      simpa using fun heq : c = ' ' => hblank (heq ▸ hc)
  have hstart (rest : List Char) : ("from ".toList ++ rest).drop 5 = rest := rfl
  unfold lineModules
  rw [htext, if_neg (by simp), if_pos (by simp)]
  dsimp only
  rw [hstart, takeWhile_append_blank hblank (by simp), hdrop, String.ofList_toList]
  rfl

/-! ## Local modules in the header -/

/-- Does the import leave the project as a whole and name the module on the way? One of its modules
lies outside, or no module of the project goes by the name that it takes names from. -/
inductive Import.Carries (modules : Table String) (file : String) : Import → String → Prop
  | listed {names : List Alias} {a b : Alias} (ha : a ∈ names)
      (houtside : isDeviceModule a.name = true ∨ modules.get? a.name = none) (hb : b ∈ names) :
      Carries modules file (.modules names) b.name
  | below {source : String} {names : List Alias} {a : Alias}
      (houtside : ∀ path, ¬ SourceAt modules file (some source) path) (ha : a ∈ names) :
      Carries modules file (.names (some source) names 0) (source ++ "." ++ a.name)

theorem isItem_of_dotted (hname : IsDotted a.name) (hbound : ∀ bound ∈ a.boundAs, IsWord bound) :
    IsItem a := by
  refine ⟨notMem_of_isDotted hname (by decide) (by decide),
    notMem_of_isDotted hname (by decide) (by decide), fun bound hmem => ?_⟩
  exact notMem_of_isDotted (isDotted_of_isWord (hbound bound hmem)) (by decide) (by decide)

theorem isItem_of_taken (hname : a.name = "*" ∨ IsWord a.name)
    (hbound : ∀ bound ∈ a.boundAs, IsWord bound) : IsItem a := by
  rcases hname with hstar | hword
  · refine ⟨by simp [hstar], by simp [hstar], fun bound hmem => ?_⟩
    exact notMem_of_isDotted (isDotted_of_isWord (hbound bound hmem)) (by decide) (by decide)
  · exact isItem_of_dotted (isDotted_of_isWord hword) hbound

/-- Only a `from` import without dots names a module of the project. -/
theorem eq_of_isModuleName_dottedSource (h : IsModuleName (dottedSource source level)) :
    source = some (dottedSource source level) ∧ level = 0 := by
  cases level with
  | zero =>
    cases source with
    | none => exact absurd h (by simpa [dottedSource] using not_isModuleName_empty)
    | some name => simp [dottedSource]
  | succ level =>
    have hdot : dottedSource source (level + 1) = "" ++ "." ++ dottedSource source level := by
      rw [← String.toList_inj]
      simp [dottedSource, String.toList_append, replicate_succ]
    rw [hdot] at h
    exact absurd h.of_dot.1 not_isModuleName_empty

theorem isDeviceModule_dot {source : String} (h : isDeviceModule source = true) (name : String) :
    isDeviceModule (source ++ "." ++ name) = true := by
  unfold isDeviceModule at h ⊢
  rw [Bool.or_eq_true, decide_eq_true_eq, isPrefixOf_iff_prefix] at h ⊢
  rcases h with rfl | hstart
  · exact .inr (by simp [String.toList_append])
  · refine .inr (hstart.trans ?_)
    simp [String.toList_append]

section

variable {modules : Table String} {file line m path : String} {i : Import}

theorem Import.Carries.leaves (h : i.Carries modules file m) :
    ∃ line, i.Leaves modules file line := by
  cases h with
  | listed ha houtside _ => exact ⟨_, .module ha houtside⟩
  | below houtside _ => exact ⟨_, .source houtside⟩

/-- A line with a `from` import names the module that names are taken from, and those below it. -/
theorem mem_lineModules_importFromText
    (hwords : (Stmt.importFrom source names level).DeclaresWords) (hm : IsModuleName m) :
    m ∈ lineModules (importFromText source names level)
      ↔ ∃ name, source = some name ∧ level = 0 ∧
        (m = name ∨ ∃ a ∈ names, m = name ++ "." ++ a.name) := by
  obtain ⟨hsource, hnames⟩ := hwords
  have hitems : ∀ a ∈ names, IsItem a := fun a ha =>
    isItem_of_taken (hnames a ha).1 (hnames a ha).2
  rw [lineModules_importFromText fun name hname =>
    notMem_of_isDotted (hsource name hname) (by decide) (by decide), mem_cons, mem_map]
  constructor
  · rintro (rfl | ⟨item, hitem, rfl⟩)
    · obtain ⟨hsome, hlevel⟩ := eq_of_isModuleName_dottedSource hm
      exact ⟨_, hsome, hlevel, .inl rfl⟩
    · obtain ⟨hsome, hlevel⟩ := eq_of_isModuleName_dottedSource hm.of_dot.1
      refine ⟨_, hsome, hlevel, .inr ?_⟩
      by_cases hne : names = []
      · -- an empty list has one empty item
        subst hne
        obtain rfl : item = "" := by simpa [itemNames, commas, splitAtChar] using hitem
        exact absurd hm.of_dot.2 not_isModuleName_empty
      · rw [itemNames_commas hitems hne] at hitem
        obtain ⟨a, ha, rfl⟩ := mem_map.mp hitem
        exact ⟨a, ha, rfl⟩
  · rintro ⟨name, rfl, rfl, h⟩
    have hsame : dottedSource (some name) 0 = name := by simp [dottedSource]
    rw [hsame]
    refine h.imp id ?_
    rintro ⟨a, ha, rfl⟩
    rw [itemNames_commas hitems (ne_nil_of_mem ha)]
    exact ⟨a.name, mem_map_of_mem ha, rfl⟩

/-- A line of the header names a module of the project if its import carries it along. -/
theorem Import.Leaves.mem_lineModules_iff (h : i.Leaves modules file line)
    (hwords : i.statement.DeclaresWords) (hm : IsModuleName m) (hdevice : isDeviceModule m = false)
    (hlocal : modules.get? m = some path) :
    m ∈ lineModules line ↔ i.Carries modules file m := by
  cases h with
  | @module names a ha houtside =>
    have hitems : ∀ b ∈ names, IsItem b := fun b hb =>
      isItem_of_dotted (hwords b hb).1 (hwords b hb).2
    rw [lineModules_importText hitems (ne_nil_of_mem ha), mem_map]
    constructor
    · rintro ⟨b, hb, rfl⟩
      exact .listed ha houtside hb
    · intro hcarries
      cases hcarries with
      | listed _ _ hb => exact ⟨_, hb, rfl⟩
  | @device name names level hsource =>
    rw [mem_lineModules_importFromText hwords hm]
    constructor
    · rintro ⟨_, hname, -, rfl | ⟨a, -, rfl⟩⟩
      · rw [← Option.some.inj hname, hsource] at hdevice
        cases hdevice
      · rw [← Option.some.inj hname, isDeviceModule_dot hsource] at hdevice
        cases hdevice
    · intro hcarries
      cases hcarries with
      | below _ ha => exact ⟨name, rfl, rfl, .inr ⟨_, ha, rfl⟩⟩
  | @source source names houtside =>
    rw [mem_lineModules_importFromText hwords hm]
    constructor
    · rintro ⟨name, rfl, -, rfl | ⟨a, ha, rfl⟩⟩
      · exact absurd (.direct hlocal) (houtside path)
      · exact .below houtside ha
    · intro hcarries
      cases hcarries with
      | below _ ha => exact ⟨_, rfl, rfl, .inr ⟨_, ha, rfl⟩⟩

end

/-- Which modules of the project the header names. Of a project of texts, a module that the device
library does not hold stands in a line of the header exactly if an import of a scanned file, at any
depth, carries it along: the import lists it beside a module outside the project, or takes it from
a directory that is no module. -/
theorem importLines_name_local_iff {project : Project} {result : Combined}
    (h : project.combine = .ok result) (htexts : project.ReadsTexts) :
    ∃ chunks, result.text = layout project.importLines chunks ∧
      ∀ m path, IsModuleName m → isDeviceModule m = false →
        (moduleMap project.files).get? m = some path →
        ((∃ line ∈ project.importLines, m ∈ lineModules line) ↔
          ∃ file ∈ project.analysis.scan.scanned, ∃ body, project.read file = some body ∧
            ∃ i : Import, i.Within body ∧ i.Carries (moduleMap project.files) file m) := by
  obtain ⟨chunks, -, htext⟩ := Project.text_combine h
  refine ⟨chunks, htext, fun m path hm hdevice hlocal => ?_⟩
  have hwords {file : String} {body : List Stmt} {i : Import}
      (hread : project.read file = some body) (hi : i.Within body) :
      i.statement.DeclaresWords := by
    obtain ⟨text, hparse⟩ := htexts file body hread
    obtain ⟨s, himport, hs⟩ := hi.declaresWords (wellRead_of_parse hparse)
    exact importOf?_eq_some himport ▸ hs
  constructor
  · rintro ⟨line, hline, hmem⟩
    obtain ⟨file, hfile, body, hread, i, hi, hleaves⟩ := Project.mem_importLines.mp hline
    exact ⟨file, hfile, body, hread, i, hi,
      (hleaves.mem_lineModules_iff (hwords hread hi) hm hdevice hlocal).mp hmem⟩
  · rintro ⟨file, hfile, body, hread, i, hi, hcarries⟩
    obtain ⟨line, hleaves⟩ := hcarries.leaves
    exact ⟨line, Project.mem_importLines.mpr ⟨file, hfile, body, hread, i, hi, hleaves⟩,
      (hleaves.mem_lineModules_iff (hwords hread hi) hm hdevice hlocal).mpr hcarries⟩

/-- A project with a module that is listed beside one outside, one that is taken from a directory,
and one that is listed alone. -/
@[irreducible] def shelf : Project where
  directory := ["work"]
  entry := "/work/main.py"
  files := [⟨"arm.py", "/work/arm.py"⟩, ⟨"claw.py", "/work/claw.py"⟩,
    ⟨"lib/gear.py", "/work/lib/gear.py"⟩, ⟨"main.py", "/work/main.py"⟩]
  read := readTexts fun file =>
    if file = "/work/main.py" then
      some "import math, arm\nimport claw\nfrom lib import gear\n\nprint(math.pi)\n"
    else if file = "/work/arm.py" then some "height = 1\n"
    else if file = "/work/claw.py" then some "width = 2\n"
    else if file = "/work/lib/gear.py" then some "teeth = 12\n"
    else none

theorem combine_shelf :
    shelf.combine.toOption.isSome ∧
      shelf.importLines = ["from lib import gear", "import math, arm"] ∧
      (moduleMap shelf.files).get? "arm" = some "/work/arm.py" ∧
      (moduleMap shelf.files).get? "claw" = some "/work/claw.py" ∧
      (moduleMap shelf.files).get? "lib.gear" = some "/work/lib/gear.py" := by
  decide +kernel

theorem readsTexts_shelf : shelf.ReadsTexts := by
  intro file body hread
  simp only [shelf] at hread
  obtain ⟨text, -, hparse⟩ := readTexts_eq_some_iff.mp hread
  exact ⟨text, hparse⟩

/-- The header of the shelf names the arm, a module of the project, beside one outside. -/
theorem shelf_header_names_arm :
    ∃ result chunks, shelf.combine = .ok result ∧ result.text = layout shelf.importLines chunks ∧
      isDeviceModule "arm" = false ∧ (moduleMap shelf.files).get? "arm" = some "/work/arm.py" ∧
      ∃ line ∈ shelf.importLines, "arm" ∈ lineModules line := by
  obtain ⟨hcombine, hlines, harm, -⟩ := combine_shelf
  obtain ⟨result, hok⟩ := Host.exists_eq_ok_of_isSome hcombine
  obtain ⟨chunks, -, htext⟩ := Project.text_combine hok
  exact ⟨result, chunks, hok, htext, by decide, harm, "import math, arm", by simp [hlines],
    by decide +kernel⟩

/-- No import carries the claw along, since no line of the header names it; one carries the gear. -/
theorem shelf_carries_gear :
    ∃ result, shelf.combine = .ok result ∧ shelf.ReadsTexts ∧
      (¬ ∃ file ∈ shelf.analysis.scan.scanned, ∃ body, shelf.read file = some body ∧
        ∃ i : Import, i.Within body ∧ i.Carries (moduleMap shelf.files) file "claw") ∧
      ∃ file ∈ shelf.analysis.scan.scanned, ∃ body, shelf.read file = some body ∧
        ∃ i : Import, i.Within body ∧ i.Carries (moduleMap shelf.files) file "lib.gear" := by
  obtain ⟨hcombine, hlines, -, hclaw, hgear⟩ := combine_shelf
  obtain ⟨result, hok⟩ := Host.exists_eq_ok_of_isSome hcombine
  obtain ⟨chunks, -, hnames⟩ := importLines_name_local_iff hok readsTexts_shelf
  refine ⟨result, hok, readsTexts_shelf, ?_, ?_⟩
  · rw [← hnames "claw" _ (by decide +kernel) (by decide +kernel) hclaw, hlines]
    decide +kernel
  · rw [← hnames "lib.gear" _ (by decide +kernel) (by decide +kernel) hgear, hlines]
    decide +kernel

end RobotKit.Link
