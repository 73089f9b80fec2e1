import RobotKit.Project.Open
import RobotKit.Proofs.Scaffold
import RobotKit.Proofs.Unreadable

/-!
# Opening a project

Opening a project whose parts are all there changes nothing. If a part is missing, the project is
scaffolded: the project file is written anew, and the package of a package project gets its first
script. So opening ends well and keeps all files exactly if no part is missing, or if what is
written is there already (`openAt_keeps_files_iff`).
-/

namespace RobotKit.Files

open List

/-- A content with a file of the tool as the text that it is. -/
def Content.asText : Content → Content
  | .resource value => .text value.script
  | content => content

/-- Are all files of a tree still there, with the same contents? -/
def Node.KeepsFiles (root root' : Node) : Prop :=
  ∀ location content, root.contentAt location = some content →
    ∃ content', root'.contentAt location = some content' ∧ content'.asText = content.asText

end RobotKit.Files

namespace RobotKit.Project

open List RobotKit.Config RobotKit.Files RobotKit.Host

variable {Q : Project → State → Prop} {p : Project} {config : Entries} {table first second : String}
  {projectFile : String} {root root' : Node}

variable {s : State} {directory : Path} {D : Location}

/-! ## Reading the project file -/

/-- Two settings of a table in a document, if table and settings are given; nothing can be looked
up in a value that is no table. -/
def settings (config : Entries) (table first second : String) : Option (Option (Value × Value)) :=
  match (config.lookup table).filter (·.isGiven) with
  | none => some none
  | some values => values.entries?.map fun entries =>
    ((entries.lookup first).filter (·.isGiven)).bind fun a =>
      ((entries.lookup second).filter (·.isGiven)).map fun b => (a, b)

theorem ends_given? {table : Value} {name : String} {Q : Setting → State → Prop} :
    Ends (given? table name) s Q
      ↔ ∃ entries, table.entries? = some entries
        ∧ Q ((entries.lookup name).filter (·.isGiven)) s := by
  unfold given?
  cases table.entries? with
  | none => simp
  | some entries => simp

theorem ends_twoSettings? {Q : Option (Value × Value) → State → Prop} :
    Ends (twoSettings? config table first second) s Q
      ↔ ∃ result, settings config table first second = some result ∧ Q result s := by
  unfold twoSettings? settings
  cases (config.lookup table).filter (·.isGiven) with
  | none => simp
  | some values =>
    simp only [ends_bind, ends_given?]
    cases hentries : values.entries? with
    | none => simp
    | some entries =>
      cases hfirst : (entries.lookup first).filter (·.isGiven) with
      | none => simp [hfirst]
      | some a => simp [hfirst, ends_given?, hentries]

theorem ends_ofConfig :
    Ends (ofConfig directory config) s Q
      ↔ ∃ name slot package, settings config "project" "name" "slot" = some (some (name, slot))
        ∧ settings config "package" "package_name" "version" = some package
        ∧ Q ⟨directory, some name, some slot,
            package.map fun (name, version) => ⟨some name, some version⟩⟩ s := by
  unfold ofConfig
  rw [ends_bind, ends_twoSettings?]
  constructor
  · rintro ⟨result, hproject, hends⟩
    cases result with
    | none => exact absurd hends not_ends_fail
    | some values =>
      obtain ⟨name, slot⟩ := values
      rw [ends_bind, ends_twoSettings?] at hends
      obtain ⟨package, hpackage, hends⟩ := hends
      exact ⟨name, slot, package, hproject, hpackage, ends_pure.mp hends⟩
  · rintro ⟨name, slot, package, hproject, hpackage, hQ⟩
    refine ⟨_, hproject, ?_⟩
    rw [ends_bind, ends_twoSettings?]
    exact ⟨package, hpackage, ends_pure.mpr hQ⟩

theorem isGiven_of_settings {a b : Value}
    (h : settings config table first second = some (some (a, b))) : a.isGiven ∧ b.isGiven := by
  unfold settings at h
  split at h
  · simp at h
  · rename_i values _
    obtain ⟨entries, -, h⟩ := Option.map_eq_some_iff.mp h
    obtain ⟨x, hx, h⟩ := Option.bind_eq_some_iff.mp h
    obtain ⟨y, hy, h⟩ := Option.map_eq_some_iff.mp h
    obtain ⟨rfl, rfl⟩ := Prod.mk.inj h
    exact ⟨(Option.filter_eq_some_iff.mp hx).2, (Option.filter_eq_some_iff.mp hy).2⟩

/-- Does the project file in a directory describe this project? -/
def Describes (s : State) (directory : Path) (p : Project) : Prop :=
  Ends (do ofConfig directory (← readConfig directory)) s fun q _ => q = p

/-- What a host is like whose project file describes a project. -/
theorem Describes.exists_projectFile (h : Describes s directory p)
    (hD : s.resolve directory = .ok D) :
    ∃ content text name slot, s.At directory D
      ∧ s.files.shapeAt (fileIn D) = some (.file content) ∧ Content.text? content = some text
      ∧ p = ⟨directory, some name, some slot, p.package⟩ ∧ name.isGiven ∧ slot.isGiven
      ∧ ∃ config, (∀ Q, Ends (readConfig directory) s Q ↔ Q config s)
        ∧ ∀ Q, Ends (ofConfig directory config) s Q ↔ Q p s := by
  unfold Describes readConfig at h
  simp only [ends_bind, ends_readText] at h
  obtain ⟨location, content, text, hresolve, hshape, htext, hends⟩ := h
  have hfile : location = fileIn D ∧ s.files.shapeAt D = some .directory := by
    rw [projectFile_eq] at hresolve
    unfold State.resolve at hresolve hD
    rw [Path.below, Node.resolve_append, hD] at hresolve
    have hsteps : ∀ name ∈ [fileName], Node.IsStep name := by decide
    have hD' := (Node.resolve_steps_eq_ok_iff hsteps (cons_ne_nil _ _)).mp hresolve
    simpa [fileIn] using hD'
  obtain ⟨rfl, hisDirectory⟩ := hfile
  have hat : s.At directory D := ⟨hD, hisDirectory⟩
  cases hread : read text with
  | error e =>
    rw [hread] at hends
    exact absurd hends not_ends_fail
  | ok config =>
    rw [hread] at hends
    obtain ⟨name, slot, package, hproject, hpackage, rfl⟩ := ends_ofConfig.mp (ends_pure.mp hends)
    obtain ⟨hname, hslot⟩ := isGiven_of_settings hproject
    refine ⟨content, text, name, slot, hat, hshape, htext, rfl, hname, hslot, config, ?_, ?_⟩
    · intro Q
      rw [ends_readConfig hat hshape]
      constructor
      · rintro ⟨_, _, htext', hread', hQ⟩
        obtain rfl := Option.some.inj (htext.symm.trans htext')
        obtain rfl := Except.ok.inj (hread.symm.trans hread')
        exact hQ
      · exact fun hQ => ⟨text, config, htext, hread, hQ⟩
    · intro Q
      rw [ends_ofConfig]
      constructor
      · rintro ⟨name', slot', package', hproject', hpackage', hQ⟩
        obtain ⟨rfl, rfl⟩ := Prod.mk.inj (Option.some.inj (Option.some.inj (hproject.symm.trans hproject')))
        obtain rfl := Option.some.inj (hpackage.symm.trans hpackage')
        exact hQ
      · exact fun hQ => ⟨name, slot, package, hproject, hpackage, hQ⟩

/-! ## Completing the parts -/

theorem ends_allM_fileExists (h : s.At directory D) {parts : List (List String)}
    (hparts : ∀ names ∈ parts, (∀ name ∈ names, Node.IsStep name) ∧ names ≠ [])
    {Q : Bool → State → Prop} :
    Ends ((parts.map directory.below).allM fileExists) s Q
      ↔ Q (parts.all fun names => (s.files.shapeAt (D ++ names)).isSome) s := by
  induction parts with
  | nil => exact ends_pure
  | cons names rest ih =>
    obtain ⟨⟨hsteps, hne⟩, hrest⟩ := forall_mem_cons.mp hparts
    rw [map_cons, List.allM, ends_bind, h.ends_fileExists hsteps hne, all_cons]
    cases (s.files.shapeAt (D ++ names)).isSome with
    | true => simpa using ih hrest
    | false => simp

theorem all_partNames_iff (root : Node) (D : Location) :
    (partNames.all fun names => (root.shapeAt (D ++ names)).isSome) = true ↔ HasParts root D := by
  rw [all_eq_true]
  rfl

/-- A project whose parts are all there is opened as its file says. -/
theorem ends_openAt_of_hasParts {content : Content} (h : s.At directory D)
    (hfile : s.files.shapeAt (fileIn D) = some (.file content)) (hparts : HasParts s.files D) :
    Ends (openAt directory) s Q ↔ ∃ text config, Content.text? content = some text
      ∧ read text = .ok config ∧ Ends (ofConfig directory config) s Q := by
  have hexists (P : Bool → State → Prop) : Ends (fileExists (directory.below [fileName])) s P
      ↔ P true s := by
    rw [h.ends_fileExists (by decide) (by decide), ← fileIn, hfile]
    rfl
  have hcomplete (p : Project) (hp : p.directory = directory) (P : Unit → State → Prop) :
      Ends p.completeParts s P ↔ P () s := by
    unfold completeParts
    rw [ends_bind, hp, partsIn_eq, ends_allM_fileExists h isStep_partNames,
      (all_partNames_iff _ _).mpr hparts]
    simp
  unfold openAt openWithConfig
  simp only [ends_bind, ends_pure, projectFile_eq, hexists, Bool.not_true, Bool.false_eq_true,
    ↓reduceIte, ends_readConfig h hfile, ends_ofConfig, hcomplete]

theorem exists_of_ends_openAt (h : Ends (openAt directory) s Q) :
    ∃ D content, s.At directory D ∧ s.files.shapeAt (fileIn D) = some (.file content) := by
  unfold openAt openWithConfig at h
  rw [ends_bind, ends_bind] at h
  obtain ⟨there, h⟩ := exists_of_ends_fileExists h
  cases there with
  | false => simp at h
  | true => exact exists_of_ends_readConfig (by simpa using h)

theorem plainText_scaffolded :
    (Console.plainText "🔧 [yellow]Scaffolded missing parts of project[/yellow]").toOption.isSome := by
  decide +kernel

/-- Opening a project changes nothing if its parts are all there, and scaffolds it otherwise. -/
theorem ends_openAt (h : Describes s directory p) (hD : s.resolve directory = .ok D)
    (hQ : ∀ q t text, Q q { t with output := text } ↔ Q q t) :
    Ends (openAt directory) s Q
      ↔ (HasParts s.files D ∧ Q p s)
        ∨ (¬ HasParts s.files D ∧ Ends (match p.package with
            | none => scaffold directory p.name p.slot none
            | some _ => scaffoldPackage directory p.name p.slot none none) s fun _ t => Q p t) := by
  obtain ⟨content, text, name, slot, hat, hshape, -, hp, -, -, config, hread, hconfig⟩ :=
    h.exists_projectFile hD
  obtain ⟨lines, hlines⟩ := exists_render_eq_ok plainText_scaffolded
  have hfile : (s.files.shapeAt (D ++ [fileName])).isSome = true := by
    rw [show D ++ [fileName] = fileIn D from rfl, hshape]
    rfl
  have hdirectory : p.directory = directory := by rw [hp]
  have hexists (P : Bool → State → Prop) : Ends (fileExists (directory.below [fileName])) s P
      ↔ P (s.files.shapeAt (D ++ [fileName])).isSome s :=
    hat.ends_fileExists (by decide) (by decide)
  have hopened : Ends (openAt directory) s Q
      ↔ Ends p.completeParts s fun _ t => Q p t := by
    unfold openAt openWithConfig
    simp only [ends_bind, ends_pure, projectFile_eq,
      hexists, hfile, Bool.not_true,
      Bool.false_eq_true, ↓reduceIte, hread, hconfig]
  rw [hopened]
  unfold completeParts
  rw [ends_bind, hdirectory, partsIn_eq, ends_allM_fileExists hat isStep_partNames]
  by_cases hparts : HasParts s.files D
  · rw [(all_partNames_iff _ _).mpr hparts]
    simp [hparts]
  · have hall := mt (all_partNames_iff s.files D).mp hparts
    rw [Bool.not_eq_true] at hall
    simp only [hall, Bool.not_false, ↓reduceIte, hparts, false_and, not_false_eq_true, true_and,
      false_or]
    cases p.package with
    | none => simp only [ends_bind, ends_say, hlines, Except.ok.injEq, exists_eq_left', hQ]
    | some info => simp only [ends_bind, ends_say, hlines, Except.ok.injEq, exists_eq_left', hQ]

/-! ## Which files keep their contents -/

/-- If some places have new contents, all files are kept exactly if what was there before reads
the same. -/
theorem keepsFiles_iff_of_shapeAt (new : Location → Option Content)
    (h : ∀ location content, root.shapeAt location = some (.file content) →
      root'.shapeAt location = some (.file ((new location).getD content))) :
    root.KeepsFiles root' ↔ ∀ location found, new location = some found →
      ∀ content, root.contentAt location = some content → content.asText = found.asText := by
  simp only [← Node.contentAt_eq_some_iff_shapeAt] at h
  constructor
  · intro hkeeps location found hfound content hcontent
    obtain ⟨content', hcontent', htext⟩ := hkeeps location content hcontent
    rw [h location content hcontent, hfound] at hcontent'
    rw [← htext, ← Option.some.inj hcontent', Option.getD_some]
  · intro hnew location content hcontent
    refine ⟨_, h location content hcontent, ?_⟩
    cases hfound : new location with
    | none => rfl
    | some found => exact (hnew location found hfound content hcontent).symm

section Kept

variable {content : Content}

theorem hasParts_of_shapeAt (hcan : CanComplete root D)
    (hshape : ∀ location, location ≠ fileIn D →
      ((root.shapeAt location).or (madeShape D location)).isSome → (root'.shapeAt location).isSome) :
    HasParts root' D := by
  have hmade {names : List String} (hne : names ≠ [fileName])
      (hsome : ((root.shapeAt (D ++ names)).or (madeShape D (D ++ names))).isSome) :
      (root'.shapeAt (D ++ names)).isSome :=
    hshape _ (fun heq => hne (append_cancel_left heq)) hsome
  intro names hnames
  simp only [partNames, mem_cons, not_mem_nil, or_false] at hnames
  rcases hnames with rfl | rfl | rfl | rfl | rfl
  · exact hmade (by decide) (by rw [hcan.isDirectory]; rfl)
  · refine hmade (by decide) ?_
    rw [Option.isSome_or, hcan.main]
    rfl
  all_goals
    refine hmade (by decide) ?_
    rw [Option.isSome_or, madeShape]
    simp

/-- The first script of a package does not go where the project file is. -/
theorem startPlace_ne_fileIn (root : Node) (D : Location) (name : String) :
    startPlace root D name ≠ fileIn D := by
  unfold startPlace homeNames fileIn fileName
  split <;> simp

variable (h : s.At directory D) (hfile : s.files.shapeAt (fileIn D) = some (.file content))
  (hcan : CanComplete s.files D)

include h hfile hcan

theorem hasParts_scaffolded (text : String) : HasParts (scaffolded s D text).files D := by
  refine hasParts_of_shapeAt hcan fun location hother hsome => ?_
  rw [shapeAt_scaffolded h (free_of_file hfile) hcan, if_neg hother]
  exact hsome

theorem keepsFiles_scaffolded (text : String) :
    s.files.KeepsFiles (scaffolded s D text).files ↔ content.asText = .text text := by
  rw [keepsFiles_iff_of_shapeAt fun location =>
    if location = fileIn D then some (.text text) else none]
  · simp [Node.contentAt_eq_some_iff_shapeAt, hfile, Content.asText]
  · intro location found hfound
    rw [shapeAt_scaffolded h (free_of_file hfile) hcan, hfound]
    split <;> rfl

variable {name : String} (hplace : HasStartPlace s.files D name)

include hplace

theorem hasParts_packaged (slot text : String) : HasParts (packaged s D name slot text).files D := by
  refine hasParts_of_shapeAt hcan fun location hother hsome => ?_
  rw [shapeAt_packaged h (free_of_file hfile) hcan hplace, if_neg hother]
  split
  · rfl
  · rw [Option.isSome_or, hsome, Bool.true_or]

theorem keepsFiles_packaged (slot text : String) :
    s.files.KeepsFiles (packaged s D name slot text).files
      ↔ content.asText = .text text
        ∧ ∀ found, s.files.contentAt (startPlace s.files D name) = some found →
          found.asText = .text Resource.packageStart.script := by
  rw [keepsFiles_iff_of_shapeAt fun location =>
    if location = startPlace s.files D name then some (.resource .packageStart)
    else if location = fileIn D then some (.text text) else none]
  · have hcontent := Node.contentAt_eq_some_iff_shapeAt.mpr hfile
    constructor
    · intro hnew
      have hne := startPlace_ne_fileIn s.files D name
      exact ⟨hnew (fileIn D) (.text text) (by simp [hne.symm]) content hcontent,
        hnew _ _ (if_pos rfl)⟩
    · rintro ⟨htext, hscript⟩ location found hfound other hother
      grind [Content.asText]
  · intro location found hfound
    rw [shapeAt_packaged h (free_of_file hfile) hcan hplace, hfound]
    split
    · rfl
    · split <;> rfl

end Kept

/-- The text that scaffolding leaves in the project file of a package, if it can be written. -/
def packageText (name slot : String) : Option String := do
  let config ← (read (projectText name slot)).toOption
  if (write (withPackage name config)).error = none then
    return (write (withPackage name config)).text
  else none

/-- The text that scaffolding leaves in the project file of a project, if it can be written. -/
def scaffoldText (p : Project) : Option String := do
  let slot ← (p.slot.orDefault defaultSlot).plain.toOption
  match p.package with
  | none => return projectText (← (p.name.orDefault defaultName).plain.toOption) slot
  | some _ => match p.name.orDefault defaultName with
    | .text name => packageText name slot
    | _ => none

theorem packageText_eq_some_iff {name slot text : String} :
    packageText name slot = some text
      ↔ ∃ config, read (projectText name slot) = .ok config
        ∧ (write (withPackage name config)).error = none
        ∧ (write (withPackage name config)).text = text := by
  simp [packageText, Option.bind_eq_some_iff, toOption_eq_some_iff]

theorem scaffoldText_of_project (hpackage : p.package = none) {text : String} :
    p.scaffoldText = some text
      ↔ ∃ nameText slotText, (p.name.orDefault defaultName).plain = .ok nameText
        ∧ (p.slot.orDefault defaultSlot).plain = .ok slotText
        ∧ projectText nameText slotText = text := by
  simp only [scaffoldText, hpackage, Option.bind_eq_bind, Option.bind_eq_some_iff,
    toOption_eq_some_iff, Option.pure_def, Option.some.injEq]
  constructor
  · rintro ⟨slotText, hslot, nameText, hname, htext⟩
    exact ⟨nameText, slotText, hname, hslot, htext⟩
  · rintro ⟨nameText, slotText, hname, hslot, htext⟩
    exact ⟨slotText, hslot, nameText, hname, htext⟩

theorem scaffoldText_of_package (hpackage : p.package.isSome) {name : Value}
    (hname : p.name = some name) (hgiven : name.isGiven) {text : String} :
    p.scaffoldText = some text
      ↔ ∃ nameText slotText, name = .text nameText
        ∧ (p.slot.orDefault defaultSlot).plain = .ok slotText
        ∧ packageText nameText slotText = some text := by
  obtain ⟨info, hinfo⟩ := Option.isSome_iff_exists.mp hpackage
  simp only [scaffoldText, hinfo, hname, orDefault_of_isGiven hgiven, Option.bind_eq_bind,
    Option.bind_eq_some_iff, toOption_eq_some_iff]
  cases name <;> simp

/-- Is there a place for the first script of a package, which is free or holds the script
already? -/
structure KeepsStart (root : Node) (D : Location) (name : String) : Prop where
  place : HasStartPlace root D name
  kept : ∀ found, root.contentAt (startPlace root D name) = some found →
    found.asText = .text Resource.packageStart.script

section Keeping

variable {content : Content} {name : Value} {p : Project}

theorem canComplete_iff {root : Node} : CanComplete root D
    ↔ (root.shapeAt (D ++ ["src", "main.py"])).isSome
      ∧ ∀ content, root.shapeAt (D ++ ["src", "vex"]) ≠ some (.file content) :=
  ⟨fun h => ⟨h.main, h.library⟩, fun h => ⟨h.1, h.2⟩⟩

section

variable (h : s.At directory D) (hfile : s.files.shapeAt (fileIn D) = some (.file content))
  (hlibrary : HasResource s .deviceLibrary)

include h hfile hlibrary

/-- Scaffolding a project keeps all files exactly if it can be done and the project file is written
as it was. -/
theorem ends_scaffold_keeping_iff (hpackage : p.package = none) :
    Ends (scaffold directory p.name p.slot none) s
        (fun _ t => HasParts t.files D ∧ s.files.KeepsFiles t.files)
      ↔ CanComplete s.files D ∧ ∃ text, p.scaffoldText = some text ∧ content.asText = .text text := by
  simp only [ends_scaffold h (free_of_file hfile) hlibrary, scaffoldText_of_project hpackage]
  constructor
  · rintro ⟨nameText, slotText, hname, hslot, hcan, -, hkeeps⟩
    exact ⟨hcan, _, ⟨nameText, slotText, hname, hslot, rfl⟩,
      (keepsFiles_scaffolded h hfile hcan _).mp hkeeps⟩
  · rintro ⟨hcan, _, ⟨nameText, slotText, hname, hslot, rfl⟩, hcontent⟩
    exact ⟨nameText, slotText, hname, hslot, hcan, hasParts_scaffolded h hfile hcan _,
      (keepsFiles_scaffolded h hfile hcan _).mpr hcontent⟩

/-- Scaffolding a package keeps all files exactly if it can be done and the project file and the
first script of the package are written as they were. -/
theorem ends_scaffoldPackage_keeping_iff (hstart : HasResource s .packageStart)
    (hpackage : p.package.isSome) (hname : p.name = some name) (hgiven : name.isGiven) :
    Ends (scaffoldPackage directory p.name p.slot none none) s
        (fun _ t => HasParts t.files D ∧ s.files.KeepsFiles t.files)
      ↔ CanComplete s.files D
        ∧ (∃ text, p.scaffoldText = some text ∧ content.asText = .text text)
        ∧ ∀ nameText, p.name = some (.text nameText) → KeepsStart s.files D nameText := by
  simp only [scaffoldText_of_package hpackage hname hgiven, packageText_eq_some_iff]
  rw [hname, ends_scaffoldPackage h (free_of_file hfile) hlibrary hstart hgiven]
  constructor
  · rintro ⟨nameText, slotText, config, rfl, hslot, hread, hwritten, hcan, hplace, -, hkeeps⟩
    obtain ⟨hcontent, hkept⟩ :=
      (keepsFiles_packaged h hfile hcan hplace slotText _).mp hkeeps
    refine ⟨hcan, ⟨_, ⟨nameText, slotText, rfl, hslot, config, hread, hwritten, rfl⟩,
      hcontent⟩, fun other hother => ?_⟩
    obtain rfl := Value.text.inj (Option.some.inj hother)
    exact ⟨hplace, hkept⟩
  · rintro ⟨hcan,
      ⟨_, ⟨nameText, slotText, rfl, hslot, config, hread, hwritten, rfl⟩, hcontent⟩, hkeeps⟩
    obtain ⟨hplace, hkept⟩ := hkeeps nameText rfl
    exact ⟨nameText, slotText, config, rfl, hslot, hread, hwritten, hcan, hplace,
      hasParts_packaged h hfile hcan hplace _ _,
      (keepsFiles_packaged h hfile hcan hplace _ _).mpr ⟨hcontent, hkept⟩⟩

end

/-- Without all parts, opening a project keeps all files exactly if scaffolding it does. -/
theorem ends_openAt_keeping_iff (hlibrary : HasResource s .deviceLibrary)
    (hstart : HasResource s .packageStart) (hD : s.resolve directory = .ok D)
    (hp : Describes s directory p) (hparts : ¬ HasParts s.files D) :
    Ends (openAt directory) s
        (fun q t => q = p ∧ HasParts t.files D ∧ s.files.KeepsFiles t.files)
      ↔ (s.files.shapeAt (D ++ ["src", "main.py"])).isSome
        ∧ (∀ content, s.files.shapeAt (D ++ ["src", "vex"]) ≠ some (.file content))
        ∧ (∃ content text, s.files.contentAt (fileIn D) = some content
          ∧ p.scaffoldText = some text ∧ content.asText = .text text)
        ∧ (p.package.isSome → ∀ name, p.name = some (.text name) → KeepsStart s.files D name) := by
  obtain ⟨content, text, name, slot, hat, hshape, -, hsettings, hgiven, -⟩ :=
    hp.exists_projectFile hD
  have hcontent : s.files.contentAt (fileIn D) = some content :=
    Node.contentAt_eq_some_iff_shapeAt.mpr hshape
  have hname : p.name = some name := by rw [hsettings]
  have hQ (q : Project) (t : State) (output : String) :
      (q = p ∧ HasParts { t with output := output }.files D
        ∧ s.files.KeepsFiles { t with output := output }.files)
      ↔ q = p ∧ HasParts t.files D ∧ s.files.KeepsFiles t.files := Iff.rfl
  have hkept : (∃ content text, s.files.contentAt (fileIn D) = some content
        ∧ p.scaffoldText = some text ∧ content.asText = .text text)
      ↔ ∃ text, p.scaffoldText = some text ∧ content.asText = .text text := by
    simp [hcontent]
  rw [ends_openAt hp hD hQ, hkept]
  simp only [hparts, false_and, not_false_eq_true, true_and, false_or]
  cases hpackage : p.package with
  | none =>
    have hscaffold := ends_scaffold_keeping_iff hat hshape hlibrary hpackage
    simpa [canComplete_iff, and_assoc] using hscaffold
  | some info =>
    have hscaffold := ends_scaffoldPackage_keeping_iff hat hshape hlibrary hstart
      (by rw [hpackage]; rfl) hname hgiven
    simpa [canComplete_iff, and_assoc] using hscaffold

end Keeping

/-- A host with a project in its current directory that lacks the directory for the output. -/
def hostWithout (projectFile : String) : State :=
  quietHost (.dir [
    ("resources", .dir [("pkg_template.py", .plain (.resource .packageStart)),
      ("vex.py", .plain (.resource .deviceLibrary))]),
    ("work", .dir [("dishpy.toml", .plain (.text projectFile)),
      ("src", .dir [("main.py", .plain (.text "speed = 1\n")),
        ("vex", .dir [("__init__.py", .plain (.resource .deviceLibrary))])])])]) ["work"]

theorem hasResource_hostWithout (projectFile : String) :
    HasResource (hostWithout projectFile) .deviceLibrary
      ∧ HasResource (hostWithout projectFile) .packageStart :=
  ⟨⟨["resources", "vex.py"], rfl, rfl⟩, ⟨["resources", "pkg_template.py"], rfl, rfl⟩⟩

theorem not_hasParts_hostWithout (projectFile : String) :
    ¬ HasParts (hostWithout projectFile).files ["work"] := by
  intro hparts
  exact nomatch hparts [".out"] (by decide)

/-- The project that a project file with a name, a slot and maybe more describes. -/
def robot : Project := ⟨.here, some (.text "Robot"), some (.integer 1), none⟩

/-- Does a project file give the name and the slot of the robot, and no package? -/
def namesRobot (result : Except ReadError Entries) : Bool :=
  match result with
  | .ok config =>
    match settings config "project" "name" "slot", settings config "package" "package_name" "version" with
    | some (some (.text name, .integer slot)), some none => name = "Robot" && slot = 1
    | _, _ => false
  | .error _ => false

theorem settings_of_namesRobot (h : namesRobot (read projectFile) = true) :
    ∃ config, read projectFile = .ok config
      ∧ settings config "project" "name" "slot" = some (some (.text "Robot", .integer 1))
      ∧ settings config "package" "package_name" "version" = some none := by
  unfold namesRobot at h
  split at h
  · rename_i config hread
    split at h
    · rename_i name slot hproject hpackage
      obtain ⟨rfl, rfl⟩ : name = "Robot" ∧ slot = 1 := by simpa using h
      exact ⟨config, hread, hproject, hpackage⟩
    · exact nomatch h
  · exact nomatch h

theorem describes_robot (h : namesRobot (read projectFile) = true) :
    Describes (hostWithout projectFile) .here robot := by
  obtain ⟨config, hread, hproject, hpackage⟩ := settings_of_namesRobot h
  have hat : (hostWithout projectFile).At .here ["work"] := ⟨rfl, rfl⟩
  unfold Describes
  rw [ends_bind, ends_readConfig hat rfl]
  exact ⟨projectFile, config, rfl, hread, ends_ofConfig.mpr ⟨_, _, _, hproject, hpackage, rfl⟩⟩

/-- A project file as scaffolding writes it. -/
def plainFile : String := "[project]\nname = \"Robot\"\nslot = 1\n"

/-- A project file that names a dependency. -/
def dependentFile : String :=
  "[project]\nname = \"Robot\"\nslot = 1\n\n[dependencies]\ngears = \"0.1.0\"\n"

theorem robot_files : robot.scaffoldText = some plainFile ∧ namesRobot (read plainFile) = true
    ∧ namesRobot (read dependentFile) = true := by
  decide +kernel

/-- Opening a project that names a dependency and lacks the directory for the output does not keep
all files: the project file loses the dependency. -/
theorem openAt_forgets_dependencies :
    Describes (hostWithout dependentFile) .here robot
      ∧ ¬ Ends (openAt .here) (hostWithout dependentFile) fun q t =>
          q = robot ∧ HasParts t.files ["work"] ∧ (hostWithout dependentFile).files.KeepsFiles t.files := by
  obtain ⟨hlibrary, hstart⟩ := hasResource_hostWithout dependentFile
  have hdescribes := describes_robot robot_files.2.2
  have hD : (hostWithout dependentFile).resolve .here = .ok ["work"] := rfl
  refine ⟨hdescribes, ?_⟩
  rw [ends_openAt_keeping_iff hlibrary hstart hD hdescribes (not_hasParts_hostWithout _)]
  rintro ⟨-, -, ⟨content, text, hcontent, htext, hsame⟩, -⟩
  obtain rfl : Content.text dependentFile = content := Option.some.inj hcontent
  rw [robot_files.1] at htext
  obtain rfl := Option.some.inj htext
  exact absurd (Content.text.inj hsame) (by decide)

/-- Opening a project ends well with all parts there and all files kept exactly if no part was
missing, or if the entry file is there, no file stands in the place of the library, the project
file reads as scaffolding writes it, and the first script of a package has a place that is free or
holds it already. -/
theorem openAt_keeps_files_iff {p : Project} (hlibrary : HasResource s .deviceLibrary)
    (hstart : HasResource s .packageStart) (hD : s.resolve directory = .ok D)
    (hp : Describes s directory p) :
    Ends (openAt directory) s
        (fun q t => q = p ∧ HasParts t.files D ∧ s.files.KeepsFiles t.files)
      ↔ HasParts s.files D
        ∨ ((s.files.shapeAt (D ++ ["src", "main.py"])).isSome
          ∧ (∀ content, s.files.shapeAt (D ++ ["src", "vex"]) ≠ some (.file content))
          ∧ (∃ content text, s.files.contentAt (fileIn D) = some content
            ∧ p.scaffoldText = some text ∧ content.asText = .text text)
          ∧ (p.package.isSome → ∀ name, p.name = some (.text name) → KeepsStart s.files D name)) := by
  by_cases hparts : HasParts s.files D
  · refine iff_of_true ?_ (.inl hparts)
    have hkeeps : s.files.KeepsFiles s.files := fun _ content hcontent => ⟨content, hcontent, rfl⟩
    exact (ends_openAt hp hD fun _ _ _ => Iff.rfl).mpr (.inl ⟨hparts, rfl, hparts, hkeeps⟩)
  · rw [ends_openAt_keeping_iff hlibrary hstart hD hp hparts, or_iff_right hparts]

/-- A project whose file is as scaffolding writes it gets its output directory, and all files stay
as they were. -/
theorem openAt_plain_robot_keeps_files :
    Ends (openAt .here) (hostWithout plainFile) fun q t =>
      q = robot ∧ HasParts t.files ["work"] ∧ (hostWithout plainFile).files.KeepsFiles t.files := by
  obtain ⟨hlibrary, hstart⟩ := hasResource_hostWithout plainFile
  have hD : (hostWithout plainFile).resolve .here = .ok ["work"] := rfl
  exact (openAt_keeps_files_iff hlibrary hstart hD (describes_robot robot_files.2.1)).mpr
    (.inr ⟨rfl, fun _ => nofun, ⟨_, _, rfl, robot_files.1, rfl⟩, nofun⟩)

end RobotKit.Project
