import RobotKit.Proofs.Scoping

/-!
# What imports bring

An import of a file of the project brings names or, as attributes of a module, symbols of that file.
In the combined script the imports are gone, so each use of what they bring should be spelled like
the symbol. It is for plain names that the deciding import takes from the file of the symbol, and
for nothing else (`combine_resolves_import_iff`): a name that is bound by `as`, an attribute of a
module, and the names of any wildcard but the last one stay as they are.
-/

namespace RobotKit.Link

open List RobotKit.Script

variable {project : Project} {file n : String}

/-! ## Uses of imports -/

/-- Does the import stand in the script of the file, at any depth? -/
def Project.Imports (project : Project) (file : String) (i : Import) : Prop :=
  ∃ body, project.read file = some body ∧ i.Within body

/-- A dotted name as an expression. -/
def dottedExpr : List String → Expr
  | [] => .name ""
  | first :: rest => rest.foldl .attribute (.name first)

/-- The expression that stands for a module after its import. -/
def moduleExpr (a : Alias) : Expr :=
  dottedExpr (a.boundAs.elim (splitDots a.name) fun name => [name])

/-- Does an import of the file bring the symbol under this expression? -/
inductive Project.Brings (project : Project) (file : String) : Expr → Origin → Prop
  | named {source : Option String} {aliases : List Alias} {level : Nat} {path : String} {a : Alias}
      (himports : project.Imports file (.names source aliases level))
      (hleads : (Import.names source aliases level).LeadsTo (moduleMap project.files) file path)
      (ha : a ∈ aliases) (hdeclares : project.Declares path a.name) :
      project.Brings file (.name (a.boundAs.getD a.name)) ⟨path, a.name⟩
  | wildcard {source : Option String} {aliases : List Alias} {level : Nat} {path n : String}
      (himports : project.Imports file (.names source aliases level))
      (hleads : (Import.names source aliases level).LeadsTo (moduleMap project.files) file path)
      (ha : ⟨"*", none⟩ ∈ aliases) (hdeclares : project.Declares path n) :
      project.Brings file (.name n) ⟨path, n⟩
  | module {aliases : List Alias} {path n : String} {a : Alias}
      (himports : project.Imports file (.modules aliases)) (ha : a ∈ aliases)
      (hdevice : isDeviceModule a.name = false)
      (hget : (moduleMap project.files).get? a.name = some path)
      (hdeclares : project.Declares path n) :
      project.Brings file (.attribute (moduleExpr a) n) ⟨path, n⟩

theorem Project.Brings.declares {use : Expr} {symbol : Origin}
    (h : project.Brings file use symbol) : project.Declares symbol.file symbol.name := by
  cases h with
  | named _ _ _ hdeclares => exact hdeclares
  | wildcard _ _ _ hdeclares => exact hdeclares
  | module _ _ _ _ hdeclares => exact hdeclares

theorem Project.Brings.eq_name_or_attribute {use : Expr} {symbol : Origin}
    (h : project.Brings file use symbol) :
    (∃ n, use = .name n) ∨ ∃ value field, use = .attribute value field := by
  cases h with
  | named => exact .inl ⟨_, rfl⟩
  | wildcard => exact .inl ⟨_, rfl⟩
  | module => exact .inr ⟨_, _, rfl⟩

/-- The use is the name of the symbol, and the import that decides takes it from the file of the
symbol; or the combination leaves the use alone, and it is spelled like the symbol anyway, as the
symbols of the entry file are. -/
def Project.Resolves (project : Project) (file : String) (use : Expr) (symbol : Origin) : Prop :=
  ∃ n, use = .name n ∧
    (n = symbol.name ∧ symbol.file ≠ project.entry ∧ project.TakesFrom file n symbol.file ∨
      n = project.spelling symbol ∧ ¬ project.Takes file n)

/-! ## How uses are spelled -/

theorem Project.MarksDistinct.imported?_markedName (hmarks : project.MarksDistinct)
    (file relative n : String) :
    (project.analysis.scopeOf file).imported? (markedName relative n) = none := by
  rw [imported?_scopeOf, Option.bind_eq_none_iff]
  intro origin horigin
  rw [name_of_get?_originsOf horigin]
  exact hmarks.newName?_markedName _ _ _ _

theorem Project.declared?_of_not_declares (hown : ¬ project.Declares file n) :
    (project.analysis.scopeOf file).declared? n = none := by
  rw [declared?_scopeOf]
  exact newName?_eq_none (.inr hown)

theorem Project.reference_of_not_declares (hown : ¬ project.Declares file n) :
    (project.analysis.scopeOf file).reference n
      = ((project.analysis.scopeOf file).imported? n).getD n := by
  rw [Scope.reference, declared?_of_not_declares hown, Option.or_none]

theorem Project.hint_of_not_declares (hown : ¬ project.Declares file n) :
    (project.analysis.scopeOf file).hint n
      = ((project.analysis.scopeOf file).imported? n).getD n := by
  rw [Scope.hint, declared?_of_not_declares hown, Table.contains_eq_isSome]
  change (if ((project.originsOf file).get? n).isSome = true then _ else _) = _
  cases horigin : (project.originsOf file).get? n with
  | none =>
    rw [imported?_scopeOf, horigin]
    rfl
  | some origin => rfl

/-- A name that the file does not declare follows its import, in every role but one. -/
theorem Project.MarksDistinct.rule_of_not_declares (hmarks : project.MarksDistinct)
    (hown : ¬ project.Declares file n) {role : Role} (hrole : role ≠ .definition) :
    (project.analysis.scopeOf file).rule role n
      = ((project.analysis.scopeOf file).imported? n).getD n := by
  -- what an import has renamed is a marked name, which a second rule leaves alone
  have htwice : ∀ f : String → String, (∀ m, ¬ project.Declares file m →
      f m = ((project.analysis.scopeOf file).imported? m).getD m) →
      f ((project.analysis.scopeOf file).hint n)
        = ((project.analysis.scopeOf file).imported? n).getD n := by
    intro f hf
    rw [hint_of_not_declares hown]
    cases himported : (project.analysis.scopeOf file).imported? n with
    | none => rw [Option.getD_none, hf n hown, himported, Option.getD_none]
    | some new =>
      rw [imported?_scopeOf] at himported
      obtain ⟨origin, -, hnew⟩ := Option.bind_eq_some_iff.mp himported
      obtain ⟨-, -, rfl⟩ := newName?_eq_some_iff.mp hnew
      rw [Option.getD_some, hf _ (hmarks.not_declares_markedName _ _ _),
        hmarks.imported?_markedName, Option.getD_none]
  cases role with
  | value => exact reference_of_not_declares hown
  | hint => exact htwice _ fun m hm => reference_of_not_declares hm
  | paramHint => exact hint_of_not_declares hown
  | ordinaryHint => exact htwice _ fun m hm => hint_of_not_declares hm
  | definition => exact absurd rfl hrole

/-- Following the import of a name gives the spelling of a symbol exactly if the use resolves to
it. -/
theorem Project.MarksDistinct.imported?_getD_eq_spelling_iff (hmarks : project.MarksDistinct)
    (hscanned : file ∈ project.analysis.scan.scanned) {symbol : Origin}
    (hsymbol : project.Declares symbol.file symbol.name) :
    ((project.analysis.scopeOf file).imported? n).getD n = project.spelling symbol
      ↔ project.Resolves file (.name n) symbol := by
  have hresolves : project.Resolves file (.name n) symbol
      ↔ n = symbol.name ∧ symbol.file ≠ project.entry ∧ project.TakesFrom file n symbol.file ∨
        n = project.spelling symbol ∧ ¬ project.Takes file n := by
    simp [Resolves]
  rw [hresolves]
  cases himported : (project.analysis.scopeOf file).imported? n with
  | none =>
    have hnot : ¬ project.Takes file n := by
      rw [← imported?_isSome_iff hscanned, himported]
      simp
    rw [Option.getD_none]
    refine ⟨fun heq => .inr ⟨heq, hnot⟩, ?_⟩
    rintro (⟨rfl, hentry, htakes⟩ | ⟨heq, -⟩)
    · exact absurd ⟨symbol.file, htakes, hentry, hsymbol⟩ hnot
    · exact heq
  | some new =>
    obtain ⟨path, htakes, hentry, hdeclares, rfl⟩ := (imported?_eq_some_iff hscanned).mp himported
    have hspelling : markedName (project.relative path) n = project.spelling ⟨path, n⟩ :=
      (if_neg hentry).symm
    rw [Option.getD_some, hspelling, hmarks.spelling_inj hdeclares hsymbol]
    constructor
    · rintro rfl
      exact .inl ⟨rfl, hentry, htakes⟩
    · rintro (⟨rfl, -, htakes'⟩ | ⟨-, hnot⟩)
      · rw [htakes.unique hscanned htakes']
      · exact absurd ⟨path, htakes, hentry, hdeclares⟩ hnot

/-! ## How symbols are bound -/

/-- Does the statement give the name to a function or a class, or assign to it? -/
def Defines (n : String) (s : Stmt) : Prop :=
  s.definedName? = some n ∨ ∃ target ∈ s.boundTargets, target.Sets n

/-- A chunk that defines a name of its file binds the spelling of the symbol, unless the file
imports the name as well. -/
theorem Project.binds_linked_of_defines {q : Piece} (hdeclares : project.Declares q.file n)
    (himported : (project.originsOf q.file).get? n = none) (h : Defines n q.statement) :
    (project.analysis.linked q).Binds (project.spelling ⟨q.file, n⟩) := by
  have hspelling : ((project.analysis.scopeOf q.file).newName? q.file n).getD n
      = project.spelling ⟨q.file, n⟩ := newName?_getD hdeclares
  rcases h with hname | ⟨target, htarget, hsets⟩
  · refine .definition ?_
    unfold Analysis.linked
    rw [definedName?_renameStmt, hname, Option.map_some, Scope.definition, declared?_scopeOf,
      hspelling]
  · have hmem : target.mapNames (project.analysis.scopeOf q.file).reference
        ∈ (project.analysis.linked q).boundTargets := by
      unfold Analysis.linked
      rw [boundTargets_renameStmt]
      exact mem_map_of_mem htarget
    refine .target hmem ?_
    rw [← hspelling, ← reference_of_not_imported himported]
    exact hsets.mapNames

/-- A use of what an import brings, in a chunk of a file that does not declare the name itself, is
spelled like the symbol in the combined script exactly if it resolves to it. The symbol is bound
under that spelling, unless its own file imports the name as well. -/
theorem combine_resolves_import_iff {result : Combined} (h : project.combine = .ok result)
    (hmarks : project.MarksDistinct) {p : Piece} (hp : p ∈ project.written) {use : Expr}
    {symbol : Origin} (hbrings : project.Brings p.file use symbol)
    (hown : ∀ n, use = .name n → ¬ project.Declares p.file n) :
    result.Consists project.analysis.scan.external
        (project.written.map project.analysis.linked) ∧
      (∀ (k : Nat) place, (p.statement.places [])[k]? = some place → place.role ≠ .definition →
        place.node = use →
        ∃ place', ((project.analysis.linked p).places [])[k]? = some place' ∧
          (place'.node = .name (project.spelling symbol)
            ↔ project.Resolves p.file use symbol)) ∧
      ∀ q ∈ project.written, q.file = symbol.file → Defines symbol.name q.statement →
        (project.originsOf q.file).get? symbol.name = none →
        (project.analysis.linked q).Binds (project.spelling symbol) := by
  have hsymbol := hbrings.declares
  refine ⟨project.consists_combine h, ?_, ?_⟩
  · intro k place hplace hrole huse
    obtain ⟨place', hplace', hnode⟩ := project.exists_place_linked hplace
    refine ⟨place', hplace', ?_⟩
    rw [hnode, huse]
    rcases hbrings.eq_name_or_attribute with ⟨n, rfl⟩ | ⟨value, field, rfl⟩
    · have hscanned := (Project.mem_pieces.mp (Project.mem_pieces_of_mem_written hp)).1.1
      rw [Scope.renameAs_name, Expr.name.injEq, hmarks.rule_of_not_declares (hown n rfl) hrole]
      exact hmarks.imported?_getD_eq_spelling_iff hscanned hsymbol
    · rw [Scope.renameAs_attribute]
      simp [Project.Resolves]
  · rintro q - hfile hdefines himported
    obtain ⟨symbolFile, name⟩ := symbol
    obtain rfl : q.file = symbolFile := hfile
    exact Project.binds_linked_of_defines hsymbol himported hdefines

/-- A call that uses an attribute of a module, a name bound by `as`, and names of two wildcards. -/
def collectingCall : Stmt :=
  .expression (.call (.name "print") [.attribute (.name "arm") "height", .name "r", .name "port",
    .name "speed"] [])

/-- An entry file that imports from four files in different ways. -/
def collecting : Project where
  directory := ["work"]
  entry := "/work/main.py"
  files := [⟨"arm.py", "/work/arm.py"⟩, ⟨"gears.py", "/work/gears.py"⟩,
    ⟨"left.py", "/work/left.py"⟩, ⟨"main.py", "/work/main.py"⟩, ⟨"right.py", "/work/right.py"⟩]
  read := fun file =>
    if file = "/work/main.py" then
      some [.imports [⟨"arm", none⟩], .importFrom (some "gears") [⟨"ratio", some "r"⟩] 0,
        .importFrom (some "left") [⟨"*", none⟩] 0, .importFrom (some "right") [⟨"*", none⟩] 0,
        collectingCall]
    else if file = "/work/arm.py" then some [setTo "height" 1]
    else if file = "/work/gears.py" then some [setTo "ratio" 2]
    else if file = "/work/left.py" then some [setTo "port" 3]
    else if file = "/work/right.py" then some [setTo "speed" 4]
    else none

/-- The piece with the call. -/
def callPiece : Piece := mainPiece (expressionName 4) 4 collectingCall

/-- The piece with the variable of the last wildcard. -/
def rightPiece : Piece :=
  ⟨symbolKey "/work/right.py" "speed", "/work/right.py", 0, setTo "speed" 4⟩

theorem combine_collecting :
    collecting.combine.toOption.isSome ∧
      collecting.analysis.scan.scanned = ["/work/main.py", "/work/arm.py", "/work/gears.py",
        "/work/left.py", "/work/right.py"] ∧
      collecting.Unambiguous ∧
      (∀ p ∈ [callPiece, rightPiece], (p.symbol, p.file, p.index) ∈ collecting.places) ∧
      collecting.taken "/work/main.py" = [⟨"/work/gears.py", "ratio"⟩, ⟨"/work/left.py", "*"⟩,
        ⟨"/work/right.py", "*"⟩] ∧
      collecting.analysis.scan.namesOf "/work/main.py" = [expressionName 4] ∧
      (["arm", "gears", "left", "right"].map (moduleMap collecting.files).get?)
        = [some "/work/arm.py", some "/work/gears.py", some "/work/left.py",
          some "/work/right.py"] ∧
      "height" ∈ collecting.analysis.scan.namesOf "/work/arm.py" ∧
      "ratio" ∈ collecting.analysis.scan.namesOf "/work/gears.py" ∧
      "port" ∈ collecting.analysis.scan.namesOf "/work/left.py" ∧
      "speed" ∈ collecting.analysis.scan.namesOf "/work/right.py" ∧
      (collecting.originsOf "/work/right.py").get? "speed" = none ∧
      ((collecting.analysis.linked callPiece).places []).map (nameOf? ·.node)
        = [none, some "print", none, some "arm", some "r", some "port",
          some "mod_639be27b_speed"] := by
  decide +kernel

theorem written_collecting : ∀ p ∈ [callPiece, rightPiece], p ∈ collecting.written := by
  obtain ⟨-, hscanned, -, hplaces, -⟩ := combine_collecting
  intro p hp
  refine Project.mem_written_of_mem_places ?_ (hplaces p hp)
  simp only [mem_cons, not_mem_nil, or_false] at hp
  rcases hp with rfl | rfl
  · exact ⟨by rw [hscanned]; decide, _, rfl, rfl⟩
  · exact ⟨by rw [hscanned]; decide, _, rfl, rfl⟩

theorem not_declares_collecting {n : String} (h : n ≠ expressionName 4) :
    ¬ collecting.Declares "/work/main.py" n := by
  obtain ⟨-, -, -, -, -, hnames, -⟩ := combine_collecting
  intro hdeclares
  have hmem := Project.mem_namesOf.mpr hdeclares
  rw [hnames, mem_singleton] at hmem
  exact h hmem

theorem places_callPiece :
    callPiece.statement.places [] = [⟨.value, .call (.name "print")
        [.attribute (.name "arm") "height", .name "r", .name "port", .name "speed"] [], []⟩,
      ⟨.value, .name "print", []⟩, ⟨.value, .attribute (.name "arm") "height", []⟩,
      ⟨.value, .name "arm", []⟩, ⟨.value, .name "r", []⟩, ⟨.value, .name "port", []⟩,
      ⟨.value, .name "speed", []⟩] := by
  rw [Stmt.places_eq]
  simp [callPiece, mainPiece, collectingCall, Stmt.ownPlaces, Stmt.given, Stmt.exprs,
    Stmt.signature, Stmt.values, Stmt.blocks]

/-- What the imports bring: an attribute, a name bound by `as`, and a name of each wildcard. -/
theorem brings_collecting :
    collecting.Brings "/work/main.py" (.attribute (.name "arm") "height")
        ⟨"/work/arm.py", "height"⟩ ∧
      collecting.Brings "/work/main.py" (.name "r") ⟨"/work/gears.py", "ratio"⟩ ∧
      collecting.Brings "/work/main.py" (.name "port") ⟨"/work/left.py", "port"⟩ ∧
      collecting.Brings "/work/main.py" (.name "speed") ⟨"/work/right.py", "speed"⟩ := by
  obtain ⟨-, -, -, -, -, -, hmodules, harm, hgears, hleft, hright, -⟩ := combine_collecting
  simp only [map_cons, map_nil, List.cons.injEq, and_true] at hmodules
  obtain ⟨hget, hgetGears, hgetLeft, hgetRight⟩ := hmodules
  have himports : ∀ s ∈ (collecting.read "/work/main.py").getD [], ∀ i, importOf? s = some i →
      collecting.Imports "/work/main.py" i := fun s hs i hi => ⟨_, rfl, .here hs hi⟩
  refine ⟨?_, ?_, ?_, ?_⟩
  · exact .module (a := ⟨"arm", none⟩) (himports _ (.head _) _ rfl) (.head _) (by decide) hget
      (Project.mem_namesOf.mp harm)
  · exact .named (a := ⟨"ratio", some "r"⟩) (himports _ (.tail _ (.head _)) _ rfl)
      (.source (by decide) (.direct hgetGears)) (.head _) (Project.mem_namesOf.mp hgears)
  · exact .wildcard (himports _ (.tail _ (.tail _ (.head _))) _ rfl)
      (.source (by decide) (.direct hgetLeft)) (.head _) (Project.mem_namesOf.mp hleft)
  · exact .wildcard (himports _ (.tail _ (.tail _ (.tail _ (.head _)))) _ rfl)
      (.source (by decide) (.direct hgetRight)) (.head _) (Project.mem_namesOf.mp hright)

/-- In the script of these files the attribute, the name bound by `as` and the name of the first
wildcard are not spelled like their symbols, though the entry file declares none of the names. -/
theorem combine_collecting_leaves_imports :
    ∃ result, collecting.combine = .ok result ∧
      result.Consists collecting.analysis.scan.external
        (collecting.written.map collecting.analysis.linked) ∧
      collecting.MarksDistinct ∧ callPiece ∈ collecting.written ∧
      ∀ x ∈ [(2, Expr.attribute (.name "arm") "height", Origin.mk "/work/arm.py" "height"),
          (4, .name "r", ⟨"/work/gears.py", "ratio"⟩),
          (5, .name "port", ⟨"/work/left.py", "port"⟩)],
        collecting.Brings callPiece.file x.2.1 x.2.2 ∧
          (∀ n, x.2.1 = .name n → ¬ collecting.Declares callPiece.file n) ∧
          (callPiece.statement.places [])[x.1]? = some ⟨.value, x.2.1, []⟩ ∧
          ∃ place', ((collecting.analysis.linked callPiece).places [])[x.1]? = some place' ∧
            place'.node ≠ .name (collecting.spelling x.2.2) := by
  obtain ⟨hcombine, -, hunambiguous, -, -, -, -, -, -, -, -, -, hnames⟩ := combine_collecting
  obtain ⟨harm, hr, hport, -⟩ := brings_collecting
  obtain ⟨result, hok⟩ := Host.exists_eq_ok_of_isSome hcombine
  refine ⟨result, hok, collecting.consists_combine hok, hunambiguous.toMarksDistinct,
    written_collecting _ (by simp), ?_⟩
  have hafter : ∀ (k : Nat) name, (((collecting.analysis.linked callPiece).places []).map
      (nameOf? ·.node))[k]? = some name → ∀ symbol, name ≠ some (collecting.spelling symbol) →
      ∃ place', ((collecting.analysis.linked callPiece).places [])[k]? = some place' ∧
        place'.node ≠ .name (collecting.spelling symbol) := by
    intro k name hk symbol hne
    rw [getElem?_map] at hk
    obtain ⟨place', hplace', rfl⟩ := Option.map_eq_some_iff.mp hk
    exact ⟨place', hplace', fun hnode => hne (nameOf?_eq_some_iff.mpr hnode)⟩
  rw [hnames] at hafter
  intro x hx
  simp only [mem_cons, not_mem_nil, or_false] at hx
  rcases hx with rfl | rfl | rfl
  · refine ⟨harm, ?_, by rw [places_callPiece]; rfl, hafter 2 none rfl _ (by simp)⟩
    rintro n ⟨⟩
  · refine ⟨hr, ?_, by rw [places_callPiece]; rfl, hafter 4 (some "r") rfl _ (by decide +kernel)⟩
    rintro _ ⟨⟩
    exact not_declares_collecting (by decide)
  · refine ⟨hport, ?_, by rw [places_callPiece]; rfl,
      hafter 5 (some "port") rfl _ (by decide +kernel)⟩
    rintro _ ⟨⟩
    exact not_declares_collecting (by decide)

/-- The name of the last wildcard is spelled like its symbol, which is bound so. -/
theorem combine_collecting_resolves_last_wildcard :
    ∃ result, collecting.combine = .ok result ∧ callPiece ∈ collecting.written ∧
      (∃ place', ((collecting.analysis.linked callPiece).places [])[6]? = some place' ∧
        place'.node = .name (collecting.spelling ⟨"/work/right.py", "speed"⟩)) ∧
      (collecting.analysis.linked rightPiece).Binds
        (collecting.spelling ⟨"/work/right.py", "speed"⟩) := by
  obtain ⟨hcombine, -, hunambiguous, -, htaken, -, -, -, -, -, hright, hnone, -⟩ :=
    combine_collecting
  obtain ⟨-, -, -, hbrings⟩ := brings_collecting
  obtain ⟨result, hok⟩ := Host.exists_eq_ok_of_isSome hcombine
  have hcall := written_collecting callPiece (by simp)
  have hown : ∀ n, Expr.name "speed" = .name n → ¬ collecting.Declares callPiece.file n := by
    rintro _ ⟨⟩
    exact not_declares_collecting (by decide)
  have hresolves : collecting.Resolves "/work/main.py" (.name "speed")
      ⟨"/work/right.py", "speed"⟩ := by
    refine ⟨_, rfl, .inl ⟨rfl, by decide, .wildcard ?_ (Project.mem_namesOf.mp hright)⟩⟩
    refine ⟨.inl rfl, [⟨"/work/gears.py", "ratio"⟩, ⟨"/work/left.py", "*"⟩], [], htaken, ?_⟩
    simp
  obtain ⟨-, hplaces, hbinds⟩ :=
    combine_resolves_import_iff hok hunambiguous.toMarksDistinct hcall hbrings hown
  obtain ⟨place', hplace', hiff⟩ :=
    hplaces 6 ⟨.value, .name "speed", []⟩ (by rw [places_callPiece]; rfl) (by simp) rfl
  refine ⟨result, hok, hcall, ⟨place', hplace', hiff.mpr hresolves⟩, ?_⟩
  exact hbinds rightPiece (written_collecting _ (by simp)) rfl
    (.inr ⟨.name "speed", .head _, .name⟩) hnone

end RobotKit.Link
