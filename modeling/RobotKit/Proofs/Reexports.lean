import RobotKit.Proofs.CombineOrder
import RobotKit.Proofs.Resolution

/-!
# Re-exports

A file that imports a name, and declares nothing under it, hands the name on to the files that take
it from there. The scan records for each file where it takes a name from, but nothing follows the
name further. So a use of the name is spelled like its symbol, and makes the symbol a dependency, if
the name was handed on once, and not if it was handed on more often
(`combine_follows_reexport_iff`).
-/

namespace RobotKit.Link

open List RobotKit.Script

variable {project : Project} {file path n : String}

/-! ## Names in texts are words -/

/-- Do the scripts of the project come from texts? -/
def Project.ReadsTexts (project : Project) : Prop :=
  ∀ file body, project.read file = some body → ∃ text, parse text = .ok body

/-- An import inside a text is a statement with words for names. -/
theorem Import.Within.declaresWords {i : Import} {block : List Stmt} (h : i.Within block)
    (hblock : ∀ s ∈ block, s.WellRead) : ∃ s, importOf? s = some i ∧ s.DeclaresWords := by
  induction h with
  | here hs himport => exact ⟨_, himport, (hblock _ hs).words⟩
  | inside hs hinner _ ih => exact ih ((hblock _ hs).inner _ hinner)

section

variable (htexts : project.ReadsTexts)
include htexts

theorem Project.ReadsTexts.isWord_of_declares (h : project.Declares file n) : IsWord n := by
  obtain ⟨-, body, hread, d, hd, rfl⟩ := h
  obtain ⟨text, hparse⟩ := htexts file body hread
  exact Link.isWord_of_declares hparse hd

theorem Project.ReadsTexts.isWord_of_mem_taken {o : Origin} (h : o ∈ project.taken file)
    (hname : ¬ o.IsWildcard) : IsWord o.name := by
  obtain ⟨i, hi, ho⟩ := mem_flatMap.mp h
  obtain ⟨source, aliases, level, rfl, -, a, ha, haname⟩ := Import.mem_takes.mp ho
  cases hread : project.read file with
  | none => simp [hread, importsOf, blockLevels] at hi
  | some body =>
    rw [hread, Option.getD_some, mem_importsOf] at hi
    obtain ⟨text, hparse⟩ := htexts file body hread
    obtain ⟨s, himport, hwords⟩ := hi.declaresWords (wellRead_of_parse hparse)
    cases s with
    | importFrom =>
      cases himport
      rcases (hwords.2 a ha).1 with hstar | hword
      · exact absurd (.inl (haname.symm.trans hstar)) hname
      · exact haname ▸ hword
    | _ => cases himport

theorem Project.ReadsTexts.isWord_of_takesFrom (h : project.TakesFrom file n path) : IsWord n := by
  cases h with
  | wildcard _ hdeclares => exact htexts.isWord_of_declares hdeclares
  | named hname hlast =>
    obtain ⟨-, before, after, htaken, -⟩ := hlast
    have hmem : ⟨path, n⟩ ∈ project.taken file := by simp [htaken]
    exact htexts.isWord_of_mem_taken hmem hname

end

/-! ## What a symbol depends on -/

theorem mem_foldl_addName {d : String} (needed before : List String) :
    d ∈ needed.foldl addName before ↔ d ∈ before ∨ d ∈ needed := by
  induction needed generalizing before with
  | nil => simp
  | cons name rest ih => simp [ih, or_assoc]

/-- If each step of a fold adds to the lists of a table, the fold adds what its steps add. -/
theorem mem_foldl_get? {α : Type} {f : Table (List String) → α → Table (List String)}
    {R : α → String → String → Prop}
    (hstep : ∀ t a symbol d, d ∈ ((f t a).get? symbol).getD []
      ↔ d ∈ (t.get? symbol).getD [] ∨ R a symbol d)
    (items : List α) (t : Table (List String)) (symbol d : String) :
    d ∈ ((items.foldl f t).get? symbol).getD []
      ↔ d ∈ (t.get? symbol).getD [] ∨ ∃ a ∈ items, R a symbol d := by
  induction items generalizing t with
  | nil => simp
  | cons a rest ih => simp [ih, hstep, or_assoc]

theorem mem_symbolsOf {origins : Table Origin} {declared names : List String} {d : String} :
    d ∈ symbolsOf origins declared file names ↔ ∃ name ∈ names,
      (∃ o, origins.get? name = some o ∧ d = symbolKey o.file o.name) ∨
        origins.get? name = none ∧ name ∈ declared ∧ d = symbolKey file name := by
  simp only [symbolsOf, mem_distinct, mem_filterMap]
  refine exists_congr fun name => and_congr_right fun _ => ?_
  cases horigin : origins.get? name with
  | none => simp [eq_comm]
  | some o => simp [eq_comm]

/-- Does the top-level statement at an index of a file declare the symbol? -/
def Project.SymbolAt (project : Project) (symbol file : String) (index : Nat) (s : Stmt) : Prop :=
  project.TopLevel file index s ∧
    ∃ d ∈ declarations (file = project.entry) index s, symbol = symbolKey file d.name

theorem Project.SymbolAt.exists_declares {symbol : String} {index : Nat} {s : Stmt}
    (h : project.SymbolAt symbol file index s) :
    ∃ name, project.Declares file name ∧ symbol = symbolKey file name := by
  obtain ⟨⟨hscanned, body, hread, hs⟩, d, hd, rfl⟩ := h
  refine ⟨d.name, ⟨hscanned, body, hread, d, ?_, rfl⟩, rfl⟩
  exact mem_flatMap.mpr ⟨(s, index), mk_mem_zipIdx_iff_getElem?.mpr hs, hd⟩

theorem Project.symbolAt_of_mem_pieces {p : Piece} (h : p ∈ project.pieces) :
    project.SymbolAt p.symbol p.file p.index p.statement := by
  obtain ⟨htop, hkey⟩ := mem_pieces.mp h
  obtain ⟨d, hd, hsymbol⟩ := Option.map_eq_some_iff.mp hkey
  exact ⟨htop, d, mem_of_mem_head? hd, hsymbol.symm⟩

/-- A symbol depends on what the statements that declare it read. -/
theorem Project.mem_dependenciesOf {symbol d : String} :
    d ∈ project.dependenciesOf symbol ↔ ∃ file index s, project.SymbolAt symbol file index s ∧
      d ∈ symbolsOf (project.originsOf file) (project.analysis.scan.namesOf file) file
        (definingLoads s) := by
  -- three folds: over the files, over their statements, over the names that a statement declares
  have hnames (file : String) (needed : List String) := mem_foldl_get?
    (f := fun deps (d : Declaration) => deps.update (symbolKey file d.name) []
      (needed.foldl addName ·))
    (R := fun d symbol x => symbol = symbolKey file d.name ∧ x ∈ needed) (by
      intro t d symbol x
      by_cases h : symbol = symbolKey file d.name <;> simp [h, mem_foldl_addName])
  have hstatements (file : String) := mem_foldl_get?
    (f := fun deps (x : Stmt × Nat) => (declarations (file = project.entry) x.2 x.1).foldl
      (fun deps d => deps.update (symbolKey file d.name) [] ((symbolsOf (project.originsOf file)
        (project.analysis.scan.namesOf file) file (definingLoads x.1)).foldl addName ·)) deps)
    fun t x => hnames file _ _ t
  have hfiles := mem_foldl_get?
    (fun t file => hstatements file ((project.read file).getD []).zipIdx t)
    (sortNames project.analysis.scan.scanned) {} symbol d
  refine hfiles.trans ?_
  simp only [Table.get?_empty, Option.getD_none, not_mem_nil, false_or, mem_sortNames,
    Prod.exists, mk_mem_zipIdx_iff_getElem?]
  constructor
  · rintro ⟨file, hfile, s, index, hs, decl, hdecl, hsymbol, hd⟩
    cases hread : project.read file with
    | none => simp [hread] at hs
    | some body =>
      rw [hread] at hs
      exact ⟨file, index, s, ⟨⟨hfile, body, hread, hs⟩, decl, hdecl, hsymbol⟩, hd⟩
  · rintro ⟨file, index, s, ⟨⟨hfile, body, hread, hs⟩, decl, hdecl, hsymbol⟩, hd⟩
    exact ⟨file, hfile, s, index, by rw [hread]; exact hs, decl, hdecl, hsymbol, hd⟩

/-! ## Chains -/

theorem exists_isLast {P : Origin → Prop} {taken : List Origin} (h : ∃ o ∈ taken, P o) :
    ∃ o, IsLast P taken o := by
  induction taken using List.reverseRecOn with
  | nil => simp at h
  | append_singleton before o ih =>
    by_cases ho : P o
    · exact ⟨o, ho, before, [], rfl, by simp⟩
    · obtain ⟨x, hx, hpx⟩ := h
      rcases mem_append.mp hx with hx | hx
      · obtain ⟨last, hlast⟩ := ih ⟨x, hx, hpx⟩
        exact ⟨last, (isLast_concat_of_neg ho).mpr hlast⟩
      · exact absurd (mem_singleton.mp hx ▸ hpx) ho

/-- Does the file take the name from the file at the path, and from no other file? -/
structure Project.TakesOnlyFrom (project : Project) (file n path : String) : Prop where
  taken : ⟨path, n⟩ ∈ project.taken file
  named : ∀ o ∈ project.taken file, o.name = n → o.file = path
  wildcards : ∀ o ∈ project.taken file, o.IsWildcard → project.Declares o.file n → o.file = path

theorem Project.TakesOnlyFrom.takesFrom (h : project.TakesOnlyFrom file n path)
    (hname : ¬ Origin.IsWildcard ⟨path, n⟩) : project.TakesFrom file n path := by
  by_cases hwildcard : ∃ other, project.WildcardFrom file other ∧ project.Declares other n
  · obtain ⟨other, hfrom, hdeclares⟩ := hwildcard
    obtain ⟨-, before, after, htaken, -⟩ := id hfrom
    have hpath : other = path :=
      h.wildcards ⟨other, "*"⟩ (by simp [htaken]) (.inl rfl) hdeclares
    exact .wildcard (hpath ▸ hfrom) (hpath ▸ hdeclares)
  · obtain ⟨o, hlast⟩ := exists_isLast (P := (·.name = n)) ⟨_, h.taken, rfl⟩
    obtain ⟨honame, before, after, htaken, -⟩ := id hlast
    have hofile : o.file = path := h.named o (by simp [htaken]) honame
    obtain ⟨ofile, oname⟩ := o
    obtain rfl : ofile = path := hofile
    obtain rfl : oname = n := honame
    exact .named hname hlast fun other hfrom hdeclares => hwildcard ⟨other, hfrom, hdeclares⟩

/-- A file hands a name on to another: a chain of files of which each takes the name from the next
one. The last file declares the name, and no other one does. -/
inductive Project.Reexports (project : Project) (n : String) : String → Nat → String → Prop
  | once {file last : String} (hown : ¬ project.Declares file n)
      (htakes : project.TakesOnlyFrom file n last) (hdeclares : project.Declares last n) :
      project.Reexports n file 1 last
  | again {file next last : String} {times : Nat} (hown : ¬ project.Declares file n)
      (htakes : project.TakesOnlyFrom file n next) (hnext : project.Reexports n next times last) :
      project.Reexports n file (times + 1) last

section

variable {times : Nat} {last : String} (h : project.Reexports n file times last)
include h

theorem Project.Reexports.declares : project.Declares last n := by
  induction h with
  | once _ _ hdeclares => exact hdeclares
  | again _ _ _ ih => exact ih

theorem Project.Reexports.not_declares : ¬ project.Declares file n := by
  cases h with
  | once hown => exact hown
  | again hown => exact hown

theorem Project.Reexports.times_pos : 0 < times := by
  cases h with
  | once => exact Nat.one_pos
  | again => exact Nat.succ_pos _

/-- The file takes the name from the last file of the chain, or from one that does not declare
it. -/
theorem Project.Reexports.exists_takesFrom (hname : n ≠ wildcardName)
    (hword : IsWord n) : ∃ path, project.TakesFrom file n path ∧
      (times = 1 ∧ path = last ∨ times ≠ 1 ∧ ¬ project.Declares path n) := by
  have hnot : ∀ path, ¬ Origin.IsWildcard ⟨path, n⟩ := by
    rintro path (hstar | hmark)
    · obtain rfl : n = "*" := hstar
      exact absurd (hword '*' (by decide)) (by decide)
    · exact hname hmark
  cases h with
  | once _ htakes => exact ⟨last, htakes.takesFrom (hnot last), .inl ⟨rfl, rfl⟩⟩
  | again _ htakes hnext =>
    have := hnext.times_pos
    exact ⟨_, htakes.takesFrom (hnot _), .inr ⟨by omega, hnext.not_declares⟩⟩

variable (htexts : project.ReadsTexts) (hname : n ≠ wildcardName)
  (hscanned : file ∈ project.analysis.scan.scanned)
include htexts hname hscanned

/-- Following the import of the name leads to its symbol if the name was handed on once, otherwise
nowhere. -/
theorem Project.Reexports.imported?_getD :
    ((project.analysis.scopeOf file).imported? n).getD n
      = if times = 1 then project.spelling ⟨last, n⟩ else n := by
  obtain ⟨path, htakes, hpath⟩ :=
    h.exists_takesFrom hname (htexts.isWord_of_declares h.declares)
  have horigin : (project.originsOf file).get? n = some ⟨path, n⟩ :=
    (get?_originsOf_eq_some_iff hscanned).mpr ⟨rfl, htakes⟩
  rw [imported?_scopeOf, horigin, Option.bind_some]
  rcases hpath with ⟨hone, rfl⟩ | ⟨hmore, hnot⟩
  · rw [if_pos hone]
    exact newName?_getD h.declares
  · rw [if_neg hmore, newName?_eq_none (.inr hnot), Option.getD_none]

/-- A symbol of the file depends on the symbol of the name exactly if the name was handed on once
and a statement that declares the symbol reads it. -/
theorem Project.Reexports.mem_dependenciesOf_iff {symbol name : String}
    (hdeclares : project.Declares file name) (hsymbol : symbol = symbolKey file name) :
    symbolKey last n ∈ project.dependenciesOf symbol
      ↔ times = 1 ∧ ∃ index s, project.SymbolAt symbol file index s ∧ n ∈ definingLoads s := by
  have hword := htexts.isWord_of_declares h.declares
  obtain ⟨path, htakes, hpath⟩ := h.exists_takesFrom hname hword
  rw [mem_dependenciesOf]
  constructor
  · rintro ⟨other, index, s, hat, hd⟩
    -- no other file has the symbol, and no other name leads to the symbol of the name
    obtain ⟨name', hdeclares', hsymbol'⟩ := hat.exists_declares
    obtain ⟨rfl, -⟩ := symbolKey_inj (htexts.isWord_of_declares hdeclares)
      (htexts.isWord_of_declares hdeclares') (hsymbol.symm.trans hsymbol')
    obtain ⟨x, hx, ⟨o, horigin, hkey⟩ | ⟨-, hown, hkey⟩⟩ := mem_symbolsOf.mp hd
    · obtain ⟨rfl, htakes'⟩ := (get?_originsOf_eq_some_iff hscanned).mp horigin
      obtain ⟨rfl, rfl⟩ := symbolKey_inj hword (htexts.isWord_of_takesFrom htakes') hkey
      rcases hpath with ⟨hone, -⟩ | ⟨-, hnot⟩
      · exact ⟨hone, index, s, hat, hx⟩
      · exact absurd (htakes.unique hscanned htakes' ▸ h.declares) hnot
    · have hown' := mem_namesOf.mp hown
      obtain ⟨-, rfl⟩ := symbolKey_inj hword (htexts.isWord_of_declares hown') hkey
      exact absurd hown' h.not_declares
  · rintro ⟨hone, index, s, hat, hloads⟩
    rcases hpath with ⟨-, rfl⟩ | ⟨hmore, -⟩
    · refine ⟨file, index, s, hat, mem_symbolsOf.mpr ⟨n, hloads, .inl ⟨⟨path, n⟩, ?_, rfl⟩⟩⟩
      exact (get?_originsOf_eq_some_iff hscanned).mpr ⟨rfl, htakes⟩
    · exact absurd hone hmore

end

/-- Only symbols of the entry file are spelled like their names. -/
theorem Project.spelling_eq_name_iff {symbol : Origin} :
    project.spelling symbol = symbol.name ↔ symbol.file = project.entry := by
  rw [spelling]
  split
  · rename_i hentry
    exact iff_of_true rfl hentry
  · rename_i hentry
    refine iff_of_false (fun heq => ?_) hentry
    have hlt := length_lt_length_markedName (project.relative symbol.file) symbol.name
    simp [heq] at hlt

/-- A use of a name that its file takes from another file, and that one or more files have handed
on, is spelled like the symbol if the name was handed on once, otherwise it is kept. So it is
spelled like the symbol exactly if the name was handed on once or belongs to the entry file, and
only in the first case the symbol is a dependency of those that read the name. The symbol is bound
under its spelling, unless its own file imports the name as well. -/
theorem combine_follows_reexport_iff {result : Combined} (h : project.combine = .ok result)
    (hmarks : project.MarksDistinct) (htexts : project.ReadsTexts) {p : Piece}
    (hp : p ∈ project.written) (hname : n ≠ wildcardName) {times : Nat} {last : String}
    (hchain : project.Reexports n p.file times last) :
    result.Consists project.analysis.scan.external
        (project.written.map project.analysis.linked) ∧
      (∀ (k : Nat) place, (p.statement.places [])[k]? = some place → place.role ≠ .definition →
        place.node = .name n →
        ∃ place', ((project.analysis.linked p).places [])[k]? = some place' ∧
          place'.node = .name (if times = 1 then project.spelling ⟨last, n⟩ else n) ∧
          (place'.node = .name (project.spelling ⟨last, n⟩)
            ↔ times = 1 ∨ last = project.entry)) ∧
      (symbolKey last n ∈ project.dependenciesOf p.symbol ↔ times = 1 ∧
        ∃ index s, project.SymbolAt p.symbol p.file index s ∧ n ∈ definingLoads s) ∧
      ∀ q ∈ project.written, q.file = last → Defines n q.statement →
        (project.originsOf q.file).get? n = none →
        (project.analysis.linked q).Binds (project.spelling ⟨last, n⟩) := by
  have hat := Project.symbolAt_of_mem_pieces (Project.mem_pieces_of_mem_written hp)
  have hscanned := hat.1.1
  refine ⟨project.consists_combine h, ?_, ?_, ?_⟩
  · intro k place hplace hrole hnode
    obtain ⟨place', hplace', hnode'⟩ := project.exists_place_linked hplace
    rw [hnode, Scope.renameAs_name, hmarks.rule_of_not_declares hchain.not_declares hrole,
      hchain.imported?_getD htexts hname hscanned] at hnode'
    refine ⟨place', hplace', hnode', ?_⟩
    rw [hnode', Expr.name.injEq]
    by_cases hone : times = 1
    · simp [hone]
    · rw [if_neg hone, eq_comm, Project.spelling_eq_name_iff]
      simp [hone]
  · obtain ⟨name, hdeclares, hsymbol⟩ := hat.exists_declares
    exact hchain.mem_dependenciesOf_iff htexts hname hscanned hdeclares hsymbol
  · rintro q - rfl hdefines himported
    exact Project.binds_linked_of_defines hchain.declares himported hdefines

/-! ## A name that is handed on twice -/

/-- The statement at an index of a file. -/
def Project.statementAt (project : Project) (file : String) (index : Nat) : Stmt :=
  ((project.read file).getD [])[index]?.getD .pass

/-- The piece at an index of a file, with the symbol of a name. -/
def Project.pieceAt (project : Project) (file n : String) (index : Nat) : Piece :=
  ⟨symbolKey file n, file, index, project.statementAt file index⟩

theorem Project.pieceAt_mem_written {index : Nat} (hscanned : file ∈ project.analysis.scan.scanned)
    (hsome : ((project.read file).getD [])[index]?.isSome)
    (hplace : (symbolKey file n, file, index) ∈ project.places) :
    project.pieceAt file n index ∈ project.written := by
  refine mem_written_of_mem_places ⟨hscanned, ?_⟩ hplace
  obtain ⟨s, hs⟩ := Option.isSome_iff_exists.mp hsome
  cases hread : project.read file with
  | none => simp [hread] at hs
  | some body => exact ⟨body, hread, by simp_all [pieceAt, statementAt]⟩

theorem defines_of_mem_boundTargets {s : Stmt} (h : n ∈ s.boundTargets.filterMap nameOf?) :
    Defines n s := by
  obtain ⟨target, htarget, hname⟩ := mem_filterMap.mp h
  exact .inr ⟨target, htarget, nameOf?_eq_some_iff.mp hname ▸ .name⟩

/-- The entry file takes one number from the start of a package, which takes it from a file below,
and the other number from that file. -/
@[irreducible] def relaying : Project where
  directory := ["work"]
  entry := "/work/main.py"
  files := [⟨"main.py", "/work/main.py"⟩, ⟨"tools/__init__.py", "/work/tools/__init__.py"⟩,
    ⟨"tools/motor.py", "/work/tools/motor.py"⟩]
  read := readTexts fun file =>
    if file = "/work/main.py" then
      some "from tools import power\nfrom tools.motor import ratio\n\nprint(power, ratio)\n"
    else if file = "/work/tools/__init__.py" then some "from tools.motor import power\n"
    else if file = "/work/tools/motor.py" then some "power = 5\nratio = 2\n"
    else none

/-- The piece with the call that uses the numbers. -/
def relayPiece : Piece := relaying.pieceAt "/work/main.py" (expressionName 2) 2

/-- The pieces with the numbers. -/
def powerPiece : Piece := relaying.pieceAt "/work/tools/motor.py" "power" 0

@[inherit_doc powerPiece]
def ratioPiece : Piece := relaying.pieceAt "/work/tools/motor.py" "ratio" 1

theorem combine_relaying :
    relaying.combine.toOption.isSome ∧ relaying.Unambiguous ∧
      (∀ p ∈ [relayPiece, powerPiece, ratioPiece], p.file ∈ relaying.analysis.scan.scanned ∧
        ((relaying.read p.file).getD [])[p.index]?.isSome ∧
        (p.symbol, p.file, p.index) ∈ relaying.places) ∧
      relaying.taken "/work/main.py"
        = [⟨"/work/tools/__init__.py", "power"⟩, ⟨"/work/tools/motor.py", "ratio"⟩] ∧
      relaying.taken "/work/tools/__init__.py" = [⟨"/work/tools/motor.py", "power"⟩] ∧
      relaying.analysis.scan.namesOf "/work/main.py" = [expressionName 2] ∧
      relaying.analysis.scan.namesOf "/work/tools/__init__.py" = [] ∧
      (∀ p ∈ [(powerPiece, "power"), (ratioPiece, "ratio")],
        p.2 ∈ relaying.analysis.scan.namesOf "/work/tools/motor.py" ∧
        p.2 ∈ p.1.statement.boundTargets.filterMap nameOf? ∧
        (relaying.originsOf "/work/tools/motor.py").get? p.2 = none ∧
        p.2 ∈ definingLoads relayPiece.statement) ∧
      (relayPiece.statement.places []).map (fun place => (nameOf? place.node, place.role))
        = [(none, .value), (some "print", .value), (some "power", .value),
          (some "ratio", .value)] ∧
      ((relaying.analysis.linked relayPiece).places [])[2]?.map (nameOf? ·.node)
        = some (some "power") ∧
      symbolKey "/work/tools/motor.py" "power" ∉ relaying.dependenciesOf relayPiece.symbol := by
  decide +kernel

theorem readsTexts_relaying : relaying.ReadsTexts := by
  intro file body hread
  simp only [relaying] at hread
  obtain ⟨text, -, hparse⟩ := readTexts_eq_some_iff.mp hread
  exact ⟨text, hparse⟩

theorem written_relaying : ∀ p ∈ [relayPiece, powerPiece, ratioPiece], p ∈ relaying.written := by
  obtain ⟨-, -, hpieces, -⟩ := combine_relaying
  intro p hp
  obtain ⟨hscanned, hsome, hplace⟩ := hpieces p hp
  simp only [mem_cons, not_mem_nil, or_false] at hp
  rcases hp with rfl | rfl | rfl
  · exact Project.pieceAt_mem_written hscanned hsome hplace
  · exact Project.pieceAt_mem_written hscanned hsome hplace
  · exact Project.pieceAt_mem_written hscanned hsome hplace

theorem reexports_relaying :
    relaying.Reexports "power" "/work/main.py" 2 "/work/tools/motor.py" ∧
      relaying.Reexports "ratio" "/work/main.py" 1 "/work/tools/motor.py" := by
  obtain ⟨-, -, -, hmain, htools, hnames, htoolsNames, hmotor, -⟩ := combine_relaying
  have hown : ∀ n, n ≠ expressionName 2 → ¬ relaying.Declares "/work/main.py" n := by
    intro n hn hdeclares
    have hmem := Project.mem_namesOf.mpr hdeclares
    rw [hnames, mem_singleton] at hmem
    exact hn hmem
  have hdeclares : ∀ x ∈ [(powerPiece, "power"), (ratioPiece, "ratio")],
      relaying.Declares "/work/tools/motor.py" x.2 :=
    fun x hx => Project.mem_namesOf.mp (hmotor x hx).1
  have htoolsChain : relaying.Reexports "power" "/work/tools/__init__.py" 1
      "/work/tools/motor.py" := by
    refine .once ?_ ?_ (hdeclares (powerPiece, "power") (.head _))
    · rw [← Project.mem_namesOf, htoolsNames]
      exact not_mem_nil
    · constructor <;> simp [htools, Origin.IsWildcard, wildcardName]
  refine ⟨.again (hown _ (by decide)) ?_ htoolsChain, .once (hown _ (by decide)) ?_
    (hdeclares (ratioPiece, "ratio") (.tail _ (.head _)))⟩
  · constructor <;> simp [hmain, Origin.IsWildcard, wildcardName]
  · constructor <;> simp [hmain, Origin.IsWildcard, wildcardName]

/-- In the script of these files the number that was handed on twice keeps its name where it is
used, while its own chunk binds another name, and nothing asks for that chunk to come first. -/
theorem combine_relaying_loses_power :
    ∃ result, relaying.combine = .ok result ∧
      result.Consists relaying.analysis.scan.external
        (relaying.written.map relaying.analysis.linked) ∧
      relayPiece ∈ relaying.written ∧
      relaying.Reexports "power" relayPiece.file 2 "/work/tools/motor.py" ∧
      (∃ place place', (relayPiece.statement.places [])[2]? = some place ∧
        place.node = .name "power" ∧
        ((relaying.analysis.linked relayPiece).places [])[2]? = some place' ∧
        place'.node = .name "power") ∧
      powerPiece ∈ relaying.written ∧
      (relaying.analysis.linked powerPiece).Binds
        (relaying.spelling ⟨"/work/tools/motor.py", "power"⟩) ∧
      relaying.spelling ⟨"/work/tools/motor.py", "power"⟩ ≠ "power" ∧
      "power" ∈ definingLoads relayPiece.statement ∧
      powerPiece.symbol ∉ relaying.dependenciesOf relayPiece.symbol := by
  obtain ⟨hcombine, -, -, -, -, -, -, hmotor, hplaces, hlinked, hdependencies⟩ := combine_relaying
  obtain ⟨result, hok⟩ := Host.exists_eq_ok_of_isSome hcombine
  obtain ⟨hdeclares, hdefines, horigin, hloads⟩ := hmotor (powerPiece, "power") (.head _)
  have hplace := congrArg (·[2]?) hplaces
  simp only [getElem?_map] at hplace
  obtain ⟨place, hplace, hname⟩ := Option.map_eq_some_iff.mp hplace
  obtain ⟨place', hplace', hname'⟩ := Option.map_eq_some_iff.mp hlinked
  refine ⟨result, hok, relaying.consists_combine hok, written_relaying _ (by simp),
    reexports_relaying.1, ⟨place, place', hplace, ?_, hplace', nameOf?_eq_some_iff.mp hname'⟩,
    written_relaying _ (by simp), ?_, ?_, hloads, hdependencies⟩
  · exact nameOf?_eq_some_iff.mp (congrArg Prod.fst hname)
  · exact Project.binds_linked_of_defines (Project.mem_namesOf.mp hdeclares) horigin
      (defines_of_mem_boundTargets hdefines)
  · refine mt Project.spelling_eq_name_iff.mp ?_
    simp [relaying]

/-- The number that was handed on once is spelled like its symbol, which is a dependency of the call
and bound under that spelling. -/
theorem combine_relaying_follows_ratio :
    ∃ result, relaying.combine = .ok result ∧ relayPiece ∈ relaying.written ∧
      (∃ place', ((relaying.analysis.linked relayPiece).places [])[3]? = some place' ∧
        place'.node = .name (relaying.spelling ⟨"/work/tools/motor.py", "ratio"⟩)) ∧
      ratioPiece.symbol ∈ relaying.dependenciesOf relayPiece.symbol ∧
      (relaying.analysis.linked ratioPiece).Binds
        (relaying.spelling ⟨"/work/tools/motor.py", "ratio"⟩) := by
  obtain ⟨hcombine, hunambiguous, -, -, -, -, -, hmotor, hplaces, -⟩ := combine_relaying
  obtain ⟨result, hok⟩ := Host.exists_eq_ok_of_isSome hcombine
  obtain ⟨-, hdefines, horigin, hloads⟩ := hmotor (ratioPiece, "ratio") (.tail _ (.head _))
  have hrelay := written_relaying relayPiece (by simp)
  obtain ⟨-, huses, hdependency, hbinds⟩ := combine_follows_reexport_iff hok
    hunambiguous.toMarksDistinct readsTexts_relaying hrelay (by decide) reexports_relaying.2
  have hplace := congrArg (·[3]?) hplaces
  simp only [getElem?_map] at hplace
  obtain ⟨place, hplace, hname⟩ := Option.map_eq_some_iff.mp hplace
  obtain ⟨hnode, hrole⟩ := Prod.mk.inj hname
  obtain ⟨place', hplace', -, hiff⟩ :=
    huses 3 place hplace (by simp [hrole]) (nameOf?_eq_some_iff.mp hnode)
  refine ⟨result, hok, hrelay, ⟨place', hplace', hiff.mpr (.inl rfl)⟩, ?_, ?_⟩
  · exact hdependency.mpr ⟨rfl, _, _,
      Project.symbolAt_of_mem_pieces (Project.mem_pieces_of_mem_written hrelay), hloads⟩
  · exact hbinds ratioPiece (written_relaying _ (by simp)) rfl
      (defines_of_mem_boundTargets hdefines) horigin

end RobotKit.Link
