import Mathlib.Data.List.Perm.Basic
import RobotKit.Proofs.CombineOrder
import RobotKit.Proofs.Related
import RobotKit.Proofs.Unreadable

/-!
# Projects with other paths

The files of two projects may have different paths and still correspond: the paths stand in the
same order, the files have the same names inside their packages and projects, and the scripts in
them are the same. Then the same script or the same error comes of both projects, when their symbols
are walked in corresponding orders (`Project.Corresponds.outcomeIn_eq`). Each function of the linker
is shown to take what corresponds to what corresponds.
-/

namespace RobotKit.Link

open List RobotKit.Script

variable {file file' : String} {work work' : Worklist} {entry entry' : String} {read read' : Reads}

/-- How the paths of files correspond, and with them the symbols that are declared in the files. -/
structure Correspondence where
  File : String → String → Prop
  Symbol : String → String → Prop
  keepsOrder_file : KeepsOrder File
  keepsOrder_symbol : KeepsOrder Symbol
  symbol_of_file : ∀ {file file'}, File file file' →
    ∀ name, Symbol (symbolKey file name) (symbolKey file' name)
  packageName_eq : ∀ {file file'}, File file file' → packageName file = packageName file'

variable {c : Correspondence}

theorem Correspondence.file_eq_iff (c : Correspondence) {file file' other other' : String}
    (hfile : c.File file file') (hother : c.File other other') :
    file = other ↔ file' = other' := Relator.rel_eq c.keepsOrder_file.biUnique hfile hother

/-! ## Scans -/

/-- Do two names come from corresponding places? -/
structure Origin.Corresponds (c : Correspondence) (origin origin' : Origin) : Prop where
  file : c.File origin.file origin'.file
  name : origin.name = origin'.name

/-- Are the same names taken from corresponding files? -/
structure FileImports.Corresponds (c : Correspondence) (imports imports' : FileImports) : Prop where
  names : imports.names.Related Eq (Origin.Corresponds c) imports'.names
  wildcard : Option.Rel c.File imports.wildcard imports'.wildcard

/-- Has the same been found in corresponding files? Notes do not count. -/
structure Scan.Corresponds (c : Correspondence) (scan scan' : Scan) : Prop where
  declared : scan.declared.Related c.File Eq scan'.declared
  symbols : scan.symbols.Related c.Symbol c.File scan'.symbols
  imported : scan.imported.Related c.File (FileImports.Corresponds c) scan'.imported
  external : scan.external = scan'.external
  scanned : Forall₂ c.File scan.scanned scan'.scanned

/-- Have two scans found the same, and do corresponding files wait? -/
structure Worklist.Corresponds (c : Correspondence) (work work' : Worklist) : Prop where
  scan : work.scan.Corresponds c work'.scan
  queue : Forall₂ c.File work.queue work'.queue

theorem FileImports.Corresponds.add {imports imports' : FileImports}
    (h : imports.Corresponds c imports') {path path' : String} (hpath : c.File path path')
    (name : String) : (imports.add path name).Corresponds c (imports'.add path' name) := by
  unfold FileImports.add
  split
  · exact ⟨h.names, .some hpath⟩
  · split
    · exact ⟨h.names, .none⟩
    · exact ⟨h.names.insert biUnique_eq rfl ⟨hpath, rfl⟩, h.wildcard⟩

theorem Scan.Corresponds.declare {scan scan' : Scan} (h : scan.Corresponds c scan')
    (hfile : c.File file file') (d : Declaration) :
    (scan.declare file d).Corresponds c (scan'.declare file' d) where
  declared := by
    refine h.declared.update c.keepsOrder_file.biUnique hfile rfl ?_
    rintro names _ rfl
    rfl
  symbols := h.symbols.insert c.keepsOrder_symbol.biUnique (c.symbol_of_file hfile d.name) hfile
  imported := h.imported
  external := h.external
  scanned := h.scanned

namespace Worklist.Corresponds

variable {work work' : Worklist}

theorem note (h : work.Corresponds c work') (note note' : Note) :
    (work.note note).Corresponds c (work'.note note') :=
  ⟨⟨h.scan.declared, h.scan.symbols, h.scan.imported, h.scan.external, h.scan.scanned⟩, h.queue⟩

theorem outside (h : work.Corresponds c work') (text : String) :
    (work.outside text).Corresponds c (work'.outside text) :=
  ⟨⟨h.scan.declared, h.scan.symbols, h.scan.imported, congrArg (addName · text) h.scan.external,
    h.scan.scanned⟩, h.queue⟩

theorem enqueue (h : work.Corresponds c work') (hfile : c.File file file') :
    (work.enqueue file).Corresponds c (work'.enqueue file') := by
  rw [Worklist.enqueue, Worklist.enqueue,
    contains_eq c.keepsOrder_file.biUnique h.scan.scanned hfile]
  split
  · exact h
  · exact ⟨h.scan, rel_append h.queue (.cons hfile .nil)⟩

end Worklist.Corresponds

section Scanning

variable {modules modules' : Table String} {read read' : Reads} {entry entry' : String}

section

variable (hmodules : modules.Related Eq c.File modules')

include hmodules

theorem rel_sourceFile? (hfile : c.File file file') (source : Option String) :
    Option.Rel c.File (sourceFile? modules file source) (sourceFile? modules' file' source) := by
  have hget (name : String) : Option.Rel c.File (modules.get? name) (modules'.get? name) :=
    hmodules.get? biUnique_eq rfl
  have hsource : Option.Rel c.File (source.bind modules.get?) (source.bind modules'.get?) := by
    cases source with
    | none => exact .none
    | some name => exact hget name
  unfold sourceFile?
  rw [c.packageName_eq hfile]
  generalize source.bind modules.get? = found, source.bind modules'.get? = found' at hsource
  cases hsource with
  | some h => exact .some h
  | none =>
    refine rel_findSome? fun package => ?_
    split
    · exact .none
    · exact hget _

theorem corresponds_followModule (text : String)
    (h : work.Corresponds c work') (a : Alias) :
    (followModule modules file text work a).Corresponds c
      (followModule modules' file' text work' a) := by
  have hnoted := h.note (.line ("DEBUG: Found import '" ++ a.name ++ "' in " ++ baseName file))
    (.line ("DEBUG: Found import '" ++ a.name ++ "' in " ++ baseName file'))
  have hget : Option.Rel c.File (modules.get? a.name) (modules'.get? a.name) :=
    hmodules.get? biUnique_eq rfl
  unfold followModule
  split
  · exact hnoted.outside text
  · generalize modules.get? a.name = found, modules'.get? a.name = found' at hget
    cases hget with
    | some hpath => exact hnoted.enqueue hpath
    | none => exact hnoted.outside text

theorem corresponds_followImport
    (hfile : c.File file file') (h : work.Corresponds c work') (i : Import) :
    (followImport modules file work i).Corresponds c (followImport modules' file' work' i) := by
  cases i with
  | modules names =>
    refine rel_foldl_same (fun work work' a h => ?_) h
    exact corresponds_followModule hmodules _ h a
  | names source names level =>
    have hnoted := h.note
      (.line ("DEBUG: Found 'from " ++ source.getD "None" ++ " import ...' in " ++ baseName file))
      (.line ("DEBUG: Found 'from " ++ source.getD "None" ++ " import ...' in " ++ baseName file'))
    have hsource := rel_sourceFile? hmodules hfile source
    unfold followImport
    dsimp only
    split
    · exact hnoted.outside _
    · generalize sourceFile? modules file source = found,
        sourceFile? modules' file' source = found' at hsource
      cases hsource with
      | none =>
        dsimp only
        split
        · exact hnoted.outside _
        · exact hnoted
      | some hpath =>
        have hqueued := hnoted.enqueue hpath
        refine ⟨⟨hqueued.scan.declared, hqueued.scan.symbols, ?_, hqueued.scan.external,
          hqueued.scan.scanned⟩, hqueued.queue⟩
        refine hqueued.scan.imported.update c.keepsOrder_file.biUnique hfile
          ⟨.empty, .none⟩ fun imports imports' himports => ?_
        exact rel_foldl_same (fun _ _ a himports => himports.add hpath a.name) himports

section

variable (hread : ∀ file file', c.File file file' → read file = read' file')
  (hentry : c.File entry entry')

include hread hentry

theorem corresponds_scanFile (hfile : c.File file file') (h : work.Corresponds c work') :
    (scanFile read modules entry file work).Corresponds c
      (scanFile read' modules' entry' file' work') := by
  have hisEntry : decide (file = entry) = decide (file' = entry') :=
    decide_eq_decide.mpr (c.file_eq_iff hfile hentry)
  have hscanned : Forall₂ c.File (work.scan.scanned ++ [file]) (work'.scan.scanned ++ [file']) :=
    rel_append h.scan.scanned (.cons hfile .nil)
  unfold scanFile
  dsimp only
  rw [hread file file' hfile, hisEntry]
  cases read' file' with
  | none =>
    exact ⟨⟨h.scan.declared, h.scan.symbols, h.scan.imported, h.scan.external, hscanned⟩, h.queue⟩
  | some body =>
    dsimp only
    refine rel_foldl_same (R := Worklist.Corresponds c)
      (fun _ _ i h => corresponds_followImport hmodules hfile h i) ⟨?_, h.queue⟩
    refine rel_foldl_same (R := Scan.Corresponds c) (fun _ _ d h => h.declare hfile d) ?_
    exact ⟨h.scan.declared, h.scan.symbols, h.scan.imported, h.scan.external, hscanned⟩

theorem corresponds_scanQueue (fuel : Nat) (h : work.Corresponds c work') :
    (scanQueue read modules entry fuel work).Corresponds c
      (scanQueue read' modules' entry' fuel work') := by
  induction fuel generalizing work work' with
  | zero => exact h.scan
  | succ fuel ih =>
    have hwaiting : Forall₂ c.File (work.queue.dropWhile work.scan.scanned.contains)
        (work'.queue.dropWhile work'.scan.scanned.contains) :=
      rel_dropWhile (fun _ _ hfile => contains_eq c.keepsOrder_file.biUnique h.scan.scanned hfile)
        h.queue
    rw [scanQueue, scanQueue]
    generalize work.queue.dropWhile work.scan.scanned.contains = waiting,
      work'.queue.dropWhile work'.scan.scanned.contains = waiting' at hwaiting
    cases hwaiting with
    | nil => exact h.scan
    | cons hfile hrest => exact ih (corresponds_scanFile hmodules hread hentry hfile ⟨h.scan, hrest⟩)

end

theorem corresponds_scanProject (hread : ∀ file file', c.File file file' → read file = read' file')
    (hentry : c.File entry entry') :
    (scanProject read modules entry).Corresponds c (scanProject read' modules' entry') := by
  have hempty : Scan.empty.Corresponds c .empty := ⟨.empty, .empty, .empty, rfl, .nil⟩
  rw [scanProject, scanProject, List.Forall₂.length_eq hmodules]
  exact corresponds_scanQueue hmodules hread hentry _ ⟨hempty, .cons hentry .nil⟩

end

end Scanning

/-! ## Origins and dependencies -/

theorem Scan.Corresponds.origins {scan scan' : Scan} (h : scan.Corresponds c scan') :
    scan.origins.Related c.File (Table.Related Eq (Origin.Corresponds c)) scan'.origins := by
  refine h.imported.map fun imports imports' himports => ?_
  obtain ⟨names, wildcard⟩ := imports
  obtain ⟨names', wildcard'⟩ := imports'
  cases himports.wildcard with
  | none => exact himports.names
  | some hpath =>
    have hdeclared := rel_getD (h.declared.get? c.keepsOrder_file.biUnique hpath) (Eq.refl [])
    dsimp only
    rw [hdeclared]
    refine rel_foldl_same (fun names names' name hnames => ?_) himports.names
    exact hnames.insert biUnique_eq rfl ⟨hpath, rfl⟩

theorem rel_symbolsOf {origins origins' : Table Origin}
    (horigins : origins.Related Eq (Origin.Corresponds c) origins') (declared : List String)
    (hfile : c.File file file') (names : List String) :
    Forall₂ c.Symbol (symbolsOf origins declared file names)
      (symbolsOf origins' declared file' names) := by
  refine rel_distinct c.keepsOrder_symbol.biUnique ?_
  refine rel_filterMap (R := Eq) ?_ (List.forall₂_refl names)
  rintro name _ rfl
  have horigin : Option.Rel (Origin.Corresponds c) (origins.get? name) (origins'.get? name) :=
    horigins.get? biUnique_eq rfl
  dsimp only
  generalize origins.get? name = found, origins'.get? name = found' at horigin
  cases horigin with
  | some h =>
    dsimp only
    rw [h.name]
    exact .some (c.symbol_of_file h.file _)
  | none =>
    dsimp only
    split
    · exact .some (c.symbol_of_file hfile name)
    · exact .none

theorem related_addDependencies {scan scan' : Scan} (h : scan.Corresponds c scan')
    (hread : ∀ file file', c.File file file' → read file = read' file')
    (hentry : c.File entry entry') {deps deps' : Table (List String)}
    (hdeps : deps.Related c.Symbol (Forall₂ c.Symbol) deps') (hfile : c.File file file') :
    (addDependencies read scan scan.origins entry deps file).Related c.Symbol (Forall₂ c.Symbol)
      (addDependencies read' scan' scan'.origins entry' deps' file') := by
  have hisEntry : decide (file = entry) = decide (file' = entry') :=
    decide_eq_decide.mpr (c.file_eq_iff hfile hentry)
  have hdeclared := rel_getD (h.declared.get? c.keepsOrder_file.biUnique hfile) (Eq.refl [])
  have horigins := rel_getD (h.origins.get? c.keepsOrder_file.biUnique hfile) Table.Related.empty
  unfold addDependencies
  dsimp only
  rw [hread file file' hfile, hisEntry, hdeclared]
  refine rel_foldl_same (fun deps deps' place hdeps => ?_) hdeps
  have hneeded := rel_symbolsOf horigins ((scan'.declared.get? file').getD []) hfile
    (definingLoads place.1)
  refine rel_foldl_same (fun deps deps' d hdeps => ?_) hdeps
  refine hdeps.update c.keepsOrder_symbol.biUnique (c.symbol_of_file hfile d.name) .nil
    fun before before' hbefore => ?_
  refine rel_foldl ?_ hbefore hneeded
  intro names names' hnames name name' hname
  exact rel_addName c.keepsOrder_symbol.biUnique hnames hname

theorem Scan.Corresponds.dependencies {scan scan' : Scan} (h : scan.Corresponds c scan')
    (hread : ∀ file file', c.File file file' → read file = read' file')
    (hentry : c.File entry entry') :
    (scan.dependencies read entry).Related c.Symbol (Forall₂ c.Symbol)
      (scan'.dependencies read' entry') := by
  unfold Scan.dependencies
  refine rel_foldl ?_ .empty (rel_sortNames c.keepsOrder_file h.scanned)
  intro deps deps' hdeps file file' hfile
  exact related_addDependencies h hread hentry hdeps hfile

/-! ## Renaming -/

/-- Do two scopes give names the same new names? -/
structure Scope.SameNames (scope scope' : Scope) : Prop where
  reference : scope.reference = scope'.reference
  hint : scope.hint = scope'.hint
  definition : scope.definition = scope'.definition

section Renaming

variable {scope scope' : Scope}

section

variable (h : scope.SameNames scope')

include h

theorem renameHint_congr : renameHint scope = renameHint scope' := by
  funext type
  rw [renameHint, renameHint, h.reference, h.hint]

theorem renameParams_congr (params : Params Expr) :
    renameParams scope params = renameParams scope' params := by
  simp only [renameParams, h.reference, h.hint]

/-- Only the new names of a scope matter for renaming. -/
theorem renameStmt_congr_all :
    (∀ s, renameStmt scope s = renameStmt scope' s)
    ∧ (∀ cases, renameCases scope cases = renameCases scope' cases)
    ∧ (∀ body, renameBlock scope body = renameBlock scope' body)
    ∧ ∀ handlers, renameHandlers scope handlers = renameHandlers scope' handlers := by
  apply renameStmt.mutual_induct <;> intros <;>
    simp only [renameStmt, renameBlock, renameCases, renameHandlers, h.reference, h.definition,
      renameHint_congr h, renameParams_congr h, if_true, *]

theorem renameStmt_congr (s : Stmt) :
    renameStmt scope s = renameStmt scope' s :=
  (renameStmt_congr_all h).1 s

end

end Renaming

/-! ## Projects -/

/-- Do the files of two projects correspond, with the same place in the project and the same script
in them? -/
structure Project.Corresponds (c : Correspondence) (project project' : Project) : Prop where
  entry : c.File project.entry project'.entry
  files : Forall₂ (fun file file' => file.relative = file'.relative ∧ c.File file.full file'.full)
    project.files project'.files
  relative : ∀ file file', c.File file file' → project.relative file = project'.relative file'
  read : ∀ file file', c.File file file' → project.read file = project'.read file'

namespace Project.Corresponds

variable {project project' : Project}

section

variable (h : project.Corresponds c project')

include h

theorem isEntry_eq (hfile : c.File file file') :
    decide (file = project.entry) = decide (file' = project'.entry) :=
  decide_eq_decide.mpr (c.file_eq_iff hfile h.entry)

theorem scan :
    project.analysis.scan.Corresponds c project'.analysis.scan := by
  have hmodules : (moduleMap project.files).Related Eq c.File (moduleMap project'.files) := by
    refine .ofList biUnique_eq (rel_map ?_ h.files)
    intro file file' hfile
    exact ⟨congrArg moduleName hfile.1, hfile.2⟩
  exact corresponds_scanProject hmodules h.read h.entry

theorem newNames :
    project.analysis.newNames.Related c.File Eq project'.analysis.newNames := by
  refine rel_filterMap ?_ h.scan.declared
  rintro ⟨file, names⟩ ⟨file', _⟩ ⟨hfile, rfl⟩
  dsimp only at hfile ⊢
  by_cases hentry : file = project.entry
  · rw [if_pos hentry, if_pos ((c.file_eq_iff hfile h.entry).mp hentry)]
    exact .none
  · rw [if_neg hentry, if_neg fun h' => hentry ((c.file_eq_iff hfile h.entry).mpr h')]
    exact .some ⟨hfile, by rw [h.relative file file' hfile]⟩

/-- Whatever order a run takes, some run of the other project takes the corresponding one. -/
theorem exists_order {order : List String} (horder : project.IsWalkOrder order) :
    ∃ order', project'.IsWalkOrder order' ∧ Forall₂ c.Symbol order order' := by
  obtain ⟨deps, hsame, rfl⟩ := horder
  have hunique := c.keepsOrder_symbol.biUnique
  have harranged (symbol' : String) : ∃ names',
      names'.Perm ((project'.analysis.dependencies.get? symbol').getD [])
        ∧ ∀ symbol, c.Symbol symbol symbol' →
          Forall₂ c.Symbol ((deps.get? symbol).getD []) names' := by
    by_cases hex : ∃ symbol, c.Symbol symbol symbol'
    · obtain ⟨symbol, hsymbol⟩ := hex
      have hnames := rel_getD ((h.scan.dependencies h.read h.entry).get? hunique hsymbol) .nil
      obtain ⟨names', hrel, hperm⟩ := List.perm_comp_forall₂ (hsame symbol) hnames
      refine ⟨names', hperm, fun other hother => ?_⟩
      obtain rfl := hunique.1 hother hsymbol
      exact hrel
    · exact ⟨_, .refl _, fun symbol hsymbol => absurd ⟨symbol, hsymbol⟩ hex⟩
  choose arranged hperm hrel using harranged
  obtain ⟨deps', hdeps'⟩ := exists_table_of_perm hperm
  refine ⟨_, ⟨deps', fun symbol => hdeps' symbol ▸ hperm symbol, rfl⟩, ?_⟩
  refine rel_orderSymbols (fun {symbol symbol'} hsymbol => ?_) c.keepsOrder_symbol
    h.scan.symbols.keys
  rw [nextSymbols, nextSymbols, hdeps']
  refine rel_filter (fun b b' hb => ?_) (hrel symbol' symbol hsymbol)
  exact Bool.eq_iff_iff.mp (contains_eq hunique h.scan.symbols.keys hb)

/-- Names get the same new names in corresponding files. -/
theorem sameNames (hfile : c.File file file') :
    (project.analysis.scopeOf file).SameNames (project'.analysis.scopeOf file') := by
  have hunique := c.keepsOrder_file.biUnique
  have horigins : (project.analysis.scopeOf file).origins.Related Eq (Origin.Corresponds c)
      (project'.analysis.scopeOf file').origins :=
    rel_getD (h.scan.origins.get? hunique hfile) .empty
  have hdeclared : (project.analysis.scopeOf file).declared
      = (project'.analysis.scopeOf file').declared :=
    rel_getD (h.scan.declared.get? hunique hfile) (Eq.refl [])
  have hnewName {other other' : String} (hother : c.File other other') (name : String) :
      (project.analysis.scopeOf file).newName? other name
        = (project'.analysis.scopeOf file').newName? other' name := by
    show (project.analysis.newNames.get? other).bind _ = (project'.analysis.newNames.get? other').bind _
    rw [rel_eq_iff.mp (h.newNames.get? hunique hother)]
  have himported (name : String) : (project.analysis.scopeOf file).imported? name
      = (project'.analysis.scopeOf file').imported? name := by
    refine rel_eq_iff.mp (rel_optionBind (horigins.get? biUnique_eq rfl) fun origin origin' h => ?_)
    rw [rel_eq_iff, hnewName h.file, h.name]
  have hdeclared? (name : String) : (project.analysis.scopeOf file).declared? name
      = (project'.analysis.scopeOf file').declared? name := by
    rw [Scope.declared?, Scope.declared?, hdeclared]
    split
    · exact hnewName hfile name
    · rfl
  have hcontains (name : String) : (project.analysis.scopeOf file).origins.contains name
      = (project'.analysis.scopeOf file').origins.contains name :=
    horigins.contains biUnique_eq rfl
  refine ⟨funext fun name => ?_, funext fun name => ?_, funext fun name => ?_⟩
  · rw [Scope.reference, Scope.reference, himported, hdeclared?]
  · rw [Scope.hint, Scope.hint, hcontains, himported, hdeclared?]
  · rw [Scope.definition, Scope.definition, hdeclared?]

end

end Project.Corresponds

/-- Are two pieces the same statement at the same place of corresponding files? -/
structure Piece.Corresponds (c : Correspondence) (piece piece' : Piece) : Prop where
  symbol : c.Symbol piece.symbol piece'.symbol
  file : c.File piece.file piece'.file
  statement : piece.statement = piece'.statement

theorem rel_piecesOf (isEntry : Bool) (hfile : c.File file file') (body : List Stmt) :
    Forall₂ (Piece.Corresponds c) (piecesOf isEntry file body) (piecesOf isEntry file' body) := by
  refine rel_filterMap (R := Eq) ?_ (List.forall₂_refl _)
  rintro ⟨s, index⟩ _ rfl
  dsimp only [chunkKey?]
  cases (declarations isEntry index s).head? with
  | none => exact .none
  | some d => exact .some ⟨c.symbol_of_file hfile d.name, hfile, rfl⟩

/-- Do two chunk tables come out alike, errors included? -/
inductive ChunksRelated (c : Correspondence) :
    Except WriteError (List (String × String)) → Except WriteError (List (String × String)) → Prop
  | error (e : WriteError) : ChunksRelated c (.error e) (.error e)
  | ok {chunks chunks' : List (String × String)}
      (h : Forall₂ (fun chunk chunk' => c.Symbol chunk.1 chunk'.1 ∧ chunk.2 = chunk'.2)
        chunks chunks') : ChunksRelated c (.ok chunks) (.ok chunks')

namespace Project.Corresponds

variable {project project' : Project}

section

variable (h : project.Corresponds c project')

include h

theorem pieces :
    Forall₂ (Piece.Corresponds c) (project.piecesOf project.analysis)
      (project'.piecesOf project'.analysis) := by
  refine rel_flatMap (rel_sortNames c.keepsOrder_file h.scan.scanned) ?_
  intro file file' hfile
  dsimp only
  rw [h.isEntry_eq hfile, h.read file file' hfile]
  exact rel_piecesOf _ hfile _

theorem linked_eq {piece piece' : Piece}
    (hpiece : piece.Corresponds c piece') :
    project.analysis.linked piece = project'.analysis.linked piece' := by
  rw [Analysis.linked, Analysis.linked, hpiece.statement]
  exact renameStmt_congr (h.sameNames hpiece.file) _

theorem chunks {pieces pieces' : List Piece}
    (hpieces : Forall₂ (Piece.Corresponds c) pieces pieces') :
    ChunksRelated c (pieces.mapM project.analysis.chunkOf)
      (pieces'.mapM project'.analysis.chunkOf) := by
  induction hpieces with
  | nil => exact .ok .nil
  | cons hpiece _ ih =>
    rename_i piece piece' rest rest' _
    rw [mapM_cons, mapM_cons, Analysis.chunkOf, Analysis.chunkOf, h.linked_eq hpiece]
    cases (project'.analysis.linked piece').text with
    | error e => exact .error e
    | ok text =>
      generalize rest.mapM project.analysis.chunkOf = chunks,
        rest'.mapM project'.analysis.chunkOf = chunks' at ih
      cases ih with
      | error e => exact .error e
      | ok hchunks => exact .ok (.cons ⟨hpiece.symbol, rfl⟩ hchunks)

/-- Projects whose files correspond are combined into the same script, or fail alike, when their
symbols are walked in corresponding orders. -/
theorem outcomeIn_eq {order order' : List String} (horder : Forall₂ c.Symbol order order') :
    project.outcomeIn order = project'.outcomeIn order' := by
  have hunique := c.keepsOrder_symbol.biUnique
  have hchunks := h.chunks h.pieces
  unfold outcomeIn combineIn
  dsimp only
  generalize (project.piecesOf project.analysis).mapM project.analysis.chunkOf = chunks,
    (project'.piecesOf project'.analysis).mapM project'.analysis.chunkOf = chunks' at hchunks
  cases hchunks with
  | error e => rfl
  | ok hchunks =>
    rename_i chunks chunks'
    have htable : (Table.ofList chunks).Related c.Symbol Eq (.ofList chunks') :=
      .ofList hunique hchunks
    have hwritten : Forall₂ c.Symbol (writtenSymbols order (.ofList chunks))
        (writtenSymbols order' (.ofList chunks')) := by
      refine rel_distinct hunique (rel_filter ?_ horder)
      intro symbol symbol' hsymbol
      exact Bool.eq_iff_iff.mp (htable.contains hunique hsymbol)
    have htexts : Forall₂ Eq
        ((writtenSymbols order (.ofList chunks)).map fun key =>
          ((Table.ofList chunks).get? key).getD "")
        ((writtenSymbols order' (.ofList chunks')).map fun key =>
          ((Table.ofList chunks').get? key).getD "") := by
      refine rel_map ?_ hwritten
      intro symbol symbol' hsymbol
      exact rel_getD (htable.get? hunique hsymbol) rfl
    rw [List.forall₂_eq_eq_eq] at htexts
    dsimp only
    rw [htexts, h.scan.external]

end

end Project.Corresponds

end RobotKit.Link
