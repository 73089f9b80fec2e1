import RobotKit.Link.Scan
import RobotKit.Proofs.Table

/-!
# What a scan records

A scan looks at each file once, its symbols are exactly the names that the scanned files declare at
their top level, and imported names keep their names. All this is an invariant, `Scan.Consistent`,
that every file keeps, so it holds of the whole scan (`consistent_scanProject`).
-/

namespace RobotKit.Link

open List RobotKit.Script

variable {read : Reads} {modules : Table String} {names : Table Origin} {imports : FileImports}
  {files : List String} {entry file : String}

/-! ## Imported names -/

/-- Does every name come from a symbol of the same name? -/
def KeepNames (names : Table Origin) : Prop :=
  ∀ name origin, names.get? name = some origin → origin.name = name

theorem keepNames_empty : KeepNames {} := fun name origin h => absurd h (by simp)

theorem KeepNames.insert (h : KeepNames names) (path name : String) :
    KeepNames (names.insert name ⟨path, name⟩) := by
  intro other origin horigin
  rw [Table.get?_insert] at horigin
  split at horigin
  · rename_i heq
    rw [← Option.some.inj horigin, heq]
  · exact h other origin horigin

theorem KeepNames.foldl_insert (h : KeepNames names) (path : String) (found : List String) :
    KeepNames (found.foldl (fun names name => names.insert name ⟨path, name⟩) names) := by
  induction found generalizing names with
  | nil => exact h
  | cons name rest ih => exact ih (h.insert path name)

theorem KeepNames.add (h : KeepNames imports.names) (path name : String) :
    KeepNames (imports.add path name).names := by
  rw [FileImports.add]
  split
  · exact h
  · split
    · exact h
    · exact h.insert path name

theorem KeepNames.foldl_add (h : KeepNames imports.names) (path : String) (names : List Alias) :
    KeepNames (names.foldl (fun i a => i.add path a.name) imports).names := by
  induction names generalizing imports with
  | nil => exact h
  | cons a rest ih => exact ih (h.add path a.name)

/-- Do all files keep the names that they import? -/
def KeepImportedNames (imported : Table FileImports) : Prop :=
  ∀ file imports, imported.get? file = some imports → KeepNames imports.names

theorem KeepImportedNames.update {imported : Table FileImports} (h : KeepImportedNames imported)
    (file path : String) (names : List Alias) :
    KeepImportedNames (imported.update file .empty fun imports =>
      names.foldl (fun i a => i.add path a.name) imports) := by
  intro other imports hget
  rw [Table.get?_update] at hget
  split at hget
  · rw [← Option.some.inj hget]
    refine KeepNames.foldl_add ?_ path names
    cases hfile : imported.get? file with
    | none => exact keepNames_empty
    | some before => exact h file before hfile
  · exact h other imports hget

/-! ## Following imports -/

/-- Do the steps have the property that following an import of the file is made of, and all that is
made of steps with the property? -/
structure StepsHave (file : String) (P : (Worklist → Worklist) → Prop) : Prop where
  nothing : P id
  comp {f g : Worklist → Worklist} : P f → P g → P fun work => g (f work)
  note (text : String) : P (·.note (.line text))
  outside (text : String) : P (·.outside text)
  enqueue (path : String) : P (·.enqueue path)
  record (path : String) (names : List Alias) : P fun work => { work with scan := { work.scan with
    imported := work.scan.imported.update file .empty fun imports =>
      names.foldl (fun i a => i.add path a.name) imports } }

namespace StepsHave

variable {P : (Worklist → Worklist) → Prop} (h : StepsHave file P)

include h

theorem foldl {α : Type} {f : Worklist → α → Worklist} (hf : ∀ a, P (f · a)) (items : List α) :
    P (items.foldl f ·) := by
  induction items with
  | nil => exact h.nothing
  | cons a rest ih => exact h.comp (hf a) ih

theorem followModule (modules : Table String) (text : String) (a : Alias) :
    P (Link.followModule modules file text · a) := by
  unfold Link.followModule
  split
  · exact h.comp (h.note _) (h.outside text)
  · split
    · exact h.comp (h.note _) (h.enqueue _)
    · exact h.comp (h.note _) (h.outside text)

theorem followImport (modules : Table String) (i : Import) :
    P (Link.followImport modules file · i) := by
  cases i with
  | modules names => exact h.foldl (h.followModule modules (importText names)) names
  | names source names level =>
    unfold Link.followImport
    dsimp only
    split
    · exact h.comp (h.note _) (h.outside _)
    · split
      · exact h.comp (h.comp (h.note _) (h.enqueue _)) (h.record _ names)
      · split
        · exact h.comp (h.note _) (h.outside _)
        · exact h.note _

theorem followImports (modules : Table String) (imports : List Import) :
    P (imports.foldl (Link.followImport modules file) ·) :=
  h.foldl (h.followImport modules) imports

end StepsHave

/-- What following imports leaves alone: the declared names, the symbols and the scanned files
stay, and imported names are kept. -/
structure Worklist.Follows (work work' : Worklist) : Prop where
  declared : work'.scan.declared = work.scan.declared
  symbols : work'.scan.symbols = work.scan.symbols
  scanned : work'.scan.scanned = work.scan.scanned
  imported : KeepImportedNames work.scan.imported → KeepImportedNames work'.scan.imported

theorem stepsHave_follows (file : String) :
    StepsHave file fun f => ∀ work, Worklist.Follows work (f work) where
  nothing _ := ⟨rfl, rfl, rfl, id⟩
  comp {f _} hf hg work := by
    have h := hf work
    have h' := hg (f work)
    exact ⟨h'.declared.trans h.declared, h'.symbols.trans h.symbols, h'.scanned.trans h.scanned,
      h'.imported ∘ h.imported⟩
  note _ _ := ⟨rfl, rfl, rfl, id⟩
  outside _ _ := ⟨rfl, rfl, rfl, id⟩
  enqueue path work := by
    dsimp only [Worklist.enqueue]
    split <;> exact ⟨rfl, rfl, rfl, id⟩
  record path names _ := ⟨rfl, rfl, rfl, fun h => h.update file path names⟩

/-! ## Recording declarations -/

/-- The names that a file declares, as far as a scan has found them. -/
def Scan.namesOf (scan : Scan) (file : String) : List String := (scan.declared.get? file).getD []

/-- Is the file one of these, and does it declare the name at its top level? -/
def DeclaresIn (read : Reads) (entry : String) (files : List String) (file name : String) : Prop :=
  file ∈ files ∧ ∃ body, read file = some body ∧
    ∃ d ∈ declarationsOf (file = entry) body, name = d.name

/-- Is the symbol a name that one of these files declares at its top level? -/
def DeclaredIn (read : Reads) (entry : String) (files : List String) (symbol : String) : Prop :=
  ∃ file name, DeclaresIn read entry files file name ∧ symbol = symbolKey file name

@[simp] theorem mem_addName {name other : String} {names : List String} :
    name ∈ addName names other ↔ name ∈ names ∨ name = other := by
  rw [addName]
  split
  · rename_i hcontains
    rw [contains_iff_mem] at hcontains
    exact ⟨.inl, fun h => h.elim id fun heq => heq ▸ hcontains⟩
  · rw [mem_append, mem_singleton]

theorem Scan.mem_namesOf_declare (scan : Scan) (file other name : String) (d : Declaration) :
    name ∈ (scan.declare file d).namesOf other
      ↔ name ∈ scan.namesOf other ∨ other = file ∧ name = d.name := by
  by_cases h : other = file
  · subst h
    simp [namesOf, declare]
  · simp [namesOf, declare, h]

theorem Scan.mem_namesOf_foldl_declare (file other name : String) (found : List Declaration)
    (scan : Scan) :
    name ∈ (found.foldl (declare · file ·) scan).namesOf other
      ↔ name ∈ scan.namesOf other ∨ other = file ∧ ∃ d ∈ found, name = d.name := by
  induction found generalizing scan with
  | nil => simp
  | cons d rest ih =>
    rw [foldl_cons, ih, mem_namesOf_declare]
    simp only [mem_cons, exists_eq_or_imp, or_assoc, and_or_left]

theorem Scan.mem_symbols_foldl_declare (file symbol : String) (found : List Declaration)
    (scan : Scan) :
    symbol ∈ (found.foldl (declare · file ·) scan).symbols.keys
      ↔ symbol ∈ scan.symbols.keys ∨ ∃ d ∈ found, symbol = symbolKey file d.name := by
  induction found generalizing scan with
  | nil => simp
  | cons d rest ih =>
    rw [foldl_cons, ih]
    simp only [declare, Table.mem_keys_insert, mem_cons, exists_eq_or_imp]
    rw [or_assoc, or_left_comm]

theorem Scan.nodup_symbols_foldl_declare (file : String) (found : List Declaration) {scan : Scan}
    (h : scan.symbols.keys.Nodup) : (found.foldl (declare · file ·) scan).symbols.keys.Nodup := by
  induction found generalizing scan with
  | nil => exact h
  | cons d rest ih => exact ih (Table.nodup_keys_insert h (symbolKey file d.name) file)

/-- Recording declarations leaves the scanned files and the imports alone. -/
theorem Scan.scanned_foldl_declare (file : String) (found : List Declaration) (scan : Scan) :
    (found.foldl (declare · file ·) scan).scanned = scan.scanned ∧
      (found.foldl (declare · file ·) scan).imported = scan.imported := by
  induction found generalizing scan with
  | nil => exact ⟨rfl, rfl⟩
  | cons d rest ih => exact ih (scan.declare file d)

/-- No file is scanned twice, the declared names and the symbols are those that the scanned files
declare, no symbol has two entries, and imported names are kept. -/
structure Scan.Consistent (read : Reads) (entry : String) (scan : Scan) : Prop where
  nodup : scan.scanned.Nodup
  names : ∀ file name, name ∈ scan.namesOf file ↔ DeclaresIn read entry scan.scanned file name
  symbols : ∀ symbol, symbol ∈ scan.symbols.keys ↔ DeclaredIn read entry scan.scanned symbol
  nodupSymbols : scan.symbols.keys.Nodup
  imported : KeepImportedNames scan.imported

/-- One more file adds what it declares. -/
theorem declaresIn_append {entry file other name : String} :
    DeclaresIn read entry (files ++ [file]) other name
      ↔ DeclaresIn read entry files other name ∨ other = file ∧ ∃ body, read file = some body ∧
        ∃ d ∈ declarationsOf (file = entry) body, name = d.name := by
  simp only [DeclaresIn, mem_append, mem_singleton, or_and_right]
  constructor
  · rintro (h | ⟨rfl, h⟩)
    · exact .inl h
    · exact .inr ⟨rfl, h⟩
  · rintro (h | ⟨rfl, h⟩)
    · exact .inl h
    · exact .inr ⟨rfl, h⟩

theorem declaredIn_append {entry file symbol : String} :
    DeclaredIn read entry (files ++ [file]) symbol
      ↔ DeclaredIn read entry files symbol ∨ ∃ body, read file = some body ∧
        ∃ d ∈ declarationsOf (file = entry) body, symbol = symbolKey file d.name := by
  simp only [DeclaredIn, declaresIn_append]
  constructor
  · rintro ⟨other, name, h | ⟨rfl, body, hread, d, hd, rfl⟩, hsymbol⟩
    · exact .inl ⟨other, name, h, hsymbol⟩
    · exact .inr ⟨body, hread, d, hd, hsymbol⟩
  · rintro (⟨other, name, h, hsymbol⟩ | ⟨body, hread, d, hd, hsymbol⟩)
    · exact ⟨other, name, .inl h, hsymbol⟩
    · exact ⟨file, d.name, .inr ⟨rfl, body, hread, d, hd, rfl⟩, hsymbol⟩

/-- Looking at a new file keeps the scan consistent. -/
theorem Scan.Consistent.scanFile {scan : Scan} (h : scan.Consistent read entry)
    (hfile : file ∉ scan.scanned) (queue : List String) :
    (Link.scanFile read modules entry file ⟨scan, queue⟩).scan.Consistent read entry := by
  have hnodup : (scan.scanned ++ [file]).Nodup := by
    rw [nodup_append]
    refine ⟨h.nodup, by simp, ?_⟩
    intro a ha b hb heq
    rw [heq, mem_singleton.mp hb] at ha
    exact hfile ha
  rw [Link.scanFile]
  cases hread : read file with
  | none =>
    refine ⟨hnodup, fun other name => ?_, fun symbol => ?_, h.nodupSymbols, h.imported⟩
    · show name ∈ scan.namesOf other ↔ DeclaresIn read entry (scan.scanned ++ [file]) other name
      rw [declaresIn_append, ← h.names]
      simp [hread]
    · show symbol ∈ scan.symbols.keys ↔ DeclaredIn read entry (scan.scanned ++ [file]) symbol
      rw [declaredIn_append, ← h.symbols]
      simp [hread]
  | some body =>
    let looked : Scan := { scan with
      scanned := scan.scanned ++ [file]
      notes := scan.notes ++ [.line ("DEBUG: Scanning file: " ++ file)] }
    let recorded := (declarationsOf (file = entry) body).foldl (Scan.declare · file ·) looked
    obtain ⟨hscanned, himported⟩ : recorded.scanned = scan.scanned ++ [file] ∧
        recorded.imported = scan.imported := Scan.scanned_foldl_declare file _ looked
    -- the declarations are recorded first, and following imports does not touch them
    have hfollow := (stepsHave_follows file).followImports modules (importsOf body)
      ⟨recorded, queue⟩
    refine ⟨?_, fun other name => ?_, fun symbol => ?_, ?_, hfollow.imported ?_⟩
    · show (Worklist.scan _).scanned.Nodup
      rw [hfollow.scanned]
      show recorded.scanned.Nodup
      rw [hscanned]
      exact hnodup
    · show name ∈ Scan.namesOf (Worklist.scan _) other
        ↔ DeclaresIn read entry (Worklist.scan _).scanned other name
      rw [Scan.namesOf, hfollow.declared, hfollow.scanned]
      show name ∈ recorded.namesOf other ↔ DeclaresIn read entry recorded.scanned other name
      rw [hscanned, declaresIn_append, Scan.mem_namesOf_foldl_declare, ← h.names]
      simp [hread, looked, Scan.namesOf]
    · show symbol ∈ (Worklist.scan _).symbols.keys
        ↔ DeclaredIn read entry (Worklist.scan _).scanned symbol
      rw [hfollow.symbols, hfollow.scanned]
      show symbol ∈ recorded.symbols.keys ↔ DeclaredIn read entry recorded.scanned symbol
      rw [hscanned, declaredIn_append, Scan.mem_symbols_foldl_declare, ← h.symbols]
      simp [hread, looked]
    · show (Worklist.scan _).symbols.keys.Nodup
      rw [hfollow.symbols]
      exact Scan.nodup_symbols_foldl_declare file _ h.nodupSymbols
    · show KeepImportedNames recorded.imported
      rw [himported]
      exact h.imported

theorem not_mem_of_dropWhile_eq_cons {scanned queue rest : List String} {file : String}
    (h : queue.dropWhile scanned.contains = file :: rest) : file ∉ scanned := by
  have hhead := head?_dropWhile_not scanned.contains queue
  rw [h] at hhead
  simpa using hhead

theorem Scan.Consistent.scanQueue {entry : String} (fuel : Nat) {work : Worklist}
    (h : work.scan.Consistent read entry) :
    (Link.scanQueue read modules entry fuel work).Consistent read entry := by
  induction fuel generalizing work with
  | zero => exact h
  | succ fuel ih =>
    rw [Link.scanQueue]
    split
    · exact h
    · rename_i file rest hqueue
      exact ih (h.scanFile (not_mem_of_dropWhile_eq_cons hqueue) rest)

theorem Scan.consistent_empty (read : Reads) (entry : String) :
    Scan.empty.Consistent read entry where
  nodup := nodup_nil
  names file name := by simp [Scan.empty, Scan.namesOf, DeclaresIn]
  symbols symbol := by simp [Scan.empty, DeclaredIn, DeclaresIn, Table.mem_keys_iff]
  nodupSymbols := nodup_nil
  imported file imports h := absurd h (by simp [Scan.empty])

/-- What holds at the start holds of the whole scan. -/
theorem consistent_scanProject (read : Reads) (modules : Table String) (entry : String) :
    (scanProject read modules entry).Consistent read entry :=
  Scan.Consistent.scanQueue _ (Scan.consistent_empty read entry)

/-- A scan looks at no file twice. -/
theorem nodup_scanned (read : Reads) (modules : Table String) (entry : String) :
    (scanProject read modules entry).scanned.Nodup :=
  (consistent_scanProject read modules entry).nodup

/-- The origins that a scan finds have the names that they are found for, also those that a
wildcard stands for. -/
theorem keepNames_origins (h : (scanProject read modules entry).origins.get? file = some names) :
    KeepNames names := by
  rw [Scan.origins, Table.get?_map] at h
  obtain ⟨imports, himports, rfl⟩ := Option.map_eq_some_iff.mp h
  have hkeep := (consistent_scanProject read modules entry).imported file imports himports
  cases imports.wildcard with
  | none => exact hkeep
  | some path => exact hkeep.foldl_insert path _

end RobotKit.Link
