import RobotKit.Proofs.CombineOrder

/-!
# Every chunk is written once

Three passes look at the top-level statements of the scanned files: the scan collects symbols, the
dependencies are found symbol by symbol, and the pieces are made into chunks. The first two have
exactly the declared symbols, and the chunks have no other ones. The walk lists every symbol, some
of them several times, and of each only the first place counts; so the body of the combined script
is a rearrangement of the chunks (`combine_writes_each_chunk_once`).
-/

namespace RobotKit.Link

open List RobotKit.Script

variable {project : Project} {order : List String}

/-- Is the symbol a name that a scanned file declares at its top level? -/
def Project.DeclaredSymbol (project : Project) (symbol : String) : Prop :=
  DeclaredIn project.read project.entry project.analysis.scan.scanned symbol

/-! ## The symbols of each pass -/

theorem Project.hasKeys_symbols (project : Project) :
    project.analysis.scan.symbols.HasKeys project.DeclaredSymbol :=
  ⟨(consistent_scanProject _ _ _).nodupSymbols, (consistent_scanProject _ _ _).symbols⟩

/-- A file adds the symbols that it declares to the table of dependencies. -/
theorem hasKeys_addDependencies (read : Reads) (scan : Scan) (origins : Table (Table Origin))
    (entry file : String) {deps : Table (List String)} {P : String → Prop} (h : deps.HasKeys P) :
    (addDependencies read scan origins entry deps file).HasKeys fun symbol =>
      P symbol ∨ DeclaredIn read entry [file] symbol := by
  -- one fold runs over the statements, one over the names that a statement declares
  have hstatement : ∀ (deps : Table (List String)) (P : String → Prop) (s : Stmt × Nat),
      deps.HasKeys P → ((declarations (file = entry) s.2 s.1).foldl
        (fun deps d => deps.update (symbolKey file d.name) [] fun before =>
          (symbolsOf ((origins.get? file).getD {}) ((scan.declared.get? file).getD []) file
            (definingLoads s.1)).foldl addName before) deps).HasKeys fun symbol =>
        P symbol ∨ ∃ d ∈ declarations (file = entry) s.2 s.1, symbol = symbolKey file d.name :=
    fun deps P s hdeps => Table.HasKeys.foldl
      (R := fun (d : Declaration) symbol => symbol = symbolKey file d.name)
      (fun t Q d ht => ht.insert _ _) _ hdeps
  have hfold := Table.HasKeys.foldl hstatement ((read file).getD []).zipIdx h
  have hdeclared : ∀ symbol, (∃ s ∈ ((read file).getD []).zipIdx,
      ∃ d ∈ declarations (file = entry) s.2 s.1, symbol = symbolKey file d.name)
        ↔ DeclaredIn read entry [file] symbol := by
    intro symbol
    constructor
    · rintro ⟨s, hs, d, hd, rfl⟩
      cases hread : read file with
      | none => simp [hread] at hs
      | some body =>
        rw [hread] at hs
        exact ⟨file, d.name, ⟨mem_singleton.mpr rfl, body, hread, d,
          mem_flatMap.mpr ⟨s, hs, hd⟩, rfl⟩, rfl⟩
    · rintro ⟨other, name, ⟨hother, body, hread, d, hd, rfl⟩, rfl⟩
      obtain rfl := mem_singleton.mp hother
      obtain ⟨s, hs, hd⟩ := mem_flatMap.mp hd
      exact ⟨s, by rw [hread]; exact hs, d, hd, rfl⟩
  simp only [hdeclared] at hfold
  exact hfold

/-- The symbols with dependencies, be they none, are the declared ones. -/
theorem Project.hasKeys_dependencies (project : Project) :
    project.analysis.dependencies.HasKeys project.DeclaredSymbol := by
  have hfold := Table.HasKeys.foldl
    (fun deps P file hdeps => hasKeys_addDependencies project.read project.analysis.scan
      project.analysis.scan.origins project.entry file hdeps)
    (sortNames project.analysis.scan.scanned) Table.hasKeys_empty
  have hdeclared : ∀ symbol, (False ∨ ∃ file ∈ sortNames project.analysis.scan.scanned,
      DeclaredIn project.read project.entry [file] symbol) ↔ project.DeclaredSymbol symbol := by
    intro symbol
    constructor
    · rintro (h | ⟨file, hfile, other, name, ⟨hother, hbody⟩, rfl⟩)
      · exact h.elim
      · obtain rfl := mem_singleton.mp hother
        exact ⟨other, name, ⟨mem_sortNames.mp hfile, hbody⟩, rfl⟩
    · rintro ⟨file, name, ⟨hfile, hbody⟩, rfl⟩
      exact .inr ⟨file, mem_sortNames.mpr hfile, file, name,
        ⟨mem_singleton.mpr rfl, hbody⟩, rfl⟩
  simp only [hdeclared] at hfold
  exact hfold

/-! ## Chunks -/

/-- The chunks of a project by symbol, or the error that ends their making. -/
def Project.chunks (project : Project) : Except WriteError (Table String) :=
  (project.pieces.mapM project.analysis.chunkOf).map Table.ofList

/-- The symbols of the chunks are those of the pieces. -/
theorem Project.hasKeys_chunks {chunks : Table String} (h : project.chunks = .ok chunks) :
    chunks.HasKeys fun symbol => ∃ p ∈ project.pieces, symbol = p.symbol := by
  rw [Project.chunks] at h
  cases hmap : project.pieces.mapM project.analysis.chunkOf with
  | error e => simp [hmap, Except.map] at h
  | ok entries =>
    rw [hmap] at h
    obtain rfl := Except.ok.inj h
    have hkeys := Table.hasKeys_ofList entries
    rw [Project.eq_map_of_mapM_chunkOf hmap] at hkeys ⊢
    simpa using hkeys

/-- A combined script holds the chunks of the listed symbols, each at its first place. -/
theorem Project.exists_chunks_of_combineIn {result : Combined}
    (h : project.combineIn order = .ok result) :
    ∃ chunks, project.chunks = .ok chunks ∧
      result.text = scriptText project.analysis.scan.external
        ((writtenSymbols order chunks).map fun symbol => (chunks.get? symbol).getD "") := by
  rw [combineIn] at h
  split at h
  · simp at h
  · rename_i entries hentries
    obtain rfl := Except.ok.inj h
    have hmap : project.pieces.mapM project.analysis.chunkOf = .ok entries := hentries
    exact ⟨Table.ofList entries, by rw [Project.chunks, hmap]; rfl, rfl⟩

/-- A declared symbol is listed, whatever order the walk takes. -/
theorem Project.IsWalkOrder.mem (h : project.IsWalkOrder order) {symbol : String}
    (hsymbol : symbol ∈ project.analysis.scan.symbols.keys) : symbol ∈ order := by
  obtain ⟨deps, -, rfl⟩ := h
  exact mem_orderSymbols hsymbol

/-- The symbols that are written are those that have a chunk, each once. -/
theorem Project.writtenSymbols_perm_keys {chunks : Table String} (h : project.chunks = .ok chunks)
    (horder : project.IsWalkOrder order) :
    (writtenSymbols order chunks).Perm chunks.keys := by
  obtain ⟨hnodup, hkeys⟩ := hasKeys_chunks h
  refine (perm_ext_iff_of_nodup (nodup_distinct _) hnodup).mpr fun symbol => ?_
  rw [mem_distinct, mem_filter, Table.contains_eq_isSome, ← Table.mem_keys_iff]
  refine ⟨And.right, fun hsymbol => ⟨horder.mem ?_, hsymbol⟩⟩
  obtain ⟨p, hp, rfl⟩ := (hkeys symbol).mp hsymbol
  exact symbol_mem_keys hp

/-- The scan and the dependencies have the declared symbols, and every piece has one of them. If the
chunks can be written, there is one for each symbol of a piece; each of these symbols is written
once, whatever order the walk takes; and the body of the combined script is a rearrangement of the
chunks. -/
theorem combine_writes_each_chunk_once (project : Project) :
    project.analysis.scan.symbols.HasKeys project.DeclaredSymbol ∧
      project.analysis.dependencies.HasKeys project.DeclaredSymbol ∧
      (∀ p ∈ project.pieces, project.DeclaredSymbol p.symbol) ∧
      ∀ result, project.combine = .ok result →
        ∃ chunks, project.chunks = .ok chunks ∧
          chunks.HasKeys (fun symbol => ∃ p ∈ project.pieces, symbol = p.symbol) ∧
          (∀ order, project.IsWalkOrder order →
            (writtenSymbols order chunks).Perm chunks.keys) ∧
          ∃ texts : List String, texts.Perm chunks.values ∧
            result.text = scriptText project.analysis.scan.external texts := by
  refine ⟨project.hasKeys_symbols, project.hasKeys_dependencies, fun p hp => ?_,
    fun result hresult => ?_⟩
  · exact (project.hasKeys_symbols.2 p.symbol).mp (Project.symbol_mem_keys hp)
  · obtain ⟨chunks, hchunks, htext⟩ := Project.exists_chunks_of_combineIn hresult
    have hkeys := Project.hasKeys_chunks hchunks
    refine ⟨chunks, hchunks, hkeys, fun order => Project.writtenSymbols_perm_keys hchunks, _, ?_,
      htext⟩
    rw [Table.values_eq_map_keys hkeys.1 ""]
    exact (Project.writtenSymbols_perm_keys hchunks project.isWalkOrder_order).map _

/-- The walk lists the class that names itself twice. -/
theorem order_copying :
    (Project.single copying).analysis.order
      = ["/work/main.py::Arm", "/work/main.py::rate", "/work/main.py::Arm"] := by
  decide +kernel

/-- The class that is listed twice and its number are written once each. -/
theorem combine_copying_writes_each_once :
    ∃ result chunks, (Project.single copying).combine = .ok result ∧
      (Project.single copying).chunks = .ok chunks ∧
      (writtenSymbols ["/work/main.py::Arm", "/work/main.py::rate", "/work/main.py::Arm"]
        chunks).Perm chunks.keys ∧
      ∃ texts : List String, texts.Perm chunks.values ∧
        result.text = scriptText [] texts := by
  obtain ⟨htext, -⟩ := combine_copying
  obtain ⟨result, hok, htext⟩ := Project.exists_combine_of_text htext
  obtain ⟨-, -, -, hwritten⟩ := combine_writes_each_chunk_once (Project.single copying)
  obtain ⟨chunks, hchunks, -, horder, texts, hperm, hscript⟩ := hwritten result hok
  have hwalk := (Project.single copying).isWalkOrder_order
  rw [order_copying] at hwalk
  exact ⟨result, chunks, hok, hchunks, horder _ hwalk, texts, hperm, hscript⟩

end RobotKit.Link
