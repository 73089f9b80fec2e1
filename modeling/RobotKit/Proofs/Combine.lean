import RobotKit.Link.Combine
import RobotKit.Proofs.Order
import RobotKit.Proofs.Scan

/-!
# What a combined script consists of

Between its header and its last line a combined script holds the statements of `Project.written`,
with their names replaced (`consists_combine`): for each symbol, at its first place in the order,
the last top-level statement with that symbol. So a top-level statement makes its way into the
script exactly if it has a symbol that no later statement has (`combine_contributes_iff`).
-/

namespace RobotKit.Link

open List RobotKit.Script

variable {project : Project} {p : Piece} {index : Nat} {chunks : List (String × String)}
  {file : String} {s : Stmt} {body : List Stmt} {ε α β : Type} {isEntry : Bool}

/-! ## Pieces and their places -/

/-- The statement at an index of the script in a scanned file. -/
def Project.TopLevel (project : Project) (file : String) (index : Nat) (s : Stmt) : Prop :=
  file ∈ project.analysis.scan.scanned ∧ ∃ body, project.read file = some body ∧
    body[index]? = some s

theorem Project.TopLevel.statement_eq {s s' : Stmt} (h : project.TopLevel file index s)
    (h' : project.TopLevel file index s') :
    s = s' := by
  obtain ⟨-, body, hread, hbody⟩ := h
  obtain ⟨-, body', hread', hbody'⟩ := h'
  obtain rfl : body = body' := Option.some.inj (hread.symm.trans hread')
  exact Option.some.inj (hbody.symm.trans hbody')

/-- The pieces of a project in the order in which they are met. -/
def Project.pieces (project : Project) : List Piece := project.piecesOf project.analysis

/-- Does the place of the first piece come before the place of the second? -/
def Piece.Before (p q : Piece) : Prop := p.file < q.file ∨ p.file = q.file ∧ p.index < q.index

theorem Piece.Before.asymm {p q : Piece} (h : p.Before q) : ¬ q.Before p := by
  rintro (h' | ⟨heq', hlt'⟩) <;> rcases h with h | ⟨heq, hlt⟩
  · exact String.lt_asymm h h'
  · exact String.lt_irrefl _ (heq ▸ h')
  · exact String.lt_irrefl _ (heq' ▸ h)
  · omega

theorem mem_piecesOf :
    p ∈ piecesOf isEntry file body
      ↔ p.file = file ∧ body[p.index]? = some p.statement ∧
        chunkKey? isEntry file p.index p.statement = some p.symbol := by
  obtain ⟨symbol, file', index, s⟩ := p
  simp only [piecesOf, mem_filterMap, Prod.exists, mk_mem_zipIdx_iff_getElem?,
    Option.map_eq_some_iff, Piece.mk.injEq]
  constructor
  · rintro ⟨s, index, hbody, symbol, hkey, rfl, rfl, rfl, rfl⟩
    exact ⟨rfl, hbody, hkey⟩
  · rintro ⟨rfl, hbody, hkey⟩
    exact ⟨s, index, hbody, symbol, hkey, rfl, rfl, rfl, rfl⟩

theorem Project.mem_pieces :
    p ∈ project.pieces
      ↔ project.TopLevel p.file p.index p.statement ∧
        chunkKey? (p.file = project.entry) p.file p.index p.statement = some p.symbol := by
  simp only [pieces, Project.piecesOf, mem_flatMap, mem_sortNames, mem_piecesOf, TopLevel]
  constructor
  · rintro ⟨file, hfile, rfl, hbody, hkey⟩
    cases hread : project.read p.file with
    | none => simp [hread] at hbody
    | some body => exact ⟨⟨hfile, body, rfl, by simpa [hread] using hbody⟩, hkey⟩
  · rintro ⟨⟨hfile, body, hread, hbody⟩, hkey⟩
    exact ⟨p.file, hfile, rfl, by simpa [hread] using hbody, hkey⟩

/-- Two pieces at the same place are the same. -/
theorem Project.eq_of_mem_pieces {p q : Piece} (hp : p ∈ project.pieces) (hq : q ∈ project.pieces)
    (hfile : p.file = q.file) (hindex : p.index = q.index) : p = q := by
  obtain ⟨symbol, file, index, s⟩ := p
  obtain ⟨symbol', file', index', s'⟩ := q
  obtain rfl : file = file' := hfile
  obtain rfl : index = index' := hindex
  obtain ⟨htop, hkey⟩ := mem_pieces.mp hp
  obtain ⟨htop', hkey'⟩ := mem_pieces.mp hq
  obtain rfl : s = s' := htop.statement_eq htop'
  obtain rfl : symbol = symbol' := Option.some.inj (hkey.symm.trans hkey')
  rfl

theorem pairwise_piecesOf (isEntry : Bool) (file : String) (body : List Stmt) :
    (piecesOf isEntry file body).Pairwise Piece.Before := by
  rw [piecesOf, pairwise_filterMap]
  have hindices : body.zipIdx.Pairwise fun a b => a.2 < b.2 := by
    have h : (body.zipIdx.map Prod.snd).Pairwise (· < ·) := by
      rw [zipIdx_map_snd]
      exact pairwise_lt_range' ..
    exact pairwise_map.mp h
  refine hindices.imp fun {a b} hab p hp q hq => ?_
  obtain ⟨_, _, rfl⟩ := Option.map_eq_some_iff.mp hp
  obtain ⟨_, _, rfl⟩ := Option.map_eq_some_iff.mp hq
  exact .inr ⟨rfl, hab⟩

/-- The pieces come in the order of their places. -/
theorem Project.pairwise_pieces (project : Project) : project.pieces.Pairwise Piece.Before := by
  rw [pieces, Project.piecesOf, pairwise_flatMap]
  refine ⟨fun file _ => pairwise_piecesOf _ _ _, ?_⟩
  -- no file is scanned twice, so the sorted files increase strictly
  refine (pairwise_lt_sortNames (nodup_scanned _ _ _)).imp fun {f g} hfg p hp q hq => .inl ?_
  rw [(mem_piecesOf.mp hp).1, (mem_piecesOf.mp hq).1]
  exact hfg

/-! ## The pieces that are written -/

/-- The piece that the chunk of a symbol is made from: the last one with that symbol. -/
def Project.lastPiece? (project : Project) (symbol : String) : Option Piece :=
  project.pieces.reverse.find? fun p => p.symbol = symbol

/-- The pieces that are written if the symbols are listed in some order: every symbol counts at its
first place. -/
def Project.writtenIn (project : Project) (order : List String) : List Piece :=
  (distinct order).filterMap project.lastPiece?

/-- The pieces of the combined script in their order. -/
def Project.written (project : Project) : List Piece :=
  project.writtenIn project.analysis.order

theorem Project.lastPiece?_eq_some_iff {symbol : String} :
    project.lastPiece? symbol = some p
      ↔ p ∈ project.pieces ∧ p.symbol = symbol ∧
        ∀ q ∈ project.pieces, q.symbol = symbol → ¬ p.Before q := by
  have hpairwise := project.pairwise_pieces
  rw [lastPiece?, find?_eq_some_iff_append]
  constructor
  · rintro ⟨hsymbol, after, before, hpieces, hafter⟩
    replace hpieces : project.pieces = before.reverse ++ p :: after.reverse := by
      rw [← reverse_reverse project.pieces, hpieces]
      simp
    refine ⟨by simp [hpieces], by simpa using hsymbol, fun q hq hqsymbol => ?_⟩
    rw [hpieces] at hpairwise hq
    rw [pairwise_append] at hpairwise
    rcases mem_append.mp hq with hq | hq
    · exact (hpairwise.2.2 q hq p (mem_cons_self ..)).asymm
    · rcases mem_cons.mp hq with rfl | hq
      · exact fun h => h.asymm h
      · exact absurd hqsymbol (by simpa using hafter q (mem_reverse.mp hq))
  · rintro ⟨hp, hsymbol, hlast⟩
    obtain ⟨before, after, hpieces⟩ := append_of_mem hp
    refine ⟨by simpa using hsymbol, after.reverse, before.reverse, by simp [hpieces], ?_⟩
    intro q hq
    rw [hpieces, pairwise_append, pairwise_cons] at hpairwise
    rw [mem_reverse] at hq
    have hbefore : p.Before q := hpairwise.2.1.1 q hq
    simpa using fun h => hlast q (by simp [hpieces, hq]) h hbefore

/-- A statement that makes a chunk declares the symbol of the chunk. -/
theorem exists_declaration_of_chunkKey? {file symbol : String} (hbody : body[index]? = some s)
    (hkey : chunkKey? isEntry file index s = some symbol) :
    ∃ d ∈ declarationsOf isEntry body, symbol = symbolKey file d.name := by
  obtain ⟨d, hd, rfl⟩ := Option.map_eq_some_iff.mp hkey
  refine ⟨d, mem_flatMap.mpr ⟨(s, index), ?_, mem_of_mem_head? hd⟩, rfl⟩
  exact mk_mem_zipIdx_iff_getElem?.mpr hbody

theorem Project.symbol_mem_keys (hp : p ∈ project.pieces) :
    p.symbol ∈ project.analysis.scan.symbols.keys := by
  obtain ⟨⟨hfile, body, hread, hbody⟩, hkey⟩ := mem_pieces.mp hp
  obtain ⟨d, hd, hsymbol⟩ := exists_declaration_of_chunkKey? hbody hkey
  exact ((consistent_scanProject _ _ _).symbols _).mpr
    ⟨p.file, d.name, ⟨hfile, body, hread, d, hd, rfl⟩, hsymbol⟩

theorem Project.mem_writtenIn {order : List String} :
    p ∈ project.writtenIn order ↔ p.symbol ∈ order ∧ project.lastPiece? p.symbol = some p := by
  rw [writtenIn, mem_filterMap]
  constructor
  · rintro ⟨symbol, hsymbol, hlast⟩
    obtain rfl : p.symbol = symbol := (lastPiece?_eq_some_iff.mp hlast).2.1
    exact ⟨mem_distinct.mp hsymbol, hlast⟩
  · rintro ⟨hsymbol, hlast⟩
    exact ⟨p.symbol, mem_distinct.mpr hsymbol, hlast⟩

/-- The pieces that are written are those that are the last with their symbol. -/
theorem Project.mem_written :
    p ∈ project.written ↔ project.lastPiece? p.symbol = some p := by
  rw [written, mem_writtenIn]
  refine ⟨And.right, fun hlast => ⟨?_, hlast⟩⟩
  exact mem_orderSymbols (symbol_mem_keys (lastPiece?_eq_some_iff.mp hlast).1)

theorem Project.mem_pieces_of_mem_written (hp : p ∈ project.written) : p ∈ project.pieces :=
  (lastPiece?_eq_some_iff.mp (mem_written.mp hp)).1

theorem map_filterMap_eq {α β γ : Type} (f : α → Option β) (t : β → γ) (g : α → γ)
    (h : ∀ a b, f a = some b → t b = g a) (items : List α) :
    (items.filterMap f).map t = (items.filter fun a => (f a).isSome).map g := by
  induction items with
  | nil => rfl
  | cons a rest ih =>
    cases ha : f a with
    | none => rw [filterMap_cons_none ha, filter_cons_of_neg (by simp [ha]), ih]
    | some b =>
      rw [filterMap_cons_some ha, filter_cons_of_pos (by simp [ha]), map_cons,
        map_cons, ih, h a b ha]

/-- The symbols that are written are the listed symbols that have a piece. -/
theorem Project.map_symbol_writtenIn (project : Project) (order : List String) :
    (project.writtenIn order).map Piece.symbol
      = (distinct order).filter fun symbol => (project.lastPiece? symbol).isSome := by
  have h : ∀ symbol p, project.lastPiece? symbol = some p → p.symbol = id symbol :=
    fun symbol p hlast => (lastPiece?_eq_some_iff.mp hlast).2.1
  rw [writtenIn, map_filterMap_eq _ _ _ h, map_id]

/-- No piece is written twice. -/
theorem Project.nodup_writtenIn (project : Project) (order : List String) :
    (project.writtenIn order).Nodup := by
  have h : ((project.writtenIn order).map Piece.symbol).Nodup := by
    rw [map_symbol_writtenIn]
    exact (nodup_distinct _).filter _
  exact List.Pairwise.of_map Piece.symbol (fun p q hne heq => hne (heq ▸ rfl)) h

/-! ## The text of the script -/

/-- Between its header and its last line the script holds these statements, one after the
other. -/
def Combined.Consists (result : Combined) (external : List String) (statements : List Stmt) :
    Prop :=
  ∃ texts, statements.mapM Stmt.text = .ok texts ∧ result.text = scriptText external texts

theorem mapM_eq_ok_map {f : α → Except ε β} {g : α → β} {items : List α}
    (h : ∀ a ∈ items, f a = .ok (g a)) : items.mapM f = .ok (items.map g) := by
  induction items with
  | nil => rfl
  | cons a rest ih =>
    rw [mapM_cons, h a (mem_cons_self ..),
      ih fun b hb => h b (mem_cons_of_mem _ hb)]
    rfl

theorem exists_ok_of_mapM {f : α → Except ε β} {items : List α} {results : List β}
    (h : items.mapM f = .ok results) : ∀ a ∈ items, ∃ b, f a = .ok b := by
  induction items generalizing results with
  | nil => simp
  | cons a rest ih =>
    rw [mapM_cons] at h
    cases ha : f a with
    | error e => simp [ha, bind, Except.bind] at h
    | ok b =>
      cases hrest : rest.mapM f with
      | error e => simp [ha, hrest, bind, Except.bind] at h
      | ok bs =>
        intro c hc
        rcases mem_cons.mp hc with rfl | hc
        · exact ⟨b, ha⟩
        · exact ih hrest c hc

theorem lookup_map_symbol (t : Piece → String) (symbol : String) (pieces : List Piece) :
    (pieces.map fun p => (p.symbol, t p)).lookup symbol
      = (pieces.find? fun p => p.symbol = symbol).map t := by
  induction pieces with
  | nil => rfl
  | cons p rest ih =>
    by_cases h : symbol = p.symbol
    · simp [h]
    · rw [map_cons, Table.lookup_cons_of_ne h, ih,
        find?_cons_of_neg (by simpa using fun heq => h heq.symm)]

/-- The text of a statement, or nothing where it cannot be written. -/
def textOrNone (s : Stmt) : String := s.text.toOption.getD ""

section

variable (h : project.pieces.mapM project.analysis.chunkOf = .ok chunks)

include h

/-- If all chunks can be written, each is the text of its piece with the names replaced. -/
theorem Project.chunkOf_eq_ok :
    ∀ p ∈ project.pieces,
      (project.analysis.linked p).text = .ok (textOrNone (project.analysis.linked p)) ∧
        project.analysis.chunkOf p = .ok (p.symbol, textOrNone (project.analysis.linked p)) := by
  intro p hp
  obtain ⟨chunk, hchunk⟩ := exists_ok_of_mapM h p hp
  rw [Analysis.chunkOf] at hchunk ⊢
  cases htext : (project.analysis.linked p).text with
  | error e => simp [htext, Except.map] at hchunk
  | ok text => simp [textOrNone, htext, Except.toOption, Except.map]

/-- The chunks in the order in which they are made. -/
theorem Project.eq_map_of_mapM_chunkOf :
    chunks = project.pieces.map fun p => (p.symbol, textOrNone (project.analysis.linked p)) := by
  have hmap : project.pieces.mapM project.analysis.chunkOf
      = .ok (project.pieces.map fun p => (p.symbol, textOrNone (project.analysis.linked p))) :=
    mapM_eq_ok_map fun p hp => (chunkOf_eq_ok h p hp).2
  exact Except.ok.inj (h.symm.trans hmap)

/-- The chunk of a symbol is made from the last piece with that symbol. -/
theorem Project.get?_chunks (symbol : String) :
    (Table.ofList chunks).get? symbol
      = (project.lastPiece? symbol).map fun p => textOrNone (project.analysis.linked p) := by
  rw [eq_map_of_mapM_chunkOf h, Table.get?_ofList, ← map_reverse]
  exact lookup_map_symbol _ symbol _

end

/-- A combined script consists of the pieces that are written, with their names replaced. -/
theorem Project.consists_combine {result : Combined} (h : project.combine = .ok result) :
    result.Consists project.analysis.scan.external
      (project.written.map project.analysis.linked) := by
  rw [combine, combineIn] at h
  split at h
  · simp at h
  · rename_i chunks hchunks
    obtain rfl := Except.ok.inj h
    have hget := get?_chunks hchunks
    refine ⟨(project.written.map project.analysis.linked).map textOrNone, mapM_eq_ok_map ?_, ?_⟩
    · intro s hs
      obtain ⟨p, hp, rfl⟩ := mem_map.mp hs
      exact (chunkOf_eq_ok hchunks p (lastPiece?_eq_some_iff.mp (mem_written.mp hp)).1).1
    · have hcontains : (Table.ofList chunks).contains
          = fun symbol => (project.lastPiece? symbol).isSome := by
        funext symbol
        rw [Table.contains_eq_isSome, hget, Option.isSome_map]
      have hlast : ∀ symbol p, project.lastPiece? symbol = some p →
          textOrNone (project.analysis.linked p)
            = ((Table.ofList chunks).get? symbol).getD "" := by
        intro symbol p hp
        rw [hget, hp]
        rfl
      show scriptText _ _ = scriptText _ _
      rw [map_map, written, writtenIn, writtenSymbols, distinct_filter, hcontains]
      exact congrArg _ (map_filterMap_eq _ _ _ hlast _).symm

/-! ## Which statements reach the script -/

/-- The statements of a combined script that come from a place. -/
def Project.contributions (project : Project) (file : String) (index : Nat) : List Stmt :=
  (project.written.filter fun p => p.file = file ∧ p.index = index).map project.analysis.linked

/-- Has the statement a symbol, and is it the last statement with that symbol? -/
def Project.Survives (project : Project) (file : String) (index : Nat) (s : Stmt) : Prop :=
  ∃ symbol, chunkKey? (file = project.entry) file index s = some symbol ∧
    ∀ file' index' s', project.TopLevel file' index' s' →
      chunkKey? (file' = project.entry) file' index' s' = some symbol →
      file' < file ∨ file' = file ∧ index' ≤ index

theorem not_before_iff {p q : Piece} :
    ¬ p.Before q ↔ q.file < p.file ∨ q.file = p.file ∧ q.index ≤ p.index := by
  rw [Piece.Before, not_or, not_and, String.not_lt, Nat.not_lt]
  constructor
  · rintro ⟨hle, himp⟩
    by_cases heq : p.file = q.file
    · exact .inr ⟨heq.symm, himp heq⟩
    · exact .inl (String.not_le.mp fun hle' => heq (String.le_antisymm hle' hle))
  · rintro (hlt | ⟨heq, hle⟩)
    · exact ⟨String.not_lt.mp (String.lt_asymm hlt), fun heq => absurd hlt (by simp [heq])⟩
    · exact ⟨by simp [heq], fun _ => hle⟩

/-- A statement survives if the piece at its place is written. -/
theorem Project.survives_iff (hs : project.TopLevel file index s) :
    project.Survives file index s
      ↔ ∃ p ∈ project.written, p.file = file ∧ p.index = index := by
  constructor
  · rintro ⟨symbol, hkey, hlast⟩
    refine ⟨⟨symbol, file, index, s⟩, mem_written.mpr (lastPiece?_eq_some_iff.mpr ?_), rfl, rfl⟩
    refine ⟨mem_pieces.mpr ⟨hs, hkey⟩, rfl, fun q hq hsymbol => not_before_iff.mpr ?_⟩
    obtain ⟨htop, hqkey⟩ := mem_pieces.mp hq
    exact hlast q.file q.index q.statement htop (hqkey.trans (congrArg some hsymbol))
  · rintro ⟨p, hp, rfl, rfl⟩
    obtain ⟨hmem, -, hlast⟩ := lastPiece?_eq_some_iff.mp (mem_written.mp hp)
    obtain ⟨htop, hkey⟩ := mem_pieces.mp hmem
    obtain rfl : p.statement = s := htop.statement_eq hs
    refine ⟨p.symbol, hkey, fun file' index' s' htop hkey' => ?_⟩
    exact not_before_iff.mp
      (hlast ⟨p.symbol, file', index', s'⟩ (mem_pieces.mpr ⟨htop, hkey'⟩) rfl)

theorem filter_eq_singleton_of_nodup {α : Type} {items : List α} {keep : α → Bool} {a : α}
    (hnodup : items.Nodup) (ha : a ∈ items) (hkeep : ∀ b ∈ items, keep b = true ↔ b = a) :
    items.filter keep = [a] := by
  classical
  have hsame : items.filter keep = items.filter (· = a) :=
    filter_congr fun b hb => by simp [← hkeep b hb]
  rw [hsame, filter_eq, count_eq_one_of_mem hnodup ha]
  rfl

/-- A statement that survives is in the script once, with its names replaced. -/
theorem Project.contributions_of_survives (hs : project.TopLevel file index s)
    (h : project.Survives file index s) :
    project.contributions file index = [renameStmt (project.analysis.scopeOf file) s] := by
  obtain ⟨p, hp, rfl, rfl⟩ := (survives_iff hs).mp h
  have hfilter : (project.written.filter fun q => q.file = p.file ∧ q.index = p.index) = [p] := by
    refine filter_eq_singleton_of_nodup (project.nodup_writtenIn _) hp fun q hq => ?_
    rw [decide_eq_true_iff]
    constructor
    · rintro ⟨hfile, hindex⟩
      exact eq_of_mem_pieces (mem_pieces_of_mem_written hq) (mem_pieces_of_mem_written hp) hfile
        hindex
    · rintro rfl
      exact ⟨rfl, rfl⟩
  obtain rfl : p.statement = s :=
    (mem_pieces.mp (mem_pieces_of_mem_written hp)).1.statement_eq hs
  rw [contributions, hfilter]
  rfl

/-- A statement that does not survive leaves nothing in the script. -/
theorem Project.contributions_of_not_survives (hs : project.TopLevel file index s)
    (h : ¬ project.Survives file index s) :
    project.contributions file index = [] := by
  rw [contributions, map_eq_nil_iff, filter_eq_nil_iff]
  intro p hp hplace
  rw [decide_eq_true_iff] at hplace
  exact h ((survives_iff hs).mpr ⟨p, hp, hplace⟩)

/-- Of every top-level statement of a scanned file, the script holds exactly one statement if it is
the last one with its symbol, and none if it has no symbol or a later statement has the same. -/
theorem combine_contributes_iff {project : Project} {result : Combined}
    (h : project.combine = .ok result) {file : String} {index : Nat} {s : Stmt}
    (hs : project.TopLevel file index s) :
    result.Consists project.analysis.scan.external
        (project.written.map project.analysis.linked) ∧
      ((project.contributions file index).length = 1 ↔ project.Survives file index s) ∧
      (project.Survives file index s →
        project.contributions file index = [renameStmt (project.analysis.scopeOf file) s]) ∧
      (¬ project.Survives file index s → project.contributions file index = []) := by
  refine ⟨project.consists_combine h, ⟨fun hlength => ?_, fun hsurvives => ?_⟩,
    Project.contributions_of_survives hs, Project.contributions_of_not_survives hs⟩
  · by_contra hnot
    rw [Project.contributions_of_not_survives hs hnot] at hlength
    simp at hlength
  · rw [Project.contributions_of_survives hs hsurvives]
    rfl

/-- The project whose only file is this script. -/
def Project.single (body : List Stmt) : Project where
  directory := ["work"]
  entry := "/work/main.py"
  files := [⟨"main.py", "/work/main.py"⟩]
  read := fun file => if file = "/work/main.py" then some body else none

theorem Project.exists_combine_of_text {text : String}
    (h : project.combine.toOption.map Combined.text = some text) :
    ∃ result, project.combine = .ok result ∧ result.text = text := by
  cases hcombine : project.combine with
  | error e =>
    rw [hcombine] at h
    exact absurd h (by simp [Except.toOption])
  | ok result =>
    rw [hcombine] at h
    exact ⟨result, rfl, Option.some.inj h⟩

/-- The piece that the statement at an index of such a project makes under a name. -/
def mainPiece (name : String) (index : Nat) (s : Stmt) : Piece :=
  ⟨symbolKey "/work/main.py" name, "/work/main.py", index, s⟩

/-- The symbols of the pieces that are written, with their places. -/
def Project.places (project : Project) : List (String × String × Nat) :=
  project.written.map fun p => (p.symbol, p.file, p.index)

theorem Project.mem_written_of_mem_places (htop : project.TopLevel p.file p.index p.statement)
    (h : (p.symbol, p.file, p.index) ∈ project.places) : p ∈ project.written := by
  obtain ⟨⟨symbol, file, index, s⟩, hq, hplace⟩ := mem_map.mp h
  obtain ⟨hsymbol, hfile, hindex⟩ : symbol = p.symbol ∧ file = p.file ∧ index = p.index := by
    simpa using hplace
  subst hsymbol hfile hindex
  obtain rfl := (mem_pieces.mp (mem_pieces_of_mem_written hq)).1.statement_eq htop
  exact hq

/-- A counter that is set twice and then counts up in a loop. -/
def counting : List Stmt :=
  [.assign [.name "x"] (.literal (.int 1)), .assign [.name "x"] (.literal (.int 2)),
    .whileLoop (.compare (.name "x") [(.lt, .literal (.int 3))])
      [.assign [.name "x"] (.binary (.name "x") .add (.literal (.int 1)))] []]

/-- The script of the counter, and the number of statements that each of its statements leaves. -/
theorem combine_counting :
    (Project.single counting).combine.toOption.map Combined.text
        = some (scriptText [] ["x = 2"]) ∧
      (Project.single counting).analysis.scan.scanned = ["/work/main.py"] ∧
      ((Project.single counting).contributions "/work/main.py" 0).length = 0 ∧
      ((Project.single counting).contributions "/work/main.py" 1).length = 1 ∧
      ((Project.single counting).contributions "/work/main.py" 2).length = 0 := by
  decide +kernel

theorem topLevel_counting (h : counting[index]? = some s) :
    (Project.single counting).TopLevel "/work/main.py" index s := by
  obtain ⟨-, hscanned, -⟩ := combine_counting
  exact ⟨by simp [hscanned], counting, rfl, h⟩

/-- The second assignment of the counter survives. -/
theorem combine_contributes_second_assignment :
    ∃ result, (Project.single counting).combine = .ok result ∧
      (Project.single counting).Survives "/work/main.py" 1
        (.assign [.name "x"] (.literal (.int 2))) ∧
      (Project.single counting).contributions "/work/main.py" 1
        = [.assign [.name "x"] (.literal (.int 2))] := by
  obtain ⟨htext, -, -, hone, -⟩ := combine_counting
  obtain ⟨result, hok, -⟩ := Project.exists_combine_of_text htext
  have htop : (Project.single counting).TopLevel "/work/main.py" 1
      (.assign [.name "x"] (.literal (.int 2))) := topLevel_counting rfl
  obtain ⟨-, hiff, hkept, -⟩ := combine_contributes_iff hok htop
  have hsurvives := hiff.mp hone
  exact ⟨result, hok, hsurvives, hkept hsurvives⟩

/-- The first assignment of the counter and its loop leave nothing in the script. -/
theorem combine_counting_loses_statements :
    ∃ result, (Project.single counting).combine = .ok result ∧
      result.text = scriptText [] ["x = 2"] ∧
      ∀ index ∈ [0, 2], (∃ s, (Project.single counting).TopLevel "/work/main.py" index s) ∧
        (Project.single counting).contributions "/work/main.py" index = [] := by
  obtain ⟨htext, -, hfirst, -, hloop⟩ := combine_counting
  obtain ⟨result, hok, htext⟩ := Project.exists_combine_of_text htext
  refine ⟨result, hok, htext, fun index hindex => ?_⟩
  rcases mem_pair.mp hindex with rfl | rfl
  · exact ⟨⟨counting[0], topLevel_counting rfl⟩, length_eq_zero_iff.mp hfirst⟩
  · exact ⟨⟨counting[2], topLevel_counting rfl⟩, length_eq_zero_iff.mp hloop⟩

end RobotKit.Link
