import Mathlib.Data.Finset.Card
import Mathlib.Data.List.TakeWhile
import Mathlib.Logic.Relation
import Mathlib.Order.Bounds.Basic
import RobotKit.Proofs.Imports
import RobotKit.Proofs.Symbols

/-!
# A scan is reachability

A scan serves a queue that holds files many times over and grows while it is served. In whichever
order the files are taken, serving comes to an end (`wellFounded_serves`), and then exactly the
files that the entry file reaches through imports have been scanned, with exactly what each of them
declares and imports from outside. One step keeps an invariant, `Worklist.Tracks`, and a whole run
keeps it by induction.
-/

namespace RobotKit.Link

open List RobotKit.Script Relation

variable {contents : String → Option String} {work : Worklist} {file : String} {scan : Scan}

variable {read : Reads} {modules : Table String} {entry : String}

/-- Does a script of the project lead to the file at a path by one of its imports? -/
def FileLeadsTo (read : Reads) (modules : Table String) (file path : String) : Prop :=
  ∃ body, read file = some body ∧ ∃ i : Import, i.Within body ∧ i.LeadsTo modules file path

/-- Does an import of the file leave the project, with this text? -/
def FileLeaves (read : Reads) (modules : Table String) (file text : String) : Prop :=
  ∃ body, read file = some body ∧ ∃ i : Import, i.Within body ∧ i.Leaves modules file text

/-- Does the set hold the entry file, and with each file those that it leads to? -/
def ClosedUnderImports (read : Reads) (modules : Table String) (entry : String)
    (files : Set String) : Prop :=
  entry ∈ files ∧ ∀ file ∈ files, ∀ path, FileLeadsTo read modules file path → path ∈ files

/-- The files that the entry file reaches are the least such set. -/
theorem isLeast_reachable (read : Reads) (modules : Table String) (entry : String) :
    IsLeast {files | ClosedUnderImports read modules entry files}
      {file | ReflTransGen (FileLeadsTo read modules) entry file} := by
  refine ⟨⟨.refl, fun file hfile path hpath => hfile.tail hpath⟩, ?_⟩
  rintro files ⟨hentry, hclosed⟩ file hfile
  induction hfile with
  | refl => exact hentry
  | tail _ hlast ih => exact hclosed _ ih _ hlast

/-! ## What one file adds -/

theorem Scan.external_foldl_declare (file : String) (found : List Declaration) (scan : Scan) :
    (found.foldl (declare · file ·) scan).external = scan.external := by
  induction found generalizing scan with
  | nil => rfl
  | cons d rest ih => exact ih (scan.declare file d)

/-- A scan that has begun to look at a file. -/
def Scan.looked (scan : Scan) (file : String) : Scan :=
  { scan with
    scanned := scan.scanned ++ [file]
    notes := scan.notes ++ [.line ("DEBUG: Scanning file: " ++ file)] }

/-- Looking at a file adds what its imports lead to and what they leave the project for. -/
theorem adds_scanFile (read : Reads) (modules : Table String) (entry file : String) (scan : Scan)
    (queue : List String) :
    Worklist.Adds ⟨scan.looked file, queue⟩ (scanFile read modules entry file ⟨scan, queue⟩)
      (FileLeadsTo read modules file) (FileLeaves read modules file) := by
  rw [scanFile]
  cases hread : read file with
  | none =>
    exact (Worklist.Adds.note ⟨scan.looked file, queue⟩ _).congr (by simp [FileLeadsTo, hread])
      (by simp [FileLeaves, hread])
  | some body =>
    let recorded :=
      (declarationsOf (file = entry) body).foldl (Scan.declare · file ·) (scan.looked file)
    have hrecorded : Worklist.Adds ⟨scan.looked file, queue⟩ ⟨recorded, queue⟩
        (fun _ => False) (fun _ => False) :=
      .nothing rfl (Scan.external_foldl_declare file _ _) (Scan.scanned_foldl_declare file _ _).1
    have hfollow := Worklist.Adds.foldl (adds_followImport modules file) (importsOf body)
      ⟨recorded, queue⟩
    exact (hrecorded.trans hfollow).congr (by simp [FileLeadsTo, hread, mem_importsOf])
      (by simp [FileLeaves, hread, mem_importsOf])

theorem scanned_scanFile (read : Reads) (modules : Table String) (entry file : String)
    (scan : Scan) (queue : List String) :
    (scanFile read modules entry file ⟨scan, queue⟩).scan.scanned = scan.scanned ++ [file] :=
  (adds_scanFile read modules entry file scan queue).scanned

/-- Recording declarations of a file gives their symbols to that file and leaves the others. -/
theorem Scan.get?_symbols_foldl_declare (file symbol : String) (found : List Declaration)
    (scan : Scan) :
    (found.foldl (declare · file ·) scan).symbols.get? symbol
      = if ∃ d ∈ found, symbol = symbolKey file d.name then some file
        else scan.symbols.get? symbol := by
  induction found generalizing scan with
  | nil => simp
  | cons d rest ih =>
    rw [foldl_cons, ih]
    by_cases hrest : ∃ d ∈ rest, symbol = symbolKey file d.name
    · rw [if_pos hrest, if_pos (hrest.imp fun d hd => ⟨mem_cons_of_mem _ hd.1, hd.2⟩)]
    · rw [if_neg hrest]
      simp only [declare, Table.get?_insert, mem_cons, exists_eq_or_imp, hrest, or_false]

theorem get?_symbols_scanFile (read : Reads) (modules : Table String) (entry file symbol : String)
    (scan : Scan) (queue : List String) :
    (scanFile read modules entry file ⟨scan, queue⟩).scan.symbols.get? symbol
      = if ∃ body, read file = some body ∧
          ∃ d ∈ declarationsOf (file = entry) body, symbol = symbolKey file d.name then some file
        else scan.symbols.get? symbol := by
  rw [scanFile]
  cases hread : read file with
  | none => simp [Worklist.note]
  | some body =>
    have hfollow := (stepsHave_follows file).followImports modules (importsOf body)
      ⟨(declarationsOf (file = entry) body).foldl (Scan.declare · file ·) (scan.looked file), queue⟩
    refine (congrArg (Table.get? · symbol) hfollow.symbols).trans ?_
    rw [Scan.get?_symbols_foldl_declare]
    simp [Scan.looked]

/-! ## Serving the queue -/

/-- One step of serving the queue, whichever of its files is taken: a file that has been scanned is
passed over, another one is looked at. -/
inductive Worklist.Serves (read : Reads) (modules : Table String) (entry : String) :
    Worklist → Worklist → Prop
  | skip {scan : Scan} {before after : List String} {file : String} (h : file ∈ scan.scanned) :
      Serves read modules entry ⟨scan, before ++ file :: after⟩ ⟨scan, before ++ after⟩
  | look {scan : Scan} {before after : List String} {file : String} (h : file ∉ scan.scanned) :
      Serves read modules entry ⟨scan, before ++ file :: after⟩
        (scanFile read modules entry file ⟨scan, before ++ after⟩)

/-- The files that may still have to be looked at. -/
def Worklist.pending (modules : Table String) (work : Worklist) : Finset String :=
  (work.queue ++ modules.values).toFinset \ work.scan.scanned.toFinset

theorem Worklist.mem_pending :
    file ∈ work.pending modules
      ↔ (file ∈ work.queue ∨ file ∈ modules.values) ∧ file ∉ work.scan.scanned := by
  simp [pending]

theorem SourceAt.mem_values {file path : String} {source : Option String}
    (h : SourceAt modules file source path) : path ∈ modules.values := by
  cases h with
  | direct hget => exact Table.mem_values_of_get? hget
  | nested _ _ _ hget => exact Table.mem_values_of_get? hget

theorem FileLeadsTo.mem_values {file path : String} (h : FileLeadsTo read modules file path) :
    path ∈ modules.values := by
  obtain ⟨body, -, i, -, hleads⟩ := h
  cases hleads with
  | module _ _ hget => exact Table.mem_values_of_get? hget
  | source _ hsource => exact hsource.mem_values

/-- Looking at a file of the queue takes it off the pending files. -/
theorem card_pending_scanFile_lt {queue rest : List String} (hfile : file ∈ queue)
    (hnew : file ∉ scan.scanned) (hrest : rest ⊆ queue) :
    ((scanFile read modules entry file ⟨scan, rest⟩).pending modules).card
      < (Worklist.pending modules ⟨scan, queue⟩).card := by
  have hadds := adds_scanFile read modules entry file scan rest
  apply Finset.card_lt_card
  rw [Finset.ssubset_iff_of_subset]
  · refine ⟨file, Worklist.mem_pending.mpr ⟨.inl hfile, hnew⟩, fun hpending => ?_⟩
    exact (Worklist.mem_pending.mp hpending).2 (by simp [scanned_scanFile])
  · intro path hpath
    obtain ⟨hsome, hpath⟩ := Worklist.mem_pending.mp hpath
    rw [scanned_scanFile, mem_append, not_or] at hpath
    refine Worklist.mem_pending.mpr ⟨?_, hpath.1⟩
    rcases hsome with hqueue | hvalue
    · rcases (hadds.queue path).mp hqueue with hold | ⟨hleads, -⟩
      · exact .inl (hrest hold)
      · exact .inr hleads.mem_values
    · exact .inr hvalue

/-- Serving comes to an end: a step takes a pending file off, or it shortens the queue and adds no
pending file. -/
theorem wellFounded_serves (read : Reads) (modules : Table String) (entry : String) :
    WellFounded fun after before : Worklist => before.Serves read modules entry after := by
  refine Subrelation.wf (r := InvImage (Prod.Lex (· < ·) (· < ·))
    fun work : Worklist => ((work.pending modules).card, work.queue.length)) ?_
    (InvImage.wf _ (WellFounded.prod_lex Nat.lt_wfRel.wf Nat.lt_wfRel.wf))
  intro after before hserves
  cases hserves with
  | @skip scan front back file hscanned =>
    have hsubset : Worklist.pending modules ⟨scan, front ++ back⟩
        ⊆ Worklist.pending modules ⟨scan, front ++ file :: back⟩ := by
      intro path hpath
      simp only [Worklist.mem_pending, mem_append, mem_cons] at hpath ⊢
      tauto
    rcases (Finset.card_le_card hsubset).lt_or_eq with hlt | heq
    · exact .left _ _ hlt
    · exact Prod.lex_def.mpr (.inr ⟨heq, by simp⟩)
  | look hnew =>
    exact .left _ _ (card_pending_scanFile_lt (by simp) hnew (by simp))

/-- The scanned files at the front of the queue are passed over. -/
theorem serves_dropWhile (read : Reads) (modules : Table String) (entry : String) (scan : Scan)
    (queue : List String) :
    ReflTransGen (Worklist.Serves read modules entry) ⟨scan, queue⟩
      ⟨scan, queue.dropWhile scan.scanned.contains⟩ := by
  induction queue with
  | nil => exact .refl
  | cons file rest ih =>
    by_cases hfile : file ∈ scan.scanned
    · rw [dropWhile_cons_of_pos (contains_iff_mem.mpr hfile)]
      exact .head (@Worklist.Serves.skip read modules entry scan [] rest file hfile) ih
    · rw [dropWhile_cons_of_neg (by simpa using hfile)]

/-- Taking the files from the front serves the whole queue, if the fuel covers the pending
files. -/
theorem serves_scanQueue (fuel : Nat) (h : (work.pending modules).card ≤ fuel) :
    ReflTransGen (Worklist.Serves read modules entry) work
      ⟨scanQueue read modules entry fuel work, []⟩ := by
  induction fuel generalizing work with
  | zero =>
    have hscanned : ∀ file ∈ work.queue, work.scan.scanned.contains file = true := by
      intro file hfile
      rw [contains_iff_mem]
      by_contra hnew
      have hpending : file ∈ work.pending modules := Worklist.mem_pending.mpr ⟨.inl hfile, hnew⟩
      rw [Finset.card_eq_zero.mp (Nat.le_zero.mp h)] at hpending
      exact absurd hpending (Finset.notMem_empty file)
    have hserves := serves_dropWhile read modules entry work.scan work.queue
    rwa [dropWhile_eq_nil_iff.mpr hscanned] at hserves
  | succ fuel ih =>
    have hserves := serves_dropWhile read modules entry work.scan work.queue
    rw [scanQueue]
    split
    · rename_i hnil
      rwa [hnil] at hserves
    · rename_i file rest hcons
      have hsubset := (dropWhile_sublist work.scan.scanned.contains (l := work.queue)).subset
      rw [hcons] at hserves hsubset
      have hnew := not_mem_of_dropWhile_eq_cons hcons
      have hlook := @Worklist.Serves.look read modules entry work.scan [] rest file hnew
      refine (hserves.tail hlook).trans (ih (Nat.le_of_lt_succ ?_))
      exact Nat.lt_of_lt_of_le (card_pending_scanFile_lt (hsubset mem_cons_self) hnew
        fun path hpath => hsubset (mem_cons_of_mem file hpath)) h

theorem serves_scanProject (read : Reads) (modules : Table String) (entry : String) :
    ReflTransGen (Worklist.Serves read modules entry) ⟨.empty, [entry]⟩
      ⟨scanProject read modules entry, []⟩ := by
  refine serves_scanQueue _ ?_
  calc (Worklist.pending modules ⟨.empty, [entry]⟩).card
      ≤ ([entry] ++ modules.values).toFinset.card := Finset.card_le_card Finset.sdiff_subset
    _ ≤ ([entry] ++ modules.values).length := toFinset_card_le _
    _ = modules.entries.length + 1 := by simp [Table.values]

/-! ## What serving keeps -/

/-- Every file that is scanned or queued is reached from the entry file; the entry file and all
that a scanned file leads to are scanned or queued; and the scan holds what the scanned files
contribute. -/
structure Worklist.Tracks (read : Reads) (modules : Table String) (entry : String)
    (work : Worklist) : Prop where
  consistent : work.scan.Consistent read entry
  reached : ∀ file, file ∈ work.scan.scanned ∨ file ∈ work.queue →
    ReflTransGen (FileLeadsTo read modules) entry file
  start : entry ∈ work.scan.scanned ∨ entry ∈ work.queue
  closed : ∀ file ∈ work.scan.scanned, ∀ path, FileLeadsTo read modules file path →
    path ∈ work.scan.scanned ∨ path ∈ work.queue
  symbols : ∀ symbol file, work.scan.symbols.get? symbol = some file →
    ∃ name, DeclaresIn read entry work.scan.scanned file name ∧ symbol = symbolKey file name
  external : ∀ text, text ∈ work.scan.external
    ↔ ∃ file ∈ work.scan.scanned, FileLeaves read modules file text

theorem tracks_start (read : Reads) (modules : Table String) (entry : String) :
    Worklist.Tracks read modules entry ⟨.empty, [entry]⟩ where
  consistent := Scan.consistent_empty read entry
  reached file h := by
    obtain rfl : file = entry := by simpa [Scan.empty] using h
    exact .refl
  start := .inr mem_cons_self
  closed file h := absurd h not_mem_nil
  symbols symbol file h := absurd h (by simp [Scan.empty])
  external text := by simp [Scan.empty]

/-- One step keeps the invariant. -/
theorem Worklist.Tracks.serves {work work' : Worklist} (h : work.Tracks read modules entry)
    (hserves : work.Serves read modules entry work') : work'.Tracks read modules entry := by
  cases hserves with
  | @skip scan front back file hscanned =>
    -- a path that stood in the queue only as the file passed over has been scanned
    have hkeep : ∀ path, path ∈ scan.scanned ∨ path ∈ front ++ file :: back →
        path ∈ scan.scanned ∨ path ∈ front ++ back := by
      simp only [mem_append, mem_cons]
      rintro path (hpath | hpath | rfl | hpath)
      · exact .inl hpath
      · exact .inr (.inl hpath)
      · exact .inl hscanned
      · exact .inr (.inr hpath)
    refine ⟨h.consistent, fun path hpath => h.reached path (hpath.imp id ?_), hkeep entry h.start,
      fun other hother path hpath => hkeep path (h.closed other hother path hpath), h.symbols,
      h.external⟩
    simp only [mem_append, mem_cons]
    exact fun hpath => hpath.imp id .inr
  | @look scan front back file hnew =>
    have hadds := adds_scanFile read modules entry file scan (front ++ back)
    have hscanned := scanned_scanFile read modules entry file scan (front ++ back)
    have hreached : ReflTransGen (FileLeadsTo read modules) entry file :=
      h.reached file (.inr (by simp))
    have hkeep : ∀ path, path ∈ scan.scanned ∨ path ∈ front ++ file :: back →
        path ∈ (scanFile read modules entry file ⟨scan, front ++ back⟩).scan.scanned
          ∨ path ∈ (scanFile read modules entry file ⟨scan, front ++ back⟩).queue := by
      intro path
      rw [hscanned, hadds.queue]
      simp only [mem_append, mem_cons]
      tauto
    refine ⟨h.consistent.scanFile hnew _, fun path => ?_, hkeep entry h.start, ?_, ?_,
      fun text => ?_⟩
    · rw [hscanned, hadds.queue, mem_append, mem_singleton]
      rintro ((hold | rfl) | hold | ⟨hleads, -⟩)
      · exact h.reached path (.inl hold)
      · exact hreached
      · refine h.reached path (.inr ?_)
        simp only [mem_append, mem_cons] at hold ⊢
        exact hold.imp id .inr
      · exact hreached.tail hleads
    · intro other hother path hleads
      rw [hscanned, mem_append, mem_singleton] at hother
      rcases hother with hother | rfl
      · exact hkeep path (h.closed other hother path hleads)
      · by_cases hpath : path ∈ scan.scanned ++ [other]
        · exact .inl (hscanned ▸ hpath)
        · exact .inr ((hadds.queue path).mpr (.inr ⟨hleads, hpath⟩))
    · intro symbol other hget
      rw [get?_symbols_scanFile] at hget
      simp only [hscanned, declaresIn_append]
      split at hget
      · rename_i hdeclared
        obtain ⟨body, hread, d, hd, hsymbol⟩ := hdeclared
        obtain rfl := Option.some.inj hget
        exact ⟨d.name, .inr ⟨rfl, body, hread, d, hd, rfl⟩, hsymbol⟩
      · obtain ⟨name, hdeclares, hsymbol⟩ := h.symbols symbol other hget
        exact ⟨name, .inl hdeclares, hsymbol⟩
    · have hold : text ∈ scan.external ↔ ∃ file ∈ scan.scanned, FileLeaves read modules file text :=
        h.external text
      rw [hadds.external, hscanned]
      simp only [Scan.looked, hold, mem_append, mem_singleton, or_and_right, exists_or,
        exists_eq_left]

theorem Worklist.Tracks.run {work work' : Worklist} (h : work.Tracks read modules entry)
    (hrun : ReflTransGen (Worklist.Serves read modules entry) work work') :
    work'.Tracks read modules entry := by
  induction hrun with
  | refl => exact h
  | tail _ hserves ih => exact ih.serves hserves

/-- When the queue is empty, the scanned files are those that the entry file reaches. -/
theorem Worklist.Tracks.mem_scanned_iff (h : Worklist.Tracks read modules entry ⟨scan, []⟩) :
    file ∈ scan.scanned ↔ ReflTransGen (FileLeadsTo read modules) entry file := by
  refine ⟨fun hfile => h.reached file (.inl hfile), fun hreached => ?_⟩
  induction hreached with
  | refl => exact h.start.resolve_right not_mem_nil
  | tail _ hleads ih => exact (h.closed _ ih _ hleads).resolve_right not_mem_nil

theorem tracks_scanProject (read : Reads) (modules : Table String) (entry : String) :
    Worklist.Tracks read modules entry ⟨scanProject read modules entry, []⟩ :=
  (tracks_start read modules entry).run (serves_scanProject read modules entry)

/-! ## The scan as a whole -/

/-- Has the scan looked at the least set of files that holds the entry file and is closed under
imports, and does it hold exactly what each of these files contributes? -/
structure Scan.Exact (read : Reads) (modules : Table String) (entry : String) (scan : Scan) :
    Prop where
  scanned : IsLeast {files | ClosedUnderImports read modules entry files}
    {file | file ∈ scan.scanned}
  names : ∀ file name, name ∈ scan.namesOf file ↔ DeclaresIn read entry scan.scanned file name
  symbols : ∀ symbol file, scan.symbols.get? symbol = some file
    ↔ ∃ name, DeclaresIn read entry scan.scanned file name ∧ symbol = symbolKey file name
  external : ∀ text, text ∈ scan.external
    ↔ ∃ file ∈ scan.scanned, FileLeaves read modules file text

theorem DeclaresIn.isWord {files : List String} {file name : String}
    (h : DeclaresIn (readTexts contents) entry files file name) :
    IsWord name := by
  obtain ⟨-, body, hread, d, hd, rfl⟩ := h
  obtain ⟨text, -, hparse⟩ := readTexts_eq_some_iff.mp hread
  exact isWord_of_declares hparse hd

/-- Symbols tell files apart, so the file of a symbol is the one that declares it. -/
theorem Worklist.Tracks.get?_symbols_iff (h : work.Tracks (readTexts contents) modules entry)
    {symbol file : String} :
    work.scan.symbols.get? symbol = some file
      ↔ ∃ name, DeclaresIn (readTexts contents) entry work.scan.scanned file name
        ∧ symbol = symbolKey file name := by
  refine ⟨h.symbols symbol file, ?_⟩
  rintro ⟨name, hdeclares, rfl⟩
  have hkey : symbolKey file name ∈ work.scan.symbols.keys :=
    (h.consistent.symbols _).mpr ⟨file, name, hdeclares, rfl⟩
  obtain ⟨other, hother⟩ := Option.isSome_iff_exists.mp ((Table.mem_keys_iff _ _).mp hkey)
  obtain ⟨otherName, hotherDeclares, heq⟩ := h.symbols _ _ hother
  obtain ⟨rfl, -⟩ := symbolKey_inj hdeclares.isWord hotherDeclares.isWord heq
  exact hother

theorem Worklist.Tracks.exact (h : Worklist.Tracks (readTexts contents) modules entry ⟨scan, []⟩) :
    scan.Exact (readTexts contents) modules entry where
  scanned := by
    have hreached : {file | file ∈ scan.scanned}
        = {file | ReflTransGen (FileLeadsTo (readTexts contents) modules) entry file} :=
      Set.ext fun file => h.mem_scanned_iff
    rw [hreached]
    exact isLeast_reachable _ _ _
  names := h.consistent.names
  symbols _ _ := h.get?_symbols_iff
  external := h.external

/-- Serving the queue ends in whichever order its files are taken, the scan of a project is one way
to serve it, and every way leads to the files that the entry file reaches and to what they
contribute. -/
theorem scan_is_reachability (contents : String → Option String) (modules : Table String)
    (entry : String) :
    (WellFounded fun after before : Worklist =>
        before.Serves (readTexts contents) modules entry after)
      ∧ ReflTransGen (Worklist.Serves (readTexts contents) modules entry) ⟨.empty, [entry]⟩
          ⟨scanProject (readTexts contents) modules entry, []⟩
      ∧ ∀ scan, ReflTransGen (Worklist.Serves (readTexts contents) modules entry)
            ⟨.empty, [entry]⟩ ⟨scan, []⟩ →
          scan.Exact (readTexts contents) modules entry := by
  refine ⟨wellFounded_serves _ _ _, serves_scanProject _ _ _, fun scan hrun => ?_⟩
  exact ((tracks_start _ _ _).run hrun).exact

/-- Three files that import each other, one of them also itself. -/
def ring : String → Option String
  | "main.py" => some "import left, right\n"
  | "left.py" => some "def go():\n    import right, main\n"
  | "right.py" => some "from right import *\nimport left, math\n"
  | _ => none

def ringModules : Table String :=
  .ofList [("main", "main.py"), ("left", "left.py"), ("right", "right.py")]

theorem scan_ring_is_reachability :
    (scanProject (readTexts ring) ringModules "main.py").scanned
        = ["main.py", "left.py", "right.py"]
      ∧ (scanProject (readTexts ring) ringModules "main.py").Exact (readTexts ring) ringModules
          "main.py" := by
  obtain ⟨-, hrun, hexact⟩ := scan_is_reachability ring ringModules "main.py"
  exact ⟨by decide +kernel, hexact _ hrun⟩

end RobotKit.Link
