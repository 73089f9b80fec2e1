import RobotKit.Proofs.Blocks
import RobotKit.Proofs.Scan

/-!
# Where imports lead

The import statements of a script are those that stand in it at any depth (`mem_importsOf`). Each
of them leads to files of the project, or it leaves the project. Following imports puts exactly the
files that they lead to into the queue and records exactly the texts of those that leave
(`adds_followImport`).
-/

namespace RobotKit.Link

open List RobotKit.Script

variable {source : Option String} {modules : Table String} {file path : String}

/-! ## Imports at any depth -/

/-- The import that a statement is, if it is one. -/
def importOf? : Stmt → Option Import
  | .imports names => some (.modules names)
  | .importFrom source names level => some (.names source names level)
  | _ => none

/-- Does the import stand in the block, at any depth? -/
inductive Import.Within (i : Import) : List Stmt → Prop
  | here {s : Stmt} {block : List Stmt} (hs : s ∈ block) (himport : importOf? s = some i) :
      i.Within block
  | inside {s : Stmt} {block inner : List Stmt} (hs : s ∈ block) (hinner : inner ∈ s.blocks)
      (hwithin : i.Within inner) : i.Within block

variable {i : Import}

theorem Import.not_within_nil : ¬ i.Within [] := by
  intro h
  cases h with
  | here hs => exact absurd hs not_mem_nil
  | inside hs => exact absurd hs not_mem_nil

theorem Import.within_cons {s : Stmt} {rest : List Stmt} :
    i.Within (s :: rest)
      ↔ (importOf? s = some i ∨ ∃ inner ∈ s.blocks, i.Within inner) ∨ i.Within rest := by
  constructor
  · intro h
    cases h with
    | here hs himport =>
      rcases mem_cons.mp hs with rfl | hs
      · exact .inl (.inl himport)
      · exact .inr (.here hs himport)
    | inside hs hinner hwithin =>
      rcases mem_cons.mp hs with rfl | hs
      · exact .inl (.inr ⟨_, hinner, hwithin⟩)
      · exact .inr (.inside hs hinner hwithin)
  · rintro ((himport | ⟨inner, hinner, hwithin⟩) | h)
    · exact .here mem_cons_self himport
    · exact .inside mem_cons_self hinner hwithin
    · cases h with
      | here hs himport => exact .here (mem_cons_of_mem s hs) himport
      | inside hs hinner hwithin => exact .inside (mem_cons_of_mem s hs) hinner hwithin

@[simp] theorem mem_flatten_joinLevels (a b : List (List Import)) :
    i ∈ (joinLevels a b).flatten ↔ i ∈ a.flatten ∨ i ∈ b.flatten := by
  fun_induction joinLevels a b with
  | case1 other => simp
  | case2 levels => simp
  | case3 first firsts second seconds ih =>
    simp only [flatten_cons, mem_append, ih]
    exact or_or_or_comm

@[simp] theorem mem_flatten_nil_cons (levels : List (List Import)) :
    i ∈ ([] :: levels).flatten ↔ i ∈ levels.flatten := by
  rw [flatten_cons, nil_append]

/-- The imports on all levels of statements, blocks and clauses. -/
theorem mem_levels_all (i : Import) :
    (∀ s, i ∈ (stmtLevels s).flatten ↔ importOf? s = some i ∨ ∃ inner ∈ s.blocks, i.Within inner)
    ∧ (∀ cases, i ∈ (caseLevels cases).flatten ↔ ∃ inner ∈ cases.map Case.body, i.Within inner)
    ∧ (∀ block, i ∈ (blockLevels block).flatten ↔ i.Within block)
    ∧ ∀ handlers, i ∈ (handlerLevels handlers).flatten
      ↔ ∃ inner ∈ handlers.map Handler.body, i.Within inner := by
  apply stmtLevels.mutual_induct
  case case11 =>
    intro s
    intros
    cases s <;> grind [stmtLevels, importOf?, Stmt.blocks]
  all_goals
    intros
    simp only [stmtLevels, blockLevels, handlerLevels, caseLevels, mem_flatten_joinLevels,
      mem_flatten_nil_cons, *]
    simp [importOf?, Stmt.blocks, Handler.body, Case.body, Import.not_within_nil,
      Import.within_cons, or_and_right, exists_or, eq_comm]

theorem mem_importsOf {body : List Stmt} : i ∈ importsOf body ↔ i.Within body :=
  (mem_levels_all i).2.2.1 body

/-! ## Files and texts of imports -/

/-- The packages that a file may belong to, the innermost first. -/
def packagesOf (file : String) : List String :=
  (longestFirst (splitDots (packageName file))).map (".".intercalate ·)

/-- Is the path the file of the module that a `from` import of a file names? A module of that name
comes first, then the modules below the packages of the importing file, innermost first. -/
inductive SourceAt (modules : Table String) (file : String) : Option String → String → Prop
  | direct {name path : String} (hget : modules.get? name = some path) :
      SourceAt modules file (some name) path
  | nested {source : Option String} {package path : String} {inner outer : List String}
      (hdirect : source.bind modules.get? = none)
      (hpackages : packagesOf file = inner ++ package :: outer) (hpackage : package ≠ "")
      (hget : modules.get? (package ++ "." ++ source.getD "None") = some path)
      (hinner : ∀ p ∈ inner, p ≠ "" → modules.get? (p ++ "." ++ source.getD "None") = none) :
      SourceAt modules file source path

/-- Does the import of a file lead to the file at a path? -/
inductive Import.LeadsTo (modules : Table String) (file : String) : Import → String → Prop
  | module {names : List Alias} {a : Alias} {path : String} (ha : a ∈ names)
      (hdevice : isDeviceModule a.name = false) (hget : modules.get? a.name = some path) :
      LeadsTo modules file (.modules names) path
  | source {source : Option String} {names : List Alias} {level : Nat} {path : String}
      (hdevice : ∀ name ∈ source, isDeviceModule name = false)
      (hsource : SourceAt modules file source path) :
      LeadsTo modules file (.names source names level) path

/-- Does the import of a file leave the project, with this text? A relative import that leads
nowhere does not. -/
inductive Import.Leaves (modules : Table String) (file : String) : Import → String → Prop
  | module {names : List Alias} {a : Alias} (ha : a ∈ names)
      (houtside : isDeviceModule a.name = true ∨ modules.get? a.name = none) :
      Leaves modules file (.modules names) (importText names)
  | device {name : String} {names : List Alias} {level : Nat}
      (hdevice : isDeviceModule name = true) :
      Leaves modules file (.names (some name) names level)
        (importFromText (some name) names level)
  | source {source : Option String} {names : List Alias}
      (houtside : ∀ path, ¬ SourceAt modules file source path) :
      Leaves modules file (.names source names 0) (importFromText source names 0)

theorem sourceFile?_eq_some_iff :
    sourceFile? modules file source = some path ↔ SourceAt modules file source path := by
  rw [sourceFile?]
  cases hdirect : source.bind modules.get? with
  | some found =>
    obtain ⟨name, rfl, hget⟩ := Option.bind_eq_some_iff.mp hdirect
    constructor
    · intro h
      exact .direct (hget.trans h)
    · intro h
      cases h with
      | direct hget' => exact hget.symm.trans hget'
      | nested hnone => exact absurd (hnone.symm.trans hdirect) (by simp)
  | none =>
    show (packagesOf file).findSome? _ = some path ↔ _
    rw [findSome?_eq_some_iff]
    constructor
    · rintro ⟨inner, package, outer, hpackages, hfound, hinner⟩
      have hpackage : package ≠ "" := by
        intro hempty
        rw [hempty] at hfound
        exact absurd hfound (by simp)
      refine .nested hdirect hpackages hpackage ?_ fun p hp hne => ?_
      · simpa [hpackage] using hfound
      · simpa [hne] using hinner p hp
    · intro h
      cases h with
      | direct hget => exact absurd (hget.symm.trans hdirect) (by simp)
      | @nested _ package _ inner outer _ hpackages hpackage hget hinner =>
        refine ⟨inner, package, outer, hpackages, ?_, fun p hp => ?_⟩
        · simpa [hpackage] using hget
        · by_cases hne : p = ""
          · simp [hne]
          · simpa [hne] using hinner p hp hne

theorem Import.leadsTo_names_iff {names : List Alias} {level : Nat} :
    (Import.names source names level).LeadsTo modules file path
      ↔ (source.map isDeviceModule).getD false = false
        ∧ sourceFile? modules file source = some path := by
  rw [sourceFile?_eq_some_iff]
  constructor
  · rintro (_ | ⟨hdevice, hsource⟩)
    refine ⟨?_, hsource⟩
    cases source with
    | none => rfl
    | some name => exact hdevice name rfl
  · rintro ⟨hdevice, hsource⟩
    refine .source ?_ hsource
    rintro name rfl
    exact hdevice

/-! ## Following imports -/

/-- What a step adds to a work list: to the queue those files that are not yet scanned, to the
imports that leave the project the texts. -/
structure Worklist.Adds (work work' : Worklist) (leads leaves : String → Prop) : Prop where
  queue : ∀ path, path ∈ work'.queue
    ↔ path ∈ work.queue ∨ leads path ∧ path ∉ work.scan.scanned
  external : ∀ text, text ∈ work'.scan.external ↔ text ∈ work.scan.external ∨ leaves text
  scanned : work'.scan.scanned = work.scan.scanned

namespace Worklist.Adds

variable {work work' work'' : Worklist} {leads leads' leaves leaves' : String → Prop}

theorem congr (h : work.Adds work' leads leaves) (hleads : ∀ path, leads path ↔ leads' path)
    (hleaves : ∀ text, leaves text ↔ leaves' text) : work.Adds work' leads' leaves' where
  queue path := by rw [h.queue, hleads]
  external text := by rw [h.external, hleaves]
  scanned := h.scanned

theorem trans (h : work.Adds work' leads leaves) (h' : work'.Adds work'' leads' leaves') :
    work.Adds work'' (fun path => leads path ∨ leads' path)
      (fun text => leaves text ∨ leaves' text) where
  queue path := by rw [h'.queue, h.queue, h.scanned, or_and_right, or_assoc]
  external text := by rw [h'.external, h.external, or_assoc]
  scanned := h'.scanned.trans h.scanned

theorem nothing (hqueue : work'.queue = work.queue)
    (hexternal : work'.scan.external = work.scan.external)
    (hscanned : work'.scan.scanned = work.scan.scanned) :
    work.Adds work' (fun _ => False) (fun _ => False) where
  queue path := by rw [hqueue, false_and, or_false]
  external text := by rw [hexternal, or_false]
  scanned := hscanned

theorem foldl {α : Type} {f : Worklist → α → Worklist} {leads leaves : α → String → Prop}
    (hf : ∀ (work : Worklist) (a : α), work.Adds (f work a) (leads a) (leaves a))
    (items : List α) (work : Worklist) :
    work.Adds (items.foldl f work) (fun path => ∃ a ∈ items, leads a path)
      (fun text => ∃ a ∈ items, leaves a text) := by
  induction items generalizing work with
  | nil => exact (nothing rfl rfl rfl).congr (by simp) (by simp)
  | cons a rest ih => exact ((hf work a).trans (ih (f work a))).congr (by simp) (by simp)

theorem note (work : Worklist) (note : Note) :
    work.Adds (work.note note) (fun _ => False) (fun _ => False) :=
  nothing rfl rfl rfl

theorem outside (work : Worklist) (text : String) :
    work.Adds (work.outside text) (fun _ => False) (· = text) where
  queue path := by rw [false_and, or_false]; rfl
  external other := mem_addName
  scanned := rfl

theorem enqueue (work : Worklist) (file : String) :
    work.Adds (work.enqueue file) (· = file) (fun _ => False) := by
  rw [Worklist.enqueue]
  split
  · rename_i hscanned
    rw [contains_iff_mem] at hscanned
    refine ⟨fun path => ⟨.inl, ?_⟩, fun text => (or_false _).symm ▸ Iff.rfl, rfl⟩
    rintro (hpath | ⟨rfl, hnew⟩)
    · exact hpath
    · exact absurd hscanned hnew
  · rename_i hnew
    rw [contains_iff_mem] at hnew
    refine ⟨fun path => ?_, fun text => (or_false _).symm ▸ Iff.rfl, rfl⟩
    rw [mem_append, mem_singleton]
    refine or_congr_right ⟨?_, And.left⟩
    rintro rfl
    exact ⟨rfl, hnew⟩

end Worklist.Adds

/-- Following one module of an import adds the file of that module, or else the text. -/
theorem adds_followModule (modules : Table String) (file text : String) (work : Worklist)
    (a : Alias) :
    work.Adds (followModule modules file text work a)
      (fun path => isDeviceModule a.name = false ∧ modules.get? a.name = some path)
      (fun other => (isDeviceModule a.name = true ∨ modules.get? a.name = none)
        ∧ other = text) := by
  rw [followModule]
  have hnote := Worklist.Adds.note work
    (.line ("DEBUG: Found import '" ++ a.name ++ "' in " ++ baseName file))
  cases hdevice : isDeviceModule a.name with
  | true => exact (hnote.trans (.outside _ text)).congr (by simp) (by simp)
  | false =>
    cases hget : modules.get? a.name with
    | some found => exact (hnote.trans (.enqueue _ found)).congr (by simp [eq_comm]) (by simp)
    | none => exact (hnote.trans (.outside _ text)).congr (by simp) (by simp)

/-- Following a `from` import adds the file of its module, or else the text unless the import is
relative. -/
theorem adds_followImport_names (modules : Table String) (file : String) (work : Worklist)
    (source : Option String) (names : List Alias) (level : Nat) :
    work.Adds (followImport modules file work (.names source names level))
      (fun path => (source.map isDeviceModule).getD false = false
        ∧ sourceFile? modules file source = some path)
      (fun text => ((source.map isDeviceModule).getD false = true
        ∨ sourceFile? modules file source = none ∧ level = 0)
          ∧ text = importFromText source names level) := by
  rw [followImport]
  have hnote := Worklist.Adds.note work
    (.line ("DEBUG: Found 'from " ++ source.getD "None" ++ " import ...' in " ++ baseName file))
  cases hdevice : (source.map isDeviceModule).getD false with
  | true => exact (hnote.trans (.outside _ _)).congr (by simp) (by simp)
  | false =>
    cases hsource : sourceFile? modules file source with
    | some found =>
      have hadds := hnote.trans (.enqueue _ found)
      exact Worklist.Adds.congr ⟨hadds.queue, hadds.external, hadds.scanned⟩ (by simp [eq_comm])
        (by simp)
    | none =>
      by_cases hlevel : level = 0
      · simp only [hlevel, ↓reduceIte]
        exact (hnote.trans (.outside _ _)).congr (by simp) (by simp)
      · simp only [hlevel, ↓reduceIte]
        exact hnote.congr (by simp) (by simp)

theorem adds_followImport (modules : Table String) (file : String) (work : Worklist)
    (i : Import) :
    work.Adds (followImport modules file work i) (i.LeadsTo modules file)
      (i.Leaves modules file) := by
  cases i with
  | modules names =>
    refine (Worklist.Adds.foldl (adds_followModule modules file (importText names)) names
      work).congr (fun path => ⟨?_, ?_⟩) (fun text => ⟨?_, ?_⟩)
    · rintro ⟨a, ha, hdevice, hget⟩
      exact .module ha hdevice hget
    · rintro ⟨ha, hdevice, hget⟩
      exact ⟨_, ha, hdevice, hget⟩
    · rintro ⟨a, ha, houtside, rfl⟩
      exact .module ha houtside
    · rintro ⟨ha, houtside⟩
      exact ⟨_, ha, houtside, rfl⟩
  | names source names level =>
    refine (adds_followImport_names modules file work source names level).congr
      (fun path => Import.leadsTo_names_iff.symm) (fun text => ⟨?_, ?_⟩)
    · rintro ⟨hdevice | ⟨hsource, rfl⟩, rfl⟩
      · cases source with
        | none => exact absurd hdevice (by simp)
        | some name => exact .device hdevice
      · refine .source fun path hpath => ?_
        rw [sourceFile?_eq_some_iff.mpr hpath] at hsource
        exact absurd hsource (by simp)
    · rintro (_ | hdevice | houtside)
      · exact ⟨.inl hdevice, rfl⟩
      · refine ⟨.inr ⟨?_, rfl⟩, rfl⟩
        rw [Option.eq_none_iff_forall_ne_some]
        exact fun path hpath => houtside path (sourceFile?_eq_some_iff.mp hpath)

end RobotKit.Link
