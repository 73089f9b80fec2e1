import RobotKit.Proofs.Linking
import RobotKit.Proofs.Reachability

/-!
# Which import a name comes from

The `from` imports of a file take names from files of the project, one after the other in the order
in which the imports are met. A scan keeps, for each name, the file of the last import that takes
it, and it keeps one wildcard only, the last one. Where the file of that wildcard declares a name,
the wildcard decides, whatever other imports say (`get?_originsOf_eq_some_iff`).
-/

namespace RobotKit.Link

open List RobotKit.Script Relation

variable {read : Reads} {modules : Table String} {entry file : String}

/-! ## What a file takes -/

/-- The names that an import takes from a file of the project, a wildcard as `*`. -/
def Import.takes (modules : Table String) (file : String) : Import → List Origin
  | .modules _ => []
  | .names source aliases _ =>
    if (source.map isDeviceModule).getD false then []
    else match sourceFile? modules file source with
      | some path => aliases.map fun a => ⟨path, a.name⟩
      | none => []

/-- The names that the imports of a file take, in the order in which they are met. -/
def takenBy (read : Reads) (modules : Table String) (file : String) : List Origin :=
  (importsOf ((read file).getD [])).flatMap (Import.takes modules file)

theorem Import.mem_takes {i : Import} {o : Origin} :
    o ∈ i.takes modules file ↔ ∃ source names level, i = .names source names level ∧
      i.LeadsTo modules file o.file ∧ ∃ a ∈ names, a.name = o.name := by
  cases i with
  | modules names => simp [takes]
  | names source names level =>
    obtain ⟨path, name⟩ := o
    constructor
    · intro h
      cases hdevice : (source.map isDeviceModule).getD false with
      | true => simp [takes, hdevice] at h
      | false =>
        cases hsource : sourceFile? modules file source with
        | none => simp [takes, hdevice, hsource] at h
        | some found =>
          rw [takes, hdevice, hsource] at h
          obtain ⟨a, ha, heq⟩ := mem_map.mp h
          obtain ⟨rfl, rfl⟩ := Origin.mk.inj heq
          exact ⟨source, names, level, rfl, leadsTo_names_iff.mpr ⟨hdevice, hsource⟩, a, ha, rfl⟩
    · rintro ⟨source, names, level, heq, hleads, a, ha, hname⟩
      obtain ⟨rfl, rfl, rfl⟩ := Import.names.inj heq
      obtain ⟨hdevice, hsource⟩ := leadsTo_names_iff.mp hleads
      rw [takes, hdevice, hsource]
      exact mem_map.mpr ⟨a, ha, congrArg (Origin.mk path) hname⟩

/-! ## What a scan keeps of it -/

/-- Records a name that a file takes. -/
def FileImports.take (imports : FileImports) (o : Origin) : FileImports := imports.add o.file o.name

/-- What a scan has recorded of the imports of a file. -/
def Scan.importsBy (scan : Scan) (file : String) : FileImports :=
  (scan.imported.get? file).getD .empty

/-- Does the step record that the file takes these names, and nothing else? -/
def Worklist.Records (file : String) (taken : List Origin) (work work' : Worklist) : Prop :=
  ∀ other, work'.scan.importsBy other
    = if other = file then taken.foldl FileImports.take (work.scan.importsBy other)
      else work.scan.importsBy other

namespace Worklist.Records

variable {work work' work'' : Worklist} {taken taken' : List Origin}

theorem of_eq (h : work'.scan.imported = work.scan.imported) : Records file [] work work' := by
  intro other
  simp [Scan.importsBy, h]

theorem trans (h : Records file taken work work') (h' : Records file taken' work' work'') :
    Records file (taken ++ taken') work work'' := by
  intro other
  rw [h' other, h other]
  by_cases hother : other = file
  · simp only [if_pos hother, foldl_append]
  · simp only [if_neg hother]

theorem foldl {α : Type} {f : Worklist → α → Worklist} {takes : α → List Origin}
    (hf : ∀ (work : Worklist) (a : α), Records file (takes a) work (f work a)) (items : List α)
    (work : Worklist) : Records file (items.flatMap takes) work (items.foldl f work) := by
  induction items generalizing work with
  | nil => exact of_eq rfl
  | cons a rest ih => exact (hf work a).trans (ih (f work a))

end Worklist.Records

theorem imported_enqueue (work : Worklist) (path : String) :
    (work.enqueue path).scan.imported = work.scan.imported := by
  unfold Worklist.enqueue
  split <;> rfl

theorem imported_followModule (modules : Table String) (file text : String) (work : Worklist)
    (a : Alias) : (followModule modules file text work a).scan.imported = work.scan.imported := by
  unfold followModule
  split
  · rfl
  · split
    · exact imported_enqueue _ _
    · rfl

/-- Following an import records what it takes. -/
theorem records_followImport (modules : Table String) (file : String) (work : Worklist)
    (i : Import) : Worklist.Records file (i.takes modules file) work
      (followImport modules file work i) := by
  cases i with
  | modules names =>
    have hnames : Worklist.Records file (names.flatMap fun _ => []) work
        (names.foldl (followModule modules file (importText names)) work) :=
      .foldl (fun work a => .of_eq (imported_followModule modules file _ work a)) names work
    rwa [flatMap_eq_nil_iff.mpr fun _ _ => rfl] at hnames
  | names source names level =>
    cases hdevice : (source.map isDeviceModule).getD false with
    | true =>
      simp only [followImport, Import.takes, hdevice, if_true]
      exact .of_eq rfl
    | false =>
      cases hsource : sourceFile? modules file source with
      | none =>
        simp only [followImport, Import.takes, hdevice, hsource, Bool.false_eq_true, if_false]
        refine .of_eq ?_
        split <;> rfl
      | some path =>
        simp only [followImport, Import.takes, hdevice, hsource, Bool.false_eq_true, if_false]
        intro other
        unfold Scan.importsBy
        simp only [Table.get?_update, imported_enqueue]
        by_cases hother : other = file
        · simp only [hother, foldl_map]
          rfl
        · simp only [if_neg hother]
          rfl

/-- Looking at a file records what its imports take. -/
theorem records_scanFile (read : Reads) (modules : Table String) (entry file : String)
    (work : Worklist) : Worklist.Records file (takenBy read modules file) work
      (scanFile read modules entry file work) := by
  unfold takenBy scanFile
  cases hread : read file with
  | none => exact .of_eq rfl
  | some body =>
    let looked := work.scan.looked file
    let recorded := (declarationsOf (file = entry) body).foldl (Scan.declare · file ·) looked
    have hrecorded : Worklist.Records file [] work ⟨recorded, work.queue⟩ :=
      .of_eq (Scan.scanned_foldl_declare file _ looked).2
    exact hrecorded.trans (.foldl (records_followImport modules file) (importsOf body) _)

/-- The scanned files have recorded what they take, and the other files nothing. -/
def Worklist.Recorded (read : Reads) (modules : Table String) (work : Worklist) : Prop :=
  ∀ file, work.scan.importsBy file
    = if file ∈ work.scan.scanned then (takenBy read modules file).foldl .take .empty else .empty

theorem Worklist.Recorded.serves {work work' : Worklist} (h : work.Recorded read modules)
    (hserves : work.Serves read modules entry work') : work'.Recorded read modules := by
  cases hserves with
  | skip => exact h
  | @look scan before after file hnew =>
    intro other
    rw [records_scanFile read modules entry file _ other, scanned_scanFile]
    show (if other = file then _ else scan.importsBy other) = _
    have hold := h other
    by_cases hother : other = file
    · subst hother
      rw [if_pos rfl, if_pos (by simp)]
      rw [if_neg hnew] at hold
      exact congrArg (fun imports => (takenBy read modules other).foldl .take imports) hold
    · rw [if_neg hother]
      refine hold.trans ?_
      simp [hother]

/-- A scan has recorded what the scanned files take. -/
theorem importsBy_scanProject (read : Reads) (modules : Table String) (entry file : String) :
    (scanProject read modules entry).importsBy file
      = if file ∈ (scanProject read modules entry).scanned
        then (takenBy read modules file).foldl .take .empty else .empty := by
  have hstart : Worklist.Recorded read modules ⟨.empty, [entry]⟩ := by
    intro file
    simp [Scan.importsBy, Scan.empty]
  have hrecorded : Worklist.Recorded read modules ⟨scanProject read modules entry, []⟩ := by
    refine ReflTransGen.head_induction_on (motive := fun work _ => work.Recorded read modules → _)
      (serves_scanProject read modules entry) id ?_ hstart
    intro work work' hserves _ ih hwork
    exact ih (hwork.serves hserves)
  exact hrecorded file

/-! ## The import that decides -/

/-- The last of the taken names that has a property. -/
def IsLast (P : Origin → Prop) (taken : List Origin) (o : Origin) : Prop :=
  P o ∧ ∃ before after, taken = before ++ o :: after ∧ ∀ x ∈ after, ¬ P x

section

variable {P : Origin → Prop} {taken : List Origin} {o x : Origin}

theorem not_isLast_nil : ¬ IsLast P [] o := by
  rintro ⟨-, before, after, heq, -⟩
  simp at heq

theorem isLast_concat_of_pos (hx : P x) : IsLast P (taken ++ [x]) o ↔ o = x := by
  constructor
  · rintro ⟨-, before, after, heq, hafter⟩
    rcases eq_nil_or_concat after with rfl | ⟨init, last, rfl⟩
    · exact (List.cons.inj (append_inj_right' heq rfl)).1.symm
    · rw [concat_eq_append, ← cons_append, ← append_assoc] at heq
      obtain rfl := (List.cons.inj (append_inj_right' heq rfl)).1
      exact absurd hx (hafter x (by simp))
  · rintro rfl
    exact ⟨hx, taken, [], rfl, by simp⟩

theorem isLast_concat_of_neg (hx : ¬ P x) : IsLast P (taken ++ [x]) o ↔ IsLast P taken o := by
  constructor
  · rintro ⟨ho, before, after, heq, hafter⟩
    rcases eq_nil_or_concat after with rfl | ⟨init, last, rfl⟩
    · obtain rfl := (List.cons.inj (append_inj_right' heq rfl)).1
      exact absurd ho hx
    · rw [concat_eq_append, ← cons_append, ← append_assoc] at heq
      exact ⟨ho, before, init, append_inj_left' heq rfl, fun y hy => hafter y (by simp [hy])⟩
  · rintro ⟨ho, before, after, rfl, hafter⟩
    refine ⟨ho, before, after ++ [x], by simp, fun y hy => ?_⟩
    rcases mem_append.mp hy with hy | hy
    · exact hafter y hy
    · exact mem_singleton.mp hy ▸ hx

end

/-- Does taking this name set or cancel the wildcard of a file? -/
def Origin.IsWildcard (o : Origin) : Prop := o.name = "*" ∨ o.name = wildcardName

/-- The wildcard that is kept is the last one. -/
theorem wildcard_foldl_take {taken : List Origin} {path : String} :
    (taken.foldl FileImports.take .empty).wildcard = some path
      ↔ IsLast Origin.IsWildcard taken ⟨path, "*"⟩ := by
  induction taken using List.reverseRecOn with
  | nil => exact iff_of_false (by simp [FileImports.empty]) not_isLast_nil
  | append_singleton taken x ih =>
    obtain ⟨file, name⟩ := x
    rw [foldl_append, foldl_cons, foldl_nil, FileImports.take, FileImports.add]
    by_cases hstar : name = "*"
    · rw [if_pos hstar, isLast_concat_of_pos (.inl hstar)]
      simp [hstar, eq_comm]
    · rw [if_neg hstar]
      by_cases hmark : name = wildcardName
      · rw [if_pos hmark, isLast_concat_of_pos (.inr hmark)]
        refine iff_of_false (by simp) fun heq => hstar (congrArg Origin.name heq).symm
      · rw [if_neg hmark, isLast_concat_of_neg (not_or.mpr ⟨hstar, hmark⟩)]
        exact ih

/-- Of the imports that take a name the last one is kept. -/
theorem get?_names_foldl_take {taken : List Origin} {n : String} {o : Origin} :
    (taken.foldl FileImports.take .empty).names.get? n = some o
      ↔ ¬ Origin.IsWildcard ⟨o.file, n⟩ ∧ IsLast (·.name = n) taken o := by
  induction taken using List.reverseRecOn with
  | nil => exact iff_of_false (by simp [FileImports.empty]) fun h => not_isLast_nil h.2
  | append_singleton taken x ih =>
    obtain ⟨file, name⟩ := x
    rw [foldl_append, foldl_cons, foldl_nil, FileImports.take, FileImports.add]
    by_cases hn : name = n
    · subst hn
      rw [isLast_concat_of_pos (P := (·.name = name)) (x := ⟨file, name⟩) rfl]
      by_cases hstar : name = "*"
      · rw [if_pos hstar]
        refine iff_of_false (fun h => (ih.mp h).1 (.inl hstar)) fun h => h.1 (.inl hstar)
      · rw [if_neg hstar]
        by_cases hmark : name = wildcardName
        · rw [if_pos hmark]
          refine iff_of_false (fun h => (ih.mp h).1 (.inr hmark)) fun h => h.1 (.inr hmark)
        · rw [if_neg hmark, Table.get?_insert, if_pos rfl, Option.some.injEq, eq_comm]
          exact (and_iff_right (not_or.mpr ⟨hstar, hmark⟩)).symm
    · rw [isLast_concat_of_neg hn]
      split
      · exact ih
      · split
        · exact ih
        · rw [Table.get?_insert, if_neg (Ne.symm hn)]
          exact ih

/-! ## Origins -/

section

variable {project : Project} {n path : String}

/-- The names that the imports of a file of the project take. -/
def Project.taken (project : Project) (file : String) : List Origin :=
  takenBy project.read (moduleMap project.files) file

/-- Does the last wildcard of the file take the names of the file at the path? -/
def Project.WildcardFrom (project : Project) (file path : String) : Prop :=
  IsLast Origin.IsWildcard (project.taken file) ⟨path, "*"⟩

/-- Does the file take the name from the file at the path? The last wildcard decides if its file
declares the name, otherwise the last import of the name. -/
inductive Project.TakesFrom (project : Project) (file n path : String) : Prop
  | wildcard (hwildcard : project.WildcardFrom file path) (hdeclares : project.Declares path n)
  | named (hname : ¬ Origin.IsWildcard ⟨path, n⟩)
      (hlast : IsLast (·.name = n) (project.taken file) ⟨path, n⟩)
      (hnone : ∀ other, project.WildcardFrom file other → ¬ project.Declares other n)

theorem get?_foldl_insert (found : List String) (names : Table Origin) (path n : String) :
    (found.foldl (fun names name => names.insert name ⟨path, name⟩) names).get? n
      = if n ∈ found then some ⟨path, n⟩ else names.get? n := by
  induction found generalizing names with
  | nil => rfl
  | cons name rest ih =>
    rw [foldl_cons, ih, Table.get?_insert]
    by_cases hrest : n ∈ rest
    · simp [hrest]
    · by_cases hn : n = name
      · simp [hn]
      · simp [hrest, hn]

theorem Project.get?_originsOf :
    (project.originsOf file).get? n = match (project.analysis.scan.importsBy file).wildcard with
      | none => (project.analysis.scan.importsBy file).names.get? n
      | some path => if n ∈ project.analysis.scan.namesOf path then some ⟨path, n⟩
        else (project.analysis.scan.importsBy file).names.get? n := by
  unfold Scan.importsBy
  show ((project.analysis.scan.origins.get? file).getD {}).get? n = _
  rw [Scan.origins, Table.get?_map]
  cases project.analysis.scan.imported.get? file with
  | none => rfl
  | some imports =>
    rw [Option.map_some, Option.getD_some, Option.getD_some]
    cases imports.wildcard with
    | none => rfl
    | some path => exact get?_foldl_insert _ _ _ _

theorem Project.importsBy_eq (hscanned : file ∈ project.analysis.scan.scanned) :
    project.analysis.scan.importsBy file = (project.taken file).foldl .take .empty :=
  (importsBy_scanProject _ _ _ file).trans (if_pos hscanned)

/-- If no wildcard has the name, the last import of the name decides. -/
theorem Project.isLast_iff_takesFrom {o : Origin}
    (hnone : ∀ other, project.WildcardFrom file other → ¬ project.Declares other n) :
    (¬ Origin.IsWildcard ⟨o.file, n⟩ ∧ IsLast (·.name = n) (project.taken file) o)
      ↔ o.name = n ∧ project.TakesFrom file n o.file := by
  constructor
  · rintro ⟨hname, hlast⟩
    obtain rfl := hlast.1
    exact ⟨rfl, .named hname hlast hnone⟩
  · rintro ⟨rfl, htakes⟩
    cases htakes with
    | wildcard hpath hdeclares => exact absurd hdeclares (hnone o.file hpath)
    | named hname hlast => exact ⟨hname, hlast⟩

section

variable (hscanned : file ∈ project.analysis.scan.scanned)

include hscanned

/-- The origin of a name is where the file takes it from. -/
theorem Project.get?_originsOf_eq_some_iff {o : Origin} :
    (project.originsOf file).get? n = some o ↔ o.name = n ∧ project.TakesFrom file n o.file := by
  have hwildcard : ∀ path, (project.analysis.scan.importsBy file).wildcard = some path
      ↔ project.WildcardFrom file path := by
    intro path
    rw [importsBy_eq hscanned]
    exact wildcard_foldl_take
  have hnames : (project.analysis.scan.importsBy file).names.get? n = some o
      ↔ ¬ Origin.IsWildcard ⟨o.file, n⟩ ∧ IsLast (·.name = n) (project.taken file) o := by
    rw [importsBy_eq hscanned]
    exact get?_names_foldl_take
  cases hfound : (project.analysis.scan.importsBy file).wildcard with
  | none =>
    rw [get?_originsOf, hfound, hnames]
    refine isLast_iff_takesFrom fun path hpath => ?_
    rw [(hwildcard path).mpr hpath] at hfound
    cases hfound
  | some path =>
    have hpath := (hwildcard path).mp hfound
    have honly : ∀ other, project.WildcardFrom file other → other = path := by
      intro other hother
      rw [(hwildcard other).mpr hother] at hfound
      exact Option.some.inj hfound
    -- the wildcard hides other imports of the names that its file declares
    rw [get?_originsOf, hfound]
    dsimp only
    by_cases hdeclares : project.Declares path n
    · rw [if_pos (mem_namesOf.mpr hdeclares), Option.some.injEq]
      constructor
      · rintro rfl
        exact ⟨rfl, .wildcard hpath hdeclares⟩
      · rintro ⟨rfl, htakes⟩
        cases htakes with
        | wildcard hother => rw [← honly _ hother]
        | named _ _ hnone => exact absurd hdeclares (hnone path hpath)
    · rw [if_neg fun hmem => hdeclares (mem_namesOf.mp hmem), hnames]
      exact isLast_iff_takesFrom fun other hother => honly other hother ▸ hdeclares

theorem Project.TakesFrom.unique {other : String} (h : project.TakesFrom file n path)
    (h' : project.TakesFrom file n other) : path = other := by
  have horigin := (get?_originsOf_eq_some_iff (o := ⟨path, n⟩) hscanned).mpr ⟨rfl, h⟩
  have hother := (get?_originsOf_eq_some_iff (o := ⟨other, n⟩) hscanned).mpr ⟨rfl, h'⟩
  exact congrArg Origin.file (Option.some.inj (horigin.symm.trans hother))

theorem Project.get?_originsOf_eq_none_iff :
    (project.originsOf file).get? n = none ↔ ∀ path, ¬ project.TakesFrom file n path := by
  rw [Option.eq_none_iff_forall_ne_some]
  constructor
  · intro h path htakes
    exact h ⟨path, n⟩ ((get?_originsOf_eq_some_iff hscanned).mpr ⟨rfl, htakes⟩)
  · intro h o ho
    exact h o.file ((get?_originsOf_eq_some_iff hscanned).mp ho).2

/-- A name has a new name by import if the file takes it from another file than the entry file that
declares it. -/
theorem Project.imported?_eq_some_iff {new : String} :
    (project.analysis.scopeOf file).imported? n = some new
      ↔ ∃ path, project.TakesFrom file n path ∧ path ≠ project.entry ∧ project.Declares path n ∧
        new = markedName (project.relative path) n := by
  rw [imported?_scopeOf, Option.bind_eq_some_iff]
  constructor
  · rintro ⟨origin, horigin, hnew⟩
    obtain ⟨rfl, htakes⟩ := (get?_originsOf_eq_some_iff hscanned).mp horigin
    exact ⟨origin.file, htakes, newName?_eq_some_iff.mp hnew⟩
  · rintro ⟨path, htakes, hnew⟩
    exact ⟨⟨path, n⟩, (get?_originsOf_eq_some_iff hscanned).mpr ⟨rfl, htakes⟩,
      newName?_eq_some_iff.mpr hnew⟩

end

end

end RobotKit.Link
