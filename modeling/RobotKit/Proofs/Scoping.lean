import RobotKit.Proofs.Actions
import RobotKit.Proofs.Origins
import RobotKit.Proofs.Places

/-!
# Renaming and frames

A name of a module can be bound again in a frame inside it, where it stands for something else: a
parameter, a local variable, a variable of a class. Renaming knows the names of a file but not its
frames. So a name that the combination renames is renamed in every frame, except where it is kept as
the name of a parameter or of an attribute (`combine_respects_frames_iff`).
-/

namespace RobotKit.Link

open List RobotKit.Script

variable {project : Project} {file name : String}

/-! ## Which names are renamed -/

/-- The file takes the name from another file than the entry file, which declares it. -/
def Project.Takes (project : Project) (file name : String) : Prop :=
  ∃ path, project.TakesFrom file name path ∧ path ≠ project.entry ∧ project.Declares path name

/-- The file declares the name and is not the entry file. -/
def Project.Owns (project : Project) (file name : String) : Prop :=
  file ≠ project.entry ∧ project.Declares file name

/-- Does the combination rename the name in this role? In the hint of a parameter an import decides
alone, and definitions are never imported. -/
def Project.Renames (project : Project) (file name : String) : Role → Prop
  | .value | .hint => project.Takes file name ∨ project.Owns file name
  | .paramHint | .ordinaryHint => project.Takes file name ∨
      project.Owns file name ∧ ∀ path, ¬ project.TakesFrom file name path
  | .definition => project.Owns file name

/-- The rule for names in a role. -/
def Scope.rule (scope : Scope) : Role → String → String
  | .value => scope.reference
  | .hint => scope.reference ∘ scope.hint
  | .paramHint => scope.hint
  | .ordinaryHint => scope.hint ∘ scope.hint
  | .definition => scope.definition

theorem Scope.renameAs_name (scope : Scope) (role : Role) (name : String) :
    scope.renameAs role (.name name) = .name (scope.rule role name) := by
  cases role <;> rfl

theorem Scope.renameAs_attribute (scope : Scope) (role : Role) (value : Expr) (field : String) :
    scope.renameAs role (.attribute value field)
      = .attribute (scope.renameAs role value) field := by
  cases role <;> rfl

/-- A marked name is longer than the name. -/
theorem length_lt_length_markedName (relative name : String) :
    name.length < (markedName relative name).length := by
  rw [← String.length_toList, ← String.length_toList, toList_markedName, length_append,
    length_append, length_cons]
  omega

/-- Does the rule keep every name or make it longer? -/
def Lengthens (f : String → String) : Prop := ∀ name, f name = name ∨ name.length < (f name).length

/-- Of two such rules the second does not undo the first. -/
theorem Lengthens.comp_ne_iff {f g : String → String} (hf : Lengthens f) (hg : Lengthens g) :
    f (g name) ≠ name ↔ g name ≠ name ∨ f name ≠ name := by
  rcases hg name with heq | hlonger
  · simp [heq]
  · have hne : g name ≠ name := fun heq => by simp [heq] at hlonger
    have hlonger' : name.length < (f (g name)).length := by
      rcases hf (g name) with heq | hlt
      · rwa [heq]
      · exact Nat.lt_trans hlonger hlt
    refine iff_of_true (fun heq => ?_) (.inl hne)
    simp [heq] at hlonger'

/-- A new name is longer than the name that it stands for. -/
theorem Project.length_lt_of_newName? {other new : String}
    (h : (project.analysis.scopeOf file).newName? other name = some new) :
    name.length < new.length := by
  obtain ⟨-, -, rfl⟩ := newName?_eq_some_iff.mp h
  exact length_lt_length_markedName _ name

theorem Project.imported?_isSome_iff (hscanned : file ∈ project.analysis.scan.scanned) :
    ((project.analysis.scopeOf file).imported? name).isSome ↔ project.Takes file name := by
  simp only [Option.isSome_iff_exists, imported?_eq_some_iff hscanned]
  constructor
  · rintro ⟨new, path, htakes, hentry, hdeclares, -⟩
    exact ⟨path, htakes, hentry, hdeclares⟩
  · rintro ⟨path, htakes, hentry, hdeclares⟩
    exact ⟨_, path, htakes, hentry, hdeclares, rfl⟩

theorem Project.declared?_isSome_iff :
    ((project.analysis.scopeOf file).declared? name).isSome ↔ project.Owns file name := by
  rw [declared?_scopeOf, Option.isSome_iff_exists]
  constructor
  · rintro ⟨new, hnew⟩
    obtain ⟨hentry, hdeclares, -⟩ := newName?_eq_some_iff.mp hnew
    exact ⟨hentry, hdeclares⟩
  · rintro ⟨hentry, hdeclares⟩
    exact ⟨_, newName?_eq_some_iff.mpr ⟨hentry, hdeclares, rfl⟩⟩

theorem Project.length_lt_of_imported? {new : String}
    (h : (project.analysis.scopeOf file).imported? name = some new) :
    name.length < new.length := by
  rw [imported?_scopeOf] at h
  obtain ⟨origin, horigin, hnew⟩ := Option.bind_eq_some_iff.mp h
  rw [name_of_get?_originsOf horigin] at hnew
  exact length_lt_of_newName? hnew

theorem Project.length_lt_of_declared? {new : String}
    (h : (project.analysis.scopeOf file).declared? name = some new) :
    name.length < new.length := by
  rw [declared?_scopeOf] at h
  exact length_lt_of_newName? h

/-- A name with a longer name in its place is kept exactly if there is none. -/
theorem getD_ne_iff {new : Option String} (h : ∀ x, new = some x → name.length < x.length) :
    (new.getD name = name ∨ name.length < (new.getD name).length) ∧
      (new.getD name ≠ name ↔ new.isSome) := by
  cases new with
  | none => simp
  | some x =>
    have hlt := h x rfl
    refine ⟨.inr hlt, iff_of_true (fun heq => ?_) rfl⟩
    simp [show x = name from heq] at hlt

section

variable (hscanned : file ∈ project.analysis.scan.scanned) (name : String)
include hscanned

theorem Project.reference_spec :
    ((project.analysis.scopeOf file).reference name = name ∨
        name.length < ((project.analysis.scopeOf file).reference name).length) ∧
      ((project.analysis.scopeOf file).reference name ≠ name
        ↔ project.Takes file name ∨ project.Owns file name) := by
  rw [← imported?_isSome_iff hscanned, ← declared?_isSome_iff, ← Bool.or_eq_true,
    ← Option.isSome_or]
  refine getD_ne_iff fun x hx => ?_
  rcases Option.or_eq_some_iff.mp hx with himported | ⟨-, hdeclared⟩
  · exact length_lt_of_imported? himported
  · exact length_lt_of_declared? hdeclared

theorem Project.hint_spec :
    ((project.analysis.scopeOf file).hint name = name ∨
        name.length < ((project.analysis.scopeOf file).hint name).length) ∧
      ((project.analysis.scopeOf file).hint name ≠ name
        ↔ project.Takes file name ∨
          project.Owns file name ∧ ∀ path, ¬ project.TakesFrom file name path) := by
  have hcontains : (project.analysis.scopeOf file).origins.contains name
      = ((project.originsOf file).get? name).isSome := Table.contains_eq_isSome _ _
  unfold Scope.hint
  rw [hcontains, ← get?_originsOf_eq_none_iff hscanned]
  cases horigin : (project.originsOf file).get? name with
  | none =>
    have hnot : ¬ project.Takes file name := by
      rintro ⟨path, htakes, -⟩
      exact (get?_originsOf_eq_none_iff hscanned).mp horigin path htakes
    simp only [hnot, false_or, and_true, Option.isSome_none, Bool.false_eq_true, if_false]
    rw [← declared?_isSome_iff]
    exact getD_ne_iff fun x => length_lt_of_declared?
  | some origin =>
    simp only [reduceCtorEq, and_false, or_false, Option.isSome_some, if_true]
    rw [← imported?_isSome_iff hscanned]
    exact getD_ne_iff fun x => length_lt_of_imported?

/-- A role renames a name exactly if the combination does. -/
theorem Project.rule_ne_iff (role : Role) :
    (project.analysis.scopeOf file).rule role name ≠ name ↔ project.Renames file name role := by
  have hreference : Lengthens (project.analysis.scopeOf file).reference :=
    fun n => (reference_spec hscanned n).1
  have hhint : Lengthens (project.analysis.scopeOf file).hint := fun n => (hint_spec hscanned n).1
  cases role with
  | value => exact (reference_spec hscanned name).2
  | hint =>
    refine (hreference.comp_ne_iff hhint).trans ?_
    rw [(hint_spec hscanned name).2, (reference_spec hscanned name).2]
    exact or_iff_right_of_imp (Or.imp_right And.left)
  | paramHint => exact (hint_spec hscanned name).2
  | ordinaryHint =>
    refine (hhint.comp_ne_iff hhint).trans ?_
    rw [or_self]
    exact (hint_spec hscanned name).2
  | definition =>
    show (project.analysis.scopeOf file).definition name ≠ name ↔ project.Owns file name
    rw [← declared?_isSome_iff]
    exact (getD_ne_iff fun x => length_lt_of_declared?).2

end

/-! ## Chunks -/

/-- The places of a chunk are those of the statement that it is made from. -/
theorem Project.content_places_linked (project : Project) (p : Piece) :
    ((project.analysis.linked p).places []).map Place.content
      = ((p.statement.places []).map Place.content).map
        (project.analysis.scopeOf p.file).renameContent :=
  content_places_renameStmt _ p.statement [] []

theorem Project.exists_place_linked {p : Piece} {k : Nat} {place : Place}
    (h : (p.statement.places [])[k]? = some place) :
    ∃ place', ((project.analysis.linked p).places [])[k]? = some place' ∧
      place'.node = (project.analysis.scopeOf p.file).renameAs place.role place.node := by
  have hk := congrArg (·[k]?) (project.content_places_linked p)
  simp only [getElem?_map, h, Option.map_some] at hk
  obtain ⟨place', hplace', heq⟩ := Option.map_eq_some_iff.mp hk
  exact ⟨place', hplace', congrArg Prod.snd heq⟩

theorem Project.length_places_linked (p : Piece) :
    ((project.analysis.linked p).places []).length = (p.statement.places []).length := by
  simpa using congrArg List.length (project.content_places_linked p)

/-- Is every name that the chunk of the piece spells differently a name of the module where it
stands? -/
def Project.RespectsFrames (project : Project) (p : Piece) : Prop :=
  ∀ (k : Nat) (place place' : Place) (name : String),
    (p.statement.places [])[k]? = some place →
    ((project.analysis.linked p).places [])[k]? = some place' →
    place.node = .name name → place'.node ≠ .name name → isModuleLevel place.frames name = true

theorem Project.exists_name_linked {p : Piece} (hp : p ∈ project.written) {k : Nat} {place : Place}
    (h : (p.statement.places [])[k]? = some place) (hname : place.node = .name name) :
    ∃ place' new, ((project.analysis.linked p).places [])[k]? = some place' ∧
      place'.node = .name new ∧ (new ≠ name ↔ project.Renames p.file name place.role) := by
  obtain ⟨place', hplace', hnode⟩ := project.exists_place_linked h
  rw [hname, Scope.renameAs_name] at hnode
  have hscanned := (mem_pieces.mp (mem_pieces_of_mem_written hp)).1.1
  exact ⟨place', _, hplace', hnode, rule_ne_iff hscanned name place.role⟩

/-- In the combined script every chunk has the places of the statement that it is made from. A name
is changed exactly if the combination renames it, whatever frames are around it, and attributes keep
their names. So the changed names are names of the module exactly if no name that the combination
renames stands in a frame where it is another name. -/
theorem combine_respects_frames_iff {result : Combined} (h : project.combine = .ok result)
    {p : Piece} (hp : p ∈ project.written) :
    result.Consists project.analysis.scan.external
        (project.written.map project.analysis.linked) ∧
      project.analysis.linked p ∈ project.written.map project.analysis.linked ∧
      ((project.analysis.linked p).places []).length = (p.statement.places []).length ∧
      (∀ (k : Nat) place name, (p.statement.places [])[k]? = some place →
        place.node = .name name →
        ∃ place' new, ((project.analysis.linked p).places [])[k]? = some place' ∧
          place'.node = .name new ∧ (new ≠ name ↔ project.Renames p.file name place.role)) ∧
      (∀ (k : Nat) place value field, (p.statement.places [])[k]? = some place →
        place.node = .attribute value field →
        ∃ place' value', ((project.analysis.linked p).places [])[k]? = some place' ∧
          place'.node = .attribute value' field) ∧
      (project.RespectsFrames p ↔ ∀ place ∈ p.statement.places [], ∀ name,
        place.node = .name name → project.Renames p.file name place.role →
          isModuleLevel place.frames name = true) := by
  refine ⟨project.consists_combine h, mem_map_of_mem hp, project.length_places_linked p,
    fun k place name hplace hname => project.exists_name_linked hp hplace hname, ?_, ?_, ?_⟩
  · intro k place value field hplace hattribute
    obtain ⟨place', hplace', hnode⟩ := project.exists_place_linked hplace
    rw [hattribute, Scope.renameAs_attribute] at hnode
    exact ⟨place', _, hplace', hnode⟩
  · intro hrespects place hplace name hname hrenames
    obtain ⟨k, hk⟩ := getElem?_of_mem hplace
    obtain ⟨place', new, hplace', hnew, hiff⟩ := project.exists_name_linked hp hk hname
    refine hrespects k place place' name hk hplace' hname ?_
    rw [hnew]
    exact fun heq => hiff.mpr hrenames (Expr.name.inj heq)
  · intro hmodule k place place' name hplace hplace' hname hchanged
    obtain ⟨other, new, hother, hnew, hiff⟩ := project.exists_name_linked hp hplace hname
    obtain rfl : place' = other := Option.some.inj (hplace'.symm.trans hother)
    refine hmodule place (mem_of_getElem? hplace) name hname (hiff.mp fun heq => ?_)
    exact hchanged (heq ▸ hnew)

/-- An assignment of a number. -/
def setTo (name : String) (value : Nat) : Stmt := .assign [.name name] (.literal (.int value))

/-- A class with a variable `speed`, and with a method that has a parameter of that name. -/
def speedyClass : Stmt :=
  .classDef "Arm" [] [] [setTo "speed" 2,
    .function false "lift" ⟨[], [⟨"self", none, none⟩, ⟨"speed", none, none⟩], none, [], none⟩
      [.returns (some (.name "speed"))] [] none] []

/-- A class that shows the variable `speed` of its file. -/
def showingClass : Stmt :=
  .classDef "Arm" [] [] [.expression (.call (.name "print") [.name "speed"] [])] []

/-- Two files: one has a variable `speed` and a class, the other reads `speed` from the class. -/
def speeding (statement : Stmt) : Project where
  directory := ["work"]
  entry := "/work/main.py"
  files := [⟨"arm.py", "/work/arm.py"⟩, ⟨"main.py", "/work/main.py"⟩]
  read := fun file =>
    if file = "/work/main.py" then
      some [.importFrom (some "arm") [⟨"Arm", none⟩] 0,
        .expression (.call (.name "print") [.attribute (.name "Arm") "speed",
          .call (.attribute (.call (.name "Arm") [] []) "lift") [.literal (.int 3)] []] [])]
    else if file = "/work/arm.py" then some [setTo "speed" 1, statement]
    else none

/-- The piece with the class. -/
def armPiece (statement : Stmt) : Piece :=
  ⟨symbolKey "/work/arm.py" "Arm", "/work/arm.py", 1, statement⟩

abbrev shadowing : Project := speeding speedyClass

abbrev classPiece : Piece := armPiece speedyClass

/-- The name of an expression that is nothing but a name. -/
def nameOf? : Expr → Option String
  | .name id => some id
  | _ => none

theorem nameOf?_eq_some_iff {e : Expr} : nameOf? e = some name ↔ e = .name name := by
  cases e <;> simp [nameOf?]

/-- The scripts of these files. In the first class, the assignment and the returned value are at the
places 1 and 4. -/
theorem combine_speeding :
    (∀ statement ∈ [speedyClass, showingClass], (speeding statement).combine.toOption.isSome ∧
        (speeding statement).analysis.scan.scanned = ["/work/main.py", "/work/arm.py"] ∧
        "speed" ∈ (speeding statement).analysis.scan.namesOf "/work/arm.py" ∧
        (symbolKey "/work/arm.py" "Arm", "/work/arm.py", 1) ∈ (speeding statement).places) ∧
      (∀ place ∈ showingClass.places [],
        ∀ name ∈ nameOf? place.node, isModuleLevel place.frames name = true) ∧
      (∃ place ∈ showingClass.places [],
        nameOf? place.node = some "speed" ∧ place.frames.isEmpty = false ∧ place.role = .value) ∧
      ∀ k ∈ [1, 4],
        ((classPiece.statement.places [])[k]?.map fun place =>
            (nameOf? place.node, isModuleLevel place.frames "speed")) = some (some "speed", false) ∧
          (((shadowing.analysis.linked classPiece).places [])[k]?.map fun place =>
            nameOf? place.node) = some (some "mod_6570f872_speed") := by
  decide +kernel

theorem written_speeding {statement : Stmt} (h : statement ∈ [speedyClass, showingClass]) :
    armPiece statement ∈ (speeding statement).written := by
  obtain ⟨-, hscanned, -, hplaces⟩ := combine_speeding.1 statement h
  exact Project.mem_written_of_mem_places ⟨by simp [hscanned, armPiece], _, rfl, rfl⟩ hplaces

/-- In the script of these files the variable of the class and the value that the method returns
are spelled like the variable of the file. -/
theorem combine_shadowing_changes_inner_names :
    ∃ result, shadowing.combine = .ok result ∧
      result.Consists shadowing.analysis.scan.external
        (shadowing.written.map shadowing.analysis.linked) ∧
      classPiece ∈ shadowing.written ∧ classPiece.file ≠ shadowing.entry ∧
      ∀ k ∈ [1, 4], ∃ place place', (classPiece.statement.places [])[k]? = some place ∧
        ((shadowing.analysis.linked classPiece).places [])[k]? = some place' ∧
        place.node = .name "speed" ∧ isModuleLevel place.frames "speed" = false ∧
        place'.node = .name "mod_6570f872_speed" := by
  obtain ⟨hall, -, -, hchanged⟩ := combine_speeding
  obtain ⟨result, hok⟩ := Host.exists_eq_ok_of_isSome (hall speedyClass (by simp)).1
  refine ⟨result, hok, shadowing.consists_combine hok, written_speeding (by simp), by decide, ?_⟩
  intro k hk
  obtain ⟨hbefore, hafter⟩ := hchanged k hk
  obtain ⟨place, hplace, hname⟩ := Option.map_eq_some_iff.mp hbefore
  obtain ⟨place', hplace', hnew⟩ := Option.map_eq_some_iff.mp hafter
  obtain ⟨hname, hinner⟩ := Prod.mk.inj hname
  exact ⟨place, place', hplace, hplace', nameOf?_eq_some_iff.mp hname, hinner,
    nameOf?_eq_some_iff.mp hnew⟩

/-- Where the class shows the variable of the file, the name is changed inside the frame of the
class, and the chunk respects the frames. -/
theorem combine_showing_respects_frames :
    ∃ result, (speeding showingClass).combine = .ok result ∧
      armPiece showingClass ∈ (speeding showingClass).written ∧
      (speeding showingClass).RespectsFrames (armPiece showingClass) ∧
      ∃ place ∈ showingClass.places [], place.node = .name "speed" ∧ place.frames ≠ [] ∧
        (speeding showingClass).Renames "/work/arm.py" "speed" place.role := by
  obtain ⟨hall, hlevel, ⟨place, hplace, hname, hframes, hrole⟩, -⟩ := combine_speeding
  obtain ⟨hcombine, -, hdeclares, -⟩ := hall showingClass (by simp)
  obtain ⟨result, hok⟩ := Host.exists_eq_ok_of_isSome hcombine
  have hwritten : armPiece showingClass ∈ (speeding showingClass).written :=
    written_speeding (by simp)
  obtain ⟨-, -, -, -, -, hiff⟩ := combine_respects_frames_iff hok hwritten
  refine ⟨result, hok, hwritten, hiff.mpr fun place hplace name hname _ => ?_, place, hplace,
    nameOf?_eq_some_iff.mp hname, fun hnil => ?_, ?_⟩
  · exact hlevel place hplace name (nameOf?_eq_some_iff.mpr hname)
  · simp [hnil] at hframes
  · rw [hrole]
    exact .inr ⟨by decide, Project.mem_namesOf.mp hdeclares⟩

end RobotKit.Link
