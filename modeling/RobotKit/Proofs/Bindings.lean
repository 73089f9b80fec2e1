import RobotKit.Proofs.Blocks
import RobotKit.Proofs.Loads

/-!
# What statements bind at the top level

A statement at the top level of a script binds the name that it defines, the names among its
targets, the names that `:=` sets in the expressions that it evaluates in place, and the names that
`global` statements inside it, at any depth, hand up to the top level. Expressions that are
evaluated elsewhere, such as the body of a function or of a `lambda`, bind nothing there.

A name that a renamed statement binds comes from a name that the statement binds itself
(`binds_of_binds_renameStmt`), and names that the scope keeps stay bound (`binds_renameStmt`). Only
the statements that make chunks are of interest: functions, classes, assignments and expressions.
-/

namespace RobotKit.Script

open List

/-! ## Expressions -/

/-- Does assigning to the expression set the name? -/
inductive Expr.Sets (n : String) : Expr → Prop
  | name : Sets n (.name n)
  | tuple {items : List Expr} {item : Expr} (hitem : item ∈ items) (h : item.Sets n) :
      Sets n (.tuple items)
  | list {items : List Expr} {item : Expr} (hitem : item ∈ items) (h : item.Sets n) :
      Sets n (.list items)
  | starred {value : Expr} (h : value.Sets n) : Sets n (.starred value)

/-- The expressions in the fields of a formatted text. -/
def exprsOfParts : List FormatPart → List Expr
  | [] => []
  | .text _ :: rest => exprsOfParts rest
  | .field value _ none :: rest => value :: exprsOfParts rest
  | .field value _ (some format) :: rest => value :: (exprsOfParts format ++ exprsOfParts rest)

/-- The expressions of a clause of a comprehension. -/
def exprsOfGenerator (g : Generator Expr) : List Expr := g.target :: g.source :: g.conditions

/-- The expressions that an expression evaluates where it stands. The body of a `lambda` is not
among them. -/
def Expr.parts : Expr → List Expr
  | .name _ | .literal _ => []
  | .formatted parts => exprsOfParts parts
  | .tuple items | .list items | .set items => items
  | .dict entries => entries.flatMap fun entry => entry.key.toList ++ [entry.value]
  | .unary _ operand => [operand]
  | .binary left _ right => [left, right]
  | .boolean _ operands => operands
  | .compare left rest => left :: rest.map Prod.snd
  | .call function arguments keywords => function :: (arguments ++ keywords.map Keyword.value)
  | .attribute value _ => [value]
  | .subscript value index => [value, index]
  | .slice lower upper step => lower.toList ++ upper.toList ++ step.toList
  | .starred value => [value]
  | .conditional test body orElse => [test, body, orElse]
  | .lambda params _ => exprsOfParams params
  | .comprehension _ element generators => element :: generators.flatMap exprsOfGenerator
  | .dictComprehension key value generators =>
    key :: value :: generators.flatMap exprsOfGenerator
  | .named target value => [target, value]
  | .await value => [value]
  | .yield value => value.toList
  | .yieldFrom value => [value]

/-- Does evaluating the expression set the name by `:=`? -/
inductive Expr.Assigns (n : String) : Expr → Prop
  | here {value : Expr} : Assigns n (.named (.name n) value)
  | inside {e part : Expr} (hpart : part ∈ e.parts) (h : part.Assigns n) : Assigns n e

/-! ## Renaming expressions -/

section

variable (f : String → String)

theorem mapEachNames_eq_map (items : List Expr) :
    mapEachNames f items = items.map (Expr.mapNames f) := by
  induction items <;> simp_all [mapEachNames]

theorem toList_mapOptionNames (e : Option Expr) :
    (mapOptionNames f e).toList = e.toList.map (Expr.mapNames f) := by
  cases e <;> rfl

theorem exprsOfParts_mapPartNames (parts : List FormatPart) :
    exprsOfParts (mapPartNames f parts) = (exprsOfParts parts).map (Expr.mapNames f) := by
  fun_induction exprsOfParts parts <;> simp_all [mapPartNames, exprsOfParts]

theorem exprs_mapParamNames (params : List (Param Expr)) :
    (mapParamNames f params).flatMap exprsOfParam
      = (params.flatMap exprsOfParam).map (Expr.mapNames f) := by
  induction params <;> simp_all [mapParamNames, exprsOfParam, toList_mapOptionNames]

theorem exprs_mapParamOptionNames (param : Option (Param Expr)) :
    (mapParamOptionNames f param).toList.flatMap exprsOfParam
      = (param.toList.flatMap exprsOfParam).map (Expr.mapNames f) := by
  cases param <;> simp [mapParamOptionNames, exprsOfParam, toList_mapOptionNames]

theorem exprsOfParams_mapParamsNames (params : Params Expr) :
    exprsOfParams (mapParamsNames f params) = (exprsOfParams params).map (Expr.mapNames f) := by
  obtain ⟨positional, regular, rest, keywordOnly, keywordRest⟩ := params
  simp only [mapParamsNames, exprsOfParams, flatMap_append, map_append,
    exprs_mapParamNames, exprs_mapParamOptionNames]

theorem exprs_mapGeneratorNames (generators : List (Generator Expr)) :
    (mapGeneratorNames f generators).flatMap exprsOfGenerator
      = (generators.flatMap exprsOfGenerator).map (Expr.mapNames f) := by
  induction generators <;> simp_all [mapGeneratorNames, exprsOfGenerator, mapEachNames_eq_map]

theorem exprs_mapEntryNames (entries : List (Entry Expr)) :
    ((mapEntryNames f entries).flatMap fun entry => entry.key.toList ++ [entry.value])
      = (entries.flatMap fun entry => entry.key.toList ++ [entry.value]).map (Expr.mapNames f) := by
  induction entries <;> simp_all [mapEntryNames, toList_mapOptionNames]

theorem exprs_mapComparisonNames (rest : List (CompareOp × Expr)) :
    (mapComparisonNames f rest).map Prod.snd = (rest.map Prod.snd).map (Expr.mapNames f) := by
  induction rest <;> simp_all [mapComparisonNames]

theorem exprs_mapKeywordNames (keywords : List (Keyword Expr)) :
    (mapKeywordNames f keywords).map Keyword.value
      = (keywords.map Keyword.value).map (Expr.mapNames f) := by
  induction keywords <;> simp_all [mapKeywordNames]

/-- Renaming an expression renames its parts. -/
theorem Expr.parts_mapNames (e : Expr) : (e.mapNames f).parts = e.parts.map (Expr.mapNames f) := by
  cases e <;> simp only [Expr.mapNames, Expr.parts, mapEachNames_eq_map, toList_mapOptionNames,
    exprsOfParts_mapPartNames, exprsOfParams_mapParamsNames, exprs_mapGeneratorNames,
    exprs_mapEntryNames, exprs_mapComparisonNames, exprs_mapKeywordNames, map_cons,
    map_append, map_nil]

end

section

variable {f : String → String} {e : Expr} {n : String}

theorem Expr.eq_name_of_mapNames (h : e.mapNames f = .name n) : ∃ m, e = .name m ∧ f m = n := by
  cases e with
  | name id => exact ⟨id, rfl, Expr.name.inj h⟩
  | _ => cases h

theorem Expr.eq_tuple_of_mapNames {items : List Expr} (h : e.mapNames f = .tuple items) :
    ∃ old, e = .tuple old ∧ items = old.map (Expr.mapNames f) := by
  cases e with
  | tuple old => exact ⟨old, rfl, (Expr.tuple.inj h).symm.trans (mapEachNames_eq_map f old)⟩
  | _ => cases h

theorem Expr.eq_list_of_mapNames {items : List Expr} (h : e.mapNames f = .list items) :
    ∃ old, e = .list old ∧ items = old.map (Expr.mapNames f) := by
  cases e with
  | list old => exact ⟨old, rfl, (Expr.list.inj h).symm.trans (mapEachNames_eq_map f old)⟩
  | _ => cases h

theorem Expr.Sets.mapNames (h : e.Sets n) : (e.mapNames f).Sets (f n) := by
  induction h with
  | name => exact .name
  | tuple hitem _ ih =>
    refine .tuple ?_ ih
    rw [mapEachNames_eq_map]
    exact mem_map_of_mem hitem
  | list hitem _ ih =>
    refine .list ?_ ih
    rw [mapEachNames_eq_map]
    exact mem_map_of_mem hitem
  | starred _ ih => exact .starred ih

/-- A name that a renamed target sets comes from a name that the target sets. -/
theorem Expr.exists_of_sets_mapNames (h : (e.mapNames f).Sets n) : ∃ m, f m = n ∧ e.Sets m := by
  -- the induction is on how the renamed target sets the name; the old target is read off from it
  generalize hnew : e.mapNames f = new at h
  induction h generalizing e with
  | name =>
    obtain ⟨m, rfl, hm⟩ := eq_name_of_mapNames hnew
    exact ⟨m, hm, .name⟩
  | tuple hitem _ ih =>
    obtain ⟨old, rfl, rfl⟩ := eq_tuple_of_mapNames hnew
    obtain ⟨item, hold, hitem⟩ := mem_map.mp hitem
    obtain ⟨m, hm, hsets⟩ := ih hitem
    exact ⟨m, hm, .tuple hold hsets⟩
  | list hitem _ ih =>
    obtain ⟨old, rfl, rfl⟩ := eq_list_of_mapNames hnew
    obtain ⟨item, hold, hitem⟩ := mem_map.mp hitem
    obtain ⟨m, hm, hsets⟩ := ih hitem
    exact ⟨m, hm, .list hold hsets⟩
  | starred _ ih =>
    cases e with
    | starred value =>
      obtain ⟨m, hm, hsets⟩ := ih (Expr.starred.inj hnew)
      exact ⟨m, hm, .starred hsets⟩
    | _ => cases hnew

theorem Expr.Assigns.mapNames (h : e.Assigns n) : (e.mapNames f).Assigns (f n) := by
  induction h with
  | here => exact .here
  | inside hpart _ ih =>
    refine .inside ?_ ih
    rw [Expr.parts_mapNames]
    exact mem_map_of_mem hpart

/-- A name that `:=` sets in a renamed expression comes from one that it sets in the expression. -/
theorem Expr.exists_of_assigns_mapNames (h : (e.mapNames f).Assigns n) :
    ∃ m, f m = n ∧ e.Assigns m := by
  generalize hnew : e.mapNames f = new at h
  induction h generalizing e with
  | here =>
    cases e with
    | named target value =>
      obtain ⟨m, rfl, hm⟩ := eq_name_of_mapNames (Expr.named.inj hnew).1
      exact ⟨m, hm, .here⟩
    | _ => cases hnew
  | inside hpart _ ih =>
    rw [← hnew, Expr.parts_mapNames] at hpart
    obtain ⟨part, hold, hpart⟩ := mem_map.mp hpart
    obtain ⟨m, hm, hassigns⟩ := ih hpart
    exact ⟨m, hm, .inside hold hassigns⟩

end

/-! ## Statements -/

/-- The name that a function or a class is given. -/
def Stmt.definedName? : Stmt → Option String
  | .function _ name _ _ _ _ => some name
  | .classDef name _ _ _ _ => some name
  | _ => none

/-- The targets that a statement assigns to. A hint without a value assigns nothing. -/
def Stmt.boundTargets : Stmt → List Expr
  | .assign targets _ => targets
  | .augmented target _ _ => [target]
  | .annotated target _ (some _) _ => [target]
  | _ => []

/-- The expressions that a definition, an assignment or an expression statement evaluates in
place. -/
def Stmt.evaluated : Stmt → List Expr
  | .expression value => [value]
  | .assign targets value => value :: targets
  | .augmented target _ value => [target, value]
  | .annotated target type value _ => target :: type :: value.toList
  | .function _ _ params _ decorators result =>
    exprsOfParams params ++ decorators ++ result.toList
  | .classDef _ bases keywords _ decorators =>
    bases ++ keywords.map Keyword.value ++ decorators
  | _ => []

/-- Does a `global` statement inside the statement, at any depth, hand up the name? -/
inductive Stmt.HandsUp (n : String) : Stmt → Prop
  | here {names : List String} (h : n ∈ names) : HandsUp n (.globals names)
  | inside {s t : Stmt} {block : List Stmt} (hblock : block ∈ s.blocks) (ht : t ∈ block)
      (h : t.HandsUp n) : HandsUp n s

/-- Does the statement, at the top level of a script, bind the name there? -/
inductive Stmt.Binds (n : String) (s : Stmt) : Prop
  | definition (h : s.definedName? = some n)
  | target {target : Expr} (htarget : target ∈ s.boundTargets) (h : target.Sets n)
  | inPlace {e : Expr} (he : e ∈ s.evaluated) (h : e.Assigns n)
  | handsUp (h : s.HandsUp n)

end RobotKit.Script

namespace RobotKit.Link

open List RobotKit.Script Relation

variable {scope : Scope} {s : Stmt} {n : String}

/-! ## Renaming statements -/

theorem definedName?_renameStmt (scope : Scope) (s : Stmt) :
    (renameStmt scope s).definedName? = s.definedName?.map scope.definition := by
  cases s <;> rfl

theorem boundTargets_renameStmt (scope : Scope) (s : Stmt) :
    (renameStmt scope s).boundTargets = s.boundTargets.map (Expr.mapNames scope.reference) := by
  cases s with
  | assign targets value => exact mapEachNames_eq_map scope.reference targets
  | annotated target type value plain => cases value <;> rfl
  | _ => rfl

theorem forall₂_map_reference (scope : Scope) (items : List Expr) :
    Forall₂ scope.Respelled items (items.map (Expr.mapNames scope.reference)) := by
  rw [forall₂_map_right_iff]
  exact forall₂_same.mpr fun e _ => .single (.reference e)

/-- Renaming a statement renames what it evaluates in place, expression by expression. -/
theorem forall₂_evaluated (scope : Scope) (s : Stmt) :
    Forall₂ scope.Respelled s.evaluated (renameStmt scope s).evaluated := by
  cases s with
  | expression value => exact forall₂_map_reference scope [value]
  | assign targets value =>
    simp only [renameStmt, Stmt.evaluated, mapEachNames_eq_map]
    exact forall₂_map_reference scope (value :: targets)
  | augmented target op value => exact forall₂_map_reference scope [target, value]
  | annotated target type value plain =>
    simp only [renameStmt, Stmt.evaluated, toList_mapOptionNames]
    refine .cons (.single (.reference target)) (.cons (scope.respelled_renameHint type) ?_)
    exact forall₂_map_reference scope value.toList
  | function isAsync name params body decorators result =>
    simp only [renameStmt, Stmt.evaluated, mapEachNames_eq_map]
    refine rel_append (rel_append (forall₂_exprsOfParams scope params) ?_) ?_
    · exact forall₂_map_reference scope decorators
    · exact forall₂_toList scope.respelled_renameHint result
  | classDef name bases keywords body decorators =>
    simp only [renameStmt, Stmt.evaluated, mapEachNames_eq_map, exprs_mapKeywordNames]
    refine rel_append (rel_append ?_ ?_) ?_
    · exact forall₂_map_reference scope bases
    · exact forall₂_map_reference scope (keywords.map Keyword.value)
    · exact forall₂_map_reference scope decorators
  | _ => exact .nil

theorem isImport_of_handsUp (h : s.HandsUp n) : isImport s = false := by
  cases h with
  | here => rfl
  | inside hblock =>
    cases s with
    | imports names => exact absurd hblock not_mem_nil
    | importFrom source names level => exact absurd hblock not_mem_nil
    | _ => rfl

theorem handsUp_renameStmt (h : s.HandsUp n) (scope : Scope) :
    (renameStmt scope s).HandsUp (scope.definition n) := by
  induction h with
  | here hn => exact .here (mem_map_of_mem hn)
  | @inside s t block hblock ht hinner ih =>
    have hblock' : renameBlock scope block ∈ (renameStmt scope s).blocks := by
      rw [blocks_renameStmt]
      exact mem_map_of_mem hblock
    -- imports vanish from the block, but they hand up nothing
    refine .inside hblock' (mem_renameBlock.mpr ⟨t, ht, ?_, rfl⟩) ih
    exact isImport_of_handsUp hinner

theorem exists_of_handsUp_renameStmt (h : (renameStmt scope s).HandsUp n) :
    ∃ m, scope.definition m = n ∧ s.HandsUp m := by
  generalize hnew : renameStmt scope s = new at h
  induction h generalizing s with
  | here hn =>
    cases s with
    | globals names =>
      obtain rfl := Stmt.globals.inj hnew
      obtain ⟨m, hm, rfl⟩ := mem_map.mp hn
      exact ⟨m, rfl, .here hm⟩
    | _ => cases hnew
  | inside hblock ht _ ih =>
    rw [← hnew, blocks_renameStmt] at hblock
    obtain ⟨old, hold, rfl⟩ := mem_map.mp hblock
    obtain ⟨u, hu, -, hrenamed⟩ := mem_renameBlock.mp ht
    obtain ⟨m, hm, hinner⟩ := ih hrenamed
    exact ⟨m, hm, .inside hold hu hinner⟩

/-- Does no rule of the scope turn another name into this one? -/
structure Scope.Untaken (scope : Scope) (name : String) : Prop where
  reference : ∀ other, scope.reference other = name → other = name
  hint : ∀ other, scope.hint other = name → other = name
  definition : ∀ other, scope.definition other = name → other = name

/-- Does some rule of the scope leave the name alone? -/
def Scope.Spares (scope : Scope) (name : String) : Prop :=
  scope.reference name = name ∨ scope.hint name = name ∨ scope.definition name = name

theorem Scope.Untaken.assigns_of_respelled (h : scope.Untaken n) {e e' : Expr}
    (he : scope.Respelled e e') (hassigns : e'.Assigns n) : e.Assigns n ∧ scope.Spares n := by
  -- backwards along the renamings: the last one already shows that some rule spares the name
  have hstep : ∀ {a b : Expr}, scope.Respells a b → b.Assigns n → a.Assigns n ∧ scope.Spares n := by
    intro a b hab hb
    cases hab with
    | reference =>
      obtain ⟨m, hm, ha⟩ := Expr.exists_of_assigns_mapNames hb
      obtain rfl := h.reference m hm
      exact ⟨ha, .inl hm⟩
    | hint =>
      obtain ⟨m, hm, ha⟩ := Expr.exists_of_assigns_mapNames hb
      obtain rfl := h.hint m hm
      exact ⟨ha, .inr (.inl hm)⟩
  induction he with
  | single hab => exact hstep hab hassigns
  | tail _ hab ih => exact ih (hstep hab hassigns).1

theorem Scope.Keeps.assigns_of_respelled (h : scope.Keeps n) {e e' : Expr}
    (he : scope.Respelled e e') (hassigns : e.Assigns n) : e'.Assigns n := by
  refine he.keeps (P := Expr.Assigns n) (fun a ha => ?_) (fun a ha => ?_) hassigns
  · exact h.reference ▸ ha.mapNames
  · exact h.hint ▸ ha.mapNames

/-- A name that no other becomes is bound by a renamed statement only if the statement binds it
itself, in a place where the name is left alone. -/
theorem Scope.Untaken.binds_of_binds_renameStmt (h : scope.Untaken n)
    (hbinds : (renameStmt scope s).Binds n) : s.Binds n ∧ scope.Spares n := by
  cases hbinds with
  | definition hname =>
    rw [definedName?_renameStmt] at hname
    obtain ⟨m, hdefined, hm⟩ := Option.map_eq_some_iff.mp hname
    obtain rfl := h.definition m hm
    exact ⟨.definition hdefined, .inr (.inr hm)⟩
  | target htarget hsets =>
    rw [boundTargets_renameStmt] at htarget
    obtain ⟨old, hold, rfl⟩ := mem_map.mp htarget
    obtain ⟨m, hm, hold'⟩ := Expr.exists_of_sets_mapNames hsets
    obtain rfl := h.reference m hm
    exact ⟨.target hold hold', .inl hm⟩
  | inPlace he hassigns =>
    obtain ⟨old, hold, hrespelled⟩ := exists_of_forall₂ (forall₂_evaluated scope s).flip he
    obtain ⟨hold', hspares⟩ := h.assigns_of_respelled hrespelled hassigns
    exact ⟨.inPlace hold hold', hspares⟩
  | handsUp hglobal =>
    obtain ⟨m, hm, hold⟩ := exists_of_handsUp_renameStmt hglobal
    obtain rfl := h.definition m hm
    exact ⟨.handsUp hold, .inr (.inr hm)⟩

/-- A name that the scope keeps stays bound. -/
theorem Scope.Keeps.binds_renameStmt (h : scope.Keeps n) (hbinds : s.Binds n) :
    (renameStmt scope s).Binds n := by
  cases hbinds with
  | definition hname =>
    refine .definition ?_
    rw [definedName?_renameStmt, hname, Option.map_some, h.definition]
  | @target target htarget hsets =>
    have hmem : target.mapNames scope.reference ∈ (renameStmt scope s).boundTargets := by
      rw [boundTargets_renameStmt]
      exact mem_map_of_mem htarget
    have hrenamed : (target.mapNames scope.reference).Sets (scope.reference n) := hsets.mapNames
    rw [h.reference] at hrenamed
    exact .target hmem hrenamed
  | inPlace he hassigns =>
    obtain ⟨e', he', hrespelled⟩ := exists_of_forall₂ (forall₂_evaluated scope s) he
    exact .inPlace he' (h.assigns_of_respelled hrespelled hassigns)
  | handsUp hglobal => exact .handsUp (h.definition ▸ handsUp_renameStmt hglobal scope)

end RobotKit.Link
