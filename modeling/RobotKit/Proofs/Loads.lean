import Mathlib.Data.List.Forall2
import Mathlib.Logic.Relation
import RobotKit.Link.Rename

/-!
# What renamed statements read

Renaming an expression renames what it reads (`Expr.loads_mapNames`). Hints are renamed by a rule of
their own, some of them twice, so what is said of statements is said of names that no rule changes:
such a name is still read by a statement after the statement is renamed (`mem_loads_renameStmt`).
-/

namespace RobotKit.Script

open List

/-! ## Expressions -/

/-- The hint and the default of a parameter. -/
def exprsOfParam (p : Param Expr) : List Expr := p.type.toList ++ p.default.toList

/-- The hints and defaults of a parameter list. -/
def exprsOfParams (params : Params Expr) : List Expr :=
  (params.positional ++ params.regular ++ params.rest.toList ++ params.keywordOnly ++
    params.keywordRest.toList).flatMap exprsOfParam

/-- Renaming an expression renames each name that it reads, also where it is assigned to. -/
theorem loads_mapNames_all (f : String → String) :
    (∀ e : Expr, (e.mapNames f).loads = e.loads.map f
      ∧ (e.mapNames f).targetLoads = e.targetLoads.map f)
    ∧ (∀ gs, generatorLoads (mapGeneratorNames f gs) = (generatorLoads gs).map f)
    ∧ (∀ items, eachLoads (mapEachNames f items) = (eachLoads items).map f
      ∧ eachTargetLoads (mapEachNames f items) = (eachTargetLoads items).map f)
    ∧ (∀ params, paramsLoads (mapParamsNames f params) = (paramsLoads params).map f)
    ∧ (∀ param, paramOptionLoads (mapParamOptionNames f param) = (paramOptionLoads param).map f)
    ∧ (∀ e, optionLoads (mapOptionNames f e) = (optionLoads e).map f)
    ∧ (∀ params, paramLoads (mapParamNames f params) = (paramLoads params).map f)
    ∧ (∀ keywords, keywordLoads (mapKeywordNames f keywords) = (keywordLoads keywords).map f)
    ∧ (∀ rest, comparisonLoads (mapComparisonNames f rest) = (comparisonLoads rest).map f)
    ∧ (∀ entries, entryLoads (mapEntryNames f entries) = (entryLoads entries).map f)
    ∧ ∀ parts, partLoads (mapPartNames f parts) = (partLoads parts).map f := by
  apply Expr.mapNames.mutual_induct <;> intros <;>
    simp only [Expr.mapNames, Expr.loads, Expr.targetLoads, mapGeneratorNames, generatorLoads,
      mapEachNames, eachLoads, eachTargetLoads, mapParamsNames, paramsLoads, mapParamOptionNames,
      paramOptionLoads, mapOptionNames, optionLoads, mapParamNames, paramLoads, mapKeywordNames,
      keywordLoads, mapComparisonNames, comparisonLoads, mapEntryNames, entryLoads, mapPartNames,
      partLoads, map_append, map_nil, map_cons, and_self, *]

section

variable (f : String → String)

theorem Expr.loads_mapNames (e : Expr) : (e.mapNames f).loads = e.loads.map f :=
  ((loads_mapNames_all f).1 e).1

theorem Expr.targetLoads_mapNames (e : Expr) :
    (e.mapNames f).targetLoads = e.targetLoads.map f :=
  ((loads_mapNames_all f).1 e).2

theorem eachLoads_mapEachNames (items : List Expr) :
    eachLoads (mapEachNames f items) = (eachLoads items).map f :=
  ((loads_mapNames_all f).2.2.1 items).1

theorem eachTargetLoads_mapEachNames (items : List Expr) :
    eachTargetLoads (mapEachNames f items) = (eachTargetLoads items).map f :=
  ((loads_mapNames_all f).2.2.1 items).2

theorem optionLoads_mapOptionNames (e : Option Expr) :
    optionLoads (mapOptionNames f e) = (optionLoads e).map f :=
  (loads_mapNames_all f).2.2.2.2.2.1 e

theorem keywordLoads_mapKeywordNames (keywords : List (Keyword Expr)) :
    keywordLoads (mapKeywordNames f keywords) = (keywordLoads keywords).map f :=
  (loads_mapNames_all f).2.2.2.2.2.2.2.1 keywords

end

end RobotKit.Script

namespace RobotKit.Link

open List RobotKit.Script Relation

variable {scope : Scope} {items : List Expr}

/-- Renaming a pattern renames each name that it reads. -/
theorem loads_mapPatternNames_all (f : String → String) :
    (∀ p, (mapPatternNames f p).loads = p.loads.map f)
    ∧ (∀ fields, patternFieldLoads (mapPatternFieldNames f fields)
      = (patternFieldLoads fields).map f)
    ∧ (∀ entries, patternEntryLoads (mapPatternEntryNames f entries)
      = (patternEntryLoads entries).map f)
    ∧ ∀ items, patternListLoads (mapPatternListNames f items) = (patternListLoads items).map f := by
  apply mapPatternNames.mutual_induct <;> intros <;>
    simp only [mapPatternNames, Pattern.loads, mapPatternFieldNames, patternFieldLoads,
      mapPatternEntryNames, patternEntryLoads, mapPatternListNames, patternListLoads,
      Expr.loads_mapNames, map_append, map_nil, *]

/-! ## Hints and defaults -/

/-- One renaming of an expression. -/
inductive Scope.Respells (scope : Scope) : Expr → Expr → Prop
  | reference (e : Expr) : scope.Respells e (e.mapNames scope.reference)
  | hint (e : Expr) : scope.Respells e (e.mapNames scope.hint)

/-- Does the second expression come from the first by renaming, perhaps more than once? -/
def Scope.Respelled (scope : Scope) : Expr → Expr → Prop := TransGen scope.Respells

theorem Scope.respelled_renameHint (scope : Scope) (type : Expr) :
    scope.Respelled type (renameHint scope type) :=
  TransGen.tail (.single (.hint type)) (.reference _)

/-- What each renaming keeps is kept along all of them. -/
theorem Scope.Respelled.keeps {P : Expr → Prop}
    (hreference : ∀ e, P e → P (e.mapNames scope.reference))
    (hhint : ∀ e, P e → P (e.mapNames scope.hint)) {e e' : Expr} (he : scope.Respelled e e')
    (h : P e) : P e' := by
  have hstep : ∀ {a b : Expr}, scope.Respells a b → P a → P b := by
    intro a b hab ha
    cases hab with
    | reference => exact hreference a ha
    | hint => exact hhint a ha
  induction he with
  | single hab => exact hstep hab h
  | tail _ hab ih => exact hstep hab ih

theorem paramsLoads_eq_flatMap (params : Params Expr) :
    paramsLoads params = (exprsOfParams params).flatMap Expr.loads := by
  have hoption : ∀ e, optionLoads e = e.toList.flatMap Expr.loads := by
    intro e
    cases e <;> simp [optionLoads]
  have hlist : ∀ ps, paramLoads ps = (ps.flatMap exprsOfParam).flatMap Expr.loads := by
    intro ps
    induction ps with
    | nil => rfl
    | cons p rest ih =>
      simp only [paramLoads, ih, hoption, exprsOfParam, flatMap_cons, flatMap_append]
  have hparam : ∀ p, paramOptionLoads p = (p.toList.flatMap exprsOfParam).flatMap Expr.loads := by
    intro p
    cases p with
    | none => rfl
    | some p => simp [paramOptionLoads, hoption, exprsOfParam]
  obtain ⟨positional, regular, rest, keywordOnly, keywordRest⟩ := params
  simp only [paramsLoads, exprsOfParams, hlist, hparam, flatMap_append]

theorem forall₂_exprsOfParam {change : Param Expr → Param Expr}
    (h : ∀ p, Forall₂ scope.Respelled (exprsOfParam p) (exprsOfParam (change p)))
    (ps : List (Param Expr)) :
    Forall₂ scope.Respelled (ps.flatMap exprsOfParam) ((ps.map change).flatMap exprsOfParam) := by
  induction ps with
  | nil => exact .nil
  | cons p rest ih =>
    rw [map_cons, flatMap_cons, flatMap_cons]
    exact rel_append (h p) ih

theorem forall₂_toList {rename : Expr → Expr} (h : ∀ e, scope.Respelled e (rename e))
    (e : Option Expr) :
    Forall₂ scope.Respelled e.toList (e.map rename).toList := by
  cases e with
  | none => exact .nil
  | some e => exact .cons (h e) .nil

/-- Renaming a parameter list renames its hints and defaults one by one. -/
theorem forall₂_exprsOfParams (scope : Scope) (params : Params Expr) :
    Forall₂ scope.Respelled (exprsOfParams params) (exprsOfParams (renameParams scope params)) := by
  have hreference : ∀ e, scope.Respelled e (e.mapNames scope.reference) :=
    fun e => .single (.reference e)
  have hhint : ∀ e, scope.Respelled e (e.mapNames scope.hint) := fun e => .single (.hint e)
  have honce : ∀ p : Param Expr, Forall₂ scope.Respelled (exprsOfParam p) (exprsOfParam { p with
      type := p.type.map (Expr.mapNames scope.hint)
      default := p.default.map (Expr.mapNames scope.reference) }) :=
    fun p => rel_append (forall₂_toList hhint p.type) (forall₂_toList hreference p.default)
  -- the hints of ordinary parameters are renamed twice
  have htwice : ∀ p : Param Expr, Forall₂ scope.Respelled (exprsOfParam p) (exprsOfParam { p with
      type := (p.type.map (Expr.mapNames scope.hint)).map (Expr.mapNames scope.hint)
      default := p.default.map (Expr.mapNames scope.reference) }) := by
    intro p
    have htype : Forall₂ scope.Respelled p.type.toList
        ((p.type.map (Expr.mapNames scope.hint)).map (Expr.mapNames scope.hint)).toList := by
      rw [Option.map_map]
      exact forall₂_toList (fun e => (hhint e).trans (hhint _)) p.type
    exact rel_append htype (forall₂_toList hreference p.default)
  unfold exprsOfParams renameParams
  simp only [flatMap_append, Option.toList_map]
  refine rel_append (rel_append (rel_append (rel_append ?_ ?_) ?_) ?_) ?_
  · exact forall₂_exprsOfParam honce _
  · exact forall₂_exprsOfParam htwice _
  · exact forall₂_exprsOfParam honce _
  · exact forall₂_exprsOfParam honce _
  · exact forall₂_exprsOfParam honce _

theorem exists_of_forall₂ {α β : Type} {R : α → β → Prop} {items : List α} {others : List β}
    (h : Forall₂ R items others) {a : α} (ha : a ∈ items) : ∃ b ∈ others, R a b := by
  induction h with
  | nil => exact absurd ha not_mem_nil
  | cons hab _ ih =>
    rcases mem_cons.mp ha with rfl | ha
    · exact ⟨_, mem_cons_self, hab⟩
    · obtain ⟨b, hb, hrel⟩ := ih ha
      exact ⟨b, mem_cons_of_mem _ hb, hrel⟩

/-! ## Statements -/

/-- Does no rule of the scope change the name? -/
structure Scope.Keeps (scope : Scope) (name : String) : Prop where
  reference : scope.reference name = name
  hint : scope.hint name = name
  definition : scope.definition name = name

section

variable {scope : Scope} {n : String} (h : scope.Keeps n)
include h

theorem Scope.Keeps.mem_map {names : List String} (hn : n ∈ names) :
    n ∈ names.map scope.reference :=
  List.mem_map.mpr ⟨n, hn, h.reference⟩

theorem Scope.Keeps.mem_loads {e : Expr} (hn : n ∈ e.loads) :
    n ∈ (e.mapNames scope.reference).loads := by
  rw [Expr.loads_mapNames]
  exact h.mem_map hn

theorem Scope.Keeps.mem_targetLoads {e : Expr} (hn : n ∈ e.targetLoads) :
    n ∈ (e.mapNames scope.reference).targetLoads := by
  rw [Expr.targetLoads_mapNames]
  exact h.mem_map hn

theorem Scope.Keeps.mem_eachLoads (hn : n ∈ eachLoads items) :
    n ∈ eachLoads (mapEachNames scope.reference items) := by
  rw [eachLoads_mapEachNames]
  exact h.mem_map hn

theorem Scope.Keeps.mem_eachTargetLoads (hn : n ∈ eachTargetLoads items) :
    n ∈ eachTargetLoads (mapEachNames scope.reference items) := by
  rw [eachTargetLoads_mapEachNames]
  exact h.mem_map hn

theorem Scope.Keeps.mem_optionLoads {e : Option Expr} (hn : n ∈ optionLoads e) :
    n ∈ optionLoads (mapOptionNames scope.reference e) := by
  rw [optionLoads_mapOptionNames]
  exact h.mem_map hn

theorem Scope.Keeps.mem_keywordLoads {keywords : List (Keyword Expr)}
    (hn : n ∈ keywordLoads keywords) :
    n ∈ keywordLoads (mapKeywordNames scope.reference keywords) := by
  rw [keywordLoads_mapKeywordNames]
  exact h.mem_map hn

theorem Scope.Keeps.mem_loads_of_respelled {e e' : Expr} (he : scope.Respelled e e')
    (hn : n ∈ e.loads) : n ∈ e'.loads := by
  refine he.keeps (P := fun a => n ∈ a.loads) (fun _ => h.mem_loads) (fun a ha => ?_) hn
  rw [Expr.loads_mapNames]
  exact List.mem_map.mpr ⟨n, ha, h.hint⟩

theorem Scope.Keeps.mem_paramsLoads {params : Params Expr} (hn : n ∈ paramsLoads params) :
    n ∈ paramsLoads (renameParams scope params) := by
  rw [paramsLoads_eq_flatMap, mem_flatMap] at hn ⊢
  obtain ⟨e, he, hn⟩ := hn
  obtain ⟨e', he', hrespelled⟩ := exists_of_forall₂ (forall₂_exprsOfParams scope params) he
  exact ⟨e', he', h.mem_loads_of_respelled hrespelled hn⟩

theorem Scope.Keeps.mem_resultLoads {result : Option Expr} (hn : n ∈ optionLoads result) :
    n ∈ optionLoads (result.map (renameHint scope)) := by
  cases result with
  | none => exact hn
  | some type => exact h.mem_loads_of_respelled (scope.respelled_renameHint type) hn

theorem Scope.Keeps.mem_itemLoads {items : List WithItem} (hn : n ∈ items.flatMap WithItem.loads) :
    n ∈ (items.map fun item : WithItem => (⟨item.context.mapNames scope.reference,
      mapOptionNames scope.reference item.target⟩ : WithItem)).flatMap WithItem.loads := by
  rw [mem_flatMap] at hn ⊢
  obtain ⟨⟨context, target⟩, hitem, hn⟩ := hn
  refine ⟨_, mem_map_of_mem hitem, ?_⟩
  unfold WithItem.loads at hn ⊢
  rw [mem_append] at hn ⊢
  refine hn.imp h.mem_loads ?_
  cases target with
  | none => exact id
  | some e => exact h.mem_targetLoads

end

/-- A name that the scope keeps is still read by a statement after it is renamed. The imports that
vanish from a block read nothing. -/
theorem Scope.Keeps.mem_loads_renameStmt_all {n : String} (h : scope.Keeps n) :
    (∀ s : Stmt, n ∈ s.loads → n ∈ (renameStmt scope s).loads)
    ∧ (∀ cases, n ∈ caseLoads cases → n ∈ caseLoads (renameCases scope cases))
    ∧ (∀ body, n ∈ blockLoads body → n ∈ blockLoads (renameBlock scope body))
    ∧ ∀ handlers, n ∈ handlerLoads handlers → n ∈ handlerLoads (renameHandlers scope handlers) := by
  have hpattern : ∀ p : Pattern, n ∈ p.loads → n ∈ (mapPatternNames scope.reference p).loads := by
    intro p hn
    rw [(loads_mapPatternNames_all scope.reference).1 p]
    exact h.mem_map hn
  have himport : ∀ s : Stmt, isImport s = true → s.loads = [] := by
    intro s hs
    cases s <;> first | rfl | exact absurd hs (by simp [isImport])
  have hhint : ∀ type, n ∈ type.loads → n ∈ (renameHint scope type).loads :=
    fun type => h.mem_loads_of_respelled (scope.respelled_renameHint type)
  apply renameStmt.mutual_induct
  case case10 =>
    rintro (_ | ⟨error, cause⟩) hn
    · exact hn
    · simp only [renameStmt, Option.map_some, Stmt.loads, mem_append] at hn ⊢
      exact hn.imp h.mem_loads h.mem_optionLoads
  all_goals
    intros
    simp only [renameStmt, Stmt.loads, renameBlock, blockLoads, renameCases, caseLoads,
      renameHandlers, handlerLoads, mem_append, *] at *
    grind [blockLoads, Scope.Keeps.mem_loads, Scope.Keeps.mem_targetLoads,
      Scope.Keeps.mem_eachLoads, Scope.Keeps.mem_eachTargetLoads, Scope.Keeps.mem_optionLoads,
      Scope.Keeps.mem_keywordLoads, Scope.Keeps.mem_paramsLoads, Scope.Keeps.mem_resultLoads,
      Scope.Keeps.mem_itemLoads]

theorem Scope.Keeps.mem_loads_renameStmt {n : String} (h : scope.Keeps n) (s : Stmt) :
    n ∈ s.loads → n ∈ (renameStmt scope s).loads :=
  h.mem_loads_renameStmt_all.1 s

end RobotKit.Link
