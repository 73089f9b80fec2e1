import RobotKit.Link.Rename

/-!
# Where names stand in a statement

`Stmt.occurrences` lists the places of a statement that renaming can touch: every name of an
expression, wherever the expression stands, and the names that definitions and `global` statements
give. Five rules rename them, and hints go through two of them. In a coherent scope the rules for
expressions agree, so a renamed statement has the same places, each respelled by one rule
(`occurrences_renameStmt`).
-/

namespace RobotKit.Script

open List

/-! ## The names of an expression -/

mutual

/-- All names of an expression, whether it reads or sets them. -/
def Expr.names : Expr → List String
  | .name id => [id]
  | .literal _ => []
  | .formatted parts => partNames parts
  | .tuple items | .list items | .set items => eachNames items
  | .dict entries => entryNames entries
  | .unary _ operand => operand.names
  | .binary left _ right => left.names ++ right.names
  | .boolean _ operands => eachNames operands
  | .compare left rest => left.names ++ comparisonNames rest
  | .call function arguments keywords =>
    function.names ++ eachNames arguments ++ keywordNames keywords
  | .attribute value _ => value.names
  | .subscript value index => value.names ++ index.names
  | .slice lower upper step => optionNames lower ++ optionNames upper ++ optionNames step
  | .starred value => value.names
  | .conditional test body orElse => test.names ++ body.names ++ orElse.names
  | .lambda params body => paramsNames params ++ body.names
  | .comprehension _ element generators => element.names ++ generatorNames generators
  | .dictComprehension key value generators =>
    key.names ++ value.names ++ generatorNames generators
  | .named target value => target.names ++ value.names
  | .await value => value.names
  | .yield value => optionNames value
  | .yieldFrom value => value.names

/-- All names of several expressions. -/
def eachNames : List Expr → List String
  | [] => []
  | e :: rest => e.names ++ eachNames rest

/-- All names of an optional expression. -/
def optionNames : Option Expr → List String
  | none => []
  | some e => e.names

/-- All names of dictionary entries. -/
def entryNames : List (Entry Expr) → List String
  | [] => []
  | ⟨key, value⟩ :: rest => optionNames key ++ value.names ++ entryNames rest

/-- All names of comparisons. -/
def comparisonNames : List (CompareOp × Expr) → List String
  | [] => []
  | (_, e) :: rest => e.names ++ comparisonNames rest

/-- All names of keyword arguments. -/
def keywordNames : List (Keyword Expr) → List String
  | [] => []
  | ⟨_, value⟩ :: rest => value.names ++ keywordNames rest

/-- All names of comprehension clauses. -/
def generatorNames : List (Generator Expr) → List String
  | [] => []
  | ⟨_, target, source, conditions⟩ :: rest =>
    target.names ++ source.names ++ eachNames conditions ++ generatorNames rest

/-- All names in the hints and defaults of a parameter list. -/
def paramsNames : Params Expr → List String
  | ⟨positional, regular, rest, keywordOnly, keywordRest⟩ =>
    paramNames positional ++ paramNames regular ++ paramOptionNames rest ++
      paramNames keywordOnly ++ paramOptionNames keywordRest

/-- All names in the hints and defaults of several parameters. -/
def paramNames : List (Param Expr) → List String
  | [] => []
  | ⟨_, type, default⟩ :: rest => optionNames type ++ optionNames default ++ paramNames rest

/-- All names in the hint and default of an optional parameter. -/
def paramOptionNames : Option (Param Expr) → List String
  | none => []
  | some ⟨_, type, default⟩ => optionNames type ++ optionNames default

/-- All names of the parts of a formatted string. -/
def partNames : List FormatPart → List String
  | [] => []
  | .text _ :: rest => partNames rest
  | .field value _ none :: rest => value.names ++ partNames rest
  | .field value _ (some format) :: rest => value.names ++ partNames format ++ partNames rest

end

/-- Renaming an expression renames each of its names in its place. The induction is the one over
expressions and all that holds expressions inside them, and every case is a computation. -/
theorem names_mapNames_all (f : String → String) :
    (∀ e : Expr, (e.mapNames f).names = e.names.map f)
    ∧ (∀ gs, generatorNames (mapGeneratorNames f gs) = (generatorNames gs).map f)
    ∧ (∀ items, eachNames (mapEachNames f items) = (eachNames items).map f)
    ∧ (∀ params, paramsNames (mapParamsNames f params) = (paramsNames params).map f)
    ∧ (∀ param, paramOptionNames (mapParamOptionNames f param) = (paramOptionNames param).map f)
    ∧ (∀ e, optionNames (mapOptionNames f e) = (optionNames e).map f)
    ∧ (∀ params, paramNames (mapParamNames f params) = (paramNames params).map f)
    ∧ (∀ keywords, keywordNames (mapKeywordNames f keywords) = (keywordNames keywords).map f)
    ∧ (∀ rest, comparisonNames (mapComparisonNames f rest) = (comparisonNames rest).map f)
    ∧ (∀ entries, entryNames (mapEntryNames f entries) = (entryNames entries).map f)
    ∧ ∀ parts, partNames (mapPartNames f parts) = (partNames parts).map f := by
  apply Expr.mapNames.mutual_induct <;> intros <;>
    simp only [Expr.mapNames, Expr.names, mapGeneratorNames, generatorNames, mapEachNames,
      eachNames, mapParamsNames, paramsNames, mapParamOptionNames, paramOptionNames,
      mapOptionNames, optionNames, mapParamNames, paramNames, mapKeywordNames, keywordNames,
      mapComparisonNames, comparisonNames, mapEntryNames, entryNames, mapPartNames, partNames,
      map_append, map_nil, map_cons, *]

section

variable (f : String → String)

@[simp] theorem Expr.names_mapNames (e : Expr) : (e.mapNames f).names = e.names.map f :=
  (names_mapNames_all f).1 e

@[simp] theorem eachNames_mapEachNames (items : List Expr) :
    eachNames (mapEachNames f items) = (eachNames items).map f :=
  (names_mapNames_all f).2.2.1 items

@[simp] theorem optionNames_mapOptionNames (e : Option Expr) :
    optionNames (mapOptionNames f e) = (optionNames e).map f :=
  (names_mapNames_all f).2.2.2.2.2.1 e

@[simp] theorem keywordNames_mapKeywordNames (keywords : List (Keyword Expr)) :
    keywordNames (mapKeywordNames f keywords) = (keywordNames keywords).map f :=
  (names_mapNames_all f).2.2.2.2.2.2.2.1 keywords

end

/-! ## The occurrences of a statement -/

/-- A place of a statement that can be renamed: a name of an expression, or the name that a
function, a class or a `global` statement gives. -/
inductive Occurrence where
  | mention (name : String)
  | definition (name : String)
deriving DecidableEq

/-- How an occurrence is spelled. -/
def Occurrence.name : Occurrence → String
  | .mention name => name
  | .definition name => name

/-- The names of expressions as occurrences. -/
def mentions (names : List String) : List Occurrence := names.map .mention

mutual

/-- The names that the expressions of a pattern hold. -/
def Pattern.names : Pattern → List String
  | .value value => value.names
  | .singleton _ | .star _ | .wildcard | .capture _ => []
  | .sequence items | .alternatives items => patternListNames items
  | .mapping entries _ => patternEntryNames entries
  | .object type positions fields =>
    type.names ++ patternListNames positions ++ patternFieldNames fields
  | .binding pattern _ => pattern.names

/-- The names that several patterns hold. -/
def patternListNames : List Pattern → List String
  | [] => []
  | p :: rest => p.names ++ patternListNames rest

/-- The names that the entries of a mapping pattern hold. -/
def patternEntryNames : List (Expr × Pattern) → List String
  | [] => []
  | (key, p) :: rest => key.names ++ p.names ++ patternEntryNames rest

/-- The names that the fields of a class pattern hold. -/
def patternFieldNames : List (String × Pattern) → List String
  | [] => []
  | (_, p) :: rest => p.names ++ patternFieldNames rest

end

mutual

/-- All occurrences of a statement, at any depth. -/
def Stmt.occurrences : Stmt → List Occurrence
  | .expression value => mentions value.names
  | .assign targets value => mentions (eachNames targets ++ value.names)
  | .augmented target _ value => mentions (target.names ++ value.names)
  | .annotated target type value _ =>
    mentions (target.names ++ type.names ++ optionNames value)
  | .returns value => mentions (optionNames value)
  | .delete targets => mentions (eachNames targets)
  | .pass | .breaks | .continues | .nonlocals _ | .imports _ | .importFrom _ _ _ => []
  | .raises none => []
  | .raises (some (error, cause)) => mentions (error.names ++ optionNames cause)
  | .asserts test message => mentions (test.names ++ optionNames message)
  | .globals names => names.map .definition
  | .function _ name params body decorators result =>
    .definition name :: mentions (paramsNames params) ++ blockOccurrences body ++
      mentions (eachNames decorators ++ optionNames result)
  | .classDef name bases keywords body decorators =>
    .definition name :: mentions (eachNames bases ++ keywordNames keywords) ++
      blockOccurrences body ++ mentions (eachNames decorators)
  | .branch test body orElse =>
    mentions test.names ++ blockOccurrences body ++ blockOccurrences orElse
  | .whileLoop test body orElse =>
    mentions test.names ++ blockOccurrences body ++ blockOccurrences orElse
  | .forLoop _ target source body orElse =>
    mentions (target.names ++ source.names) ++ blockOccurrences body ++ blockOccurrences orElse
  | .withBlock _ items body =>
    mentions (items.flatMap fun item => item.context.names ++ optionNames item.target) ++
      blockOccurrences body
  | .tryBlock _ body handlers orElse final =>
    blockOccurrences body ++ handlerOccurrences handlers ++ blockOccurrences orElse ++
      blockOccurrences final
  | .choose subject cases => mentions subject.names ++ caseOccurrences cases

/-- All occurrences of the statements of a block. -/
def blockOccurrences : List Stmt → List Occurrence
  | [] => []
  | s :: rest => s.occurrences ++ blockOccurrences rest

/-- All occurrences of `except` clauses. -/
def handlerOccurrences : List Handler → List Occurrence
  | [] => []
  | .mk type _ body :: rest =>
    mentions (optionNames type) ++ blockOccurrences body ++ handlerOccurrences rest

/-- All occurrences of `case` clauses. -/
def caseOccurrences : List Case → List Occurrence
  | [] => []
  | .mk pattern guard body :: rest =>
    mentions (pattern.names ++ optionNames guard) ++ blockOccurrences body ++ caseOccurrences rest

end

end RobotKit.Script

namespace RobotKit.Link

open List RobotKit.Script

variable {change : Param Expr → Param Expr} {f : String → String}

/-! ## Renaming -/

/-- Renaming a pattern renames each of its names in its place. -/
theorem names_mapPatternNames_all (f : String → String) :
    (∀ p, (mapPatternNames f p).names = p.names.map f)
    ∧ (∀ fields, patternFieldNames (mapPatternFieldNames f fields)
      = (patternFieldNames fields).map f)
    ∧ (∀ entries, patternEntryNames (mapPatternEntryNames f entries)
      = (patternEntryNames entries).map f)
    ∧ ∀ items, patternListNames (mapPatternListNames f items) = (patternListNames items).map f := by
  apply mapPatternNames.mutual_induct <;> intros <;>
    simp only [mapPatternNames, Pattern.names, mapPatternFieldNames, patternFieldNames,
      mapPatternEntryNames, patternEntryNames, mapPatternListNames, patternListNames,
      Expr.names_mapNames, map_append, map_nil, *]

@[simp] theorem names_mapPatternNames (f : String → String) (p : Pattern) :
    (mapPatternNames f p).names = p.names.map f :=
  (names_mapPatternNames_all f).1 p

/-- Are hints renamed like other names, and does it not matter how often a name is renamed? -/
structure Scope.Coherent (scope : Scope) : Prop where
  hint_eq : scope.hint = scope.reference
  reference_reference : ∀ name, scope.reference (scope.reference name) = scope.reference name

/-- What renaming does to an occurrence. -/
def Scope.respell (scope : Scope) : Occurrence → Occurrence
  | .mention name => .mention (scope.reference name)
  | .definition name => .definition (scope.definition name)

@[simp] theorem Scope.map_respell_mentions (scope : Scope) (names : List String) :
    (mentions names).map scope.respell = mentions (names.map scope.reference) := by
  simp [mentions, respell]

@[simp] theorem optionNames_map (f : String → String) (e : Option Expr) :
    optionNames (e.map (Expr.mapNames f)) = (optionNames e).map f := by
  cases e with
  | none => rfl
  | some e => exact e.names_mapNames f

/-- Does a change of a parameter rename the names of its hint and of its default? -/
def RenamesParam (f : String → String) (change : Param Expr → Param Expr) : Prop :=
  ∀ p, optionNames (change p).type = (optionNames p.type).map f ∧
    optionNames (change p).default = (optionNames p.default).map f

theorem RenamesParam.paramNames_map (h : RenamesParam f change) (params : List (Param Expr)) :
    paramNames (params.map change) = (paramNames params).map f := by
  induction params with
  | nil => rfl
  | cons p rest ih =>
    rw [map_cons, paramNames, paramNames, (h p).1, (h p).2, ih, map_append,
      map_append]

theorem RenamesParam.paramOptionNames_map (h : RenamesParam f change)
    (param : Option (Param Expr)) :
    paramOptionNames (param.map change) = (paramOptionNames param).map f := by
  cases param with
  | none => rfl
  | some p => rw [Option.map_some, paramOptionNames, paramOptionNames, (h p).1, (h p).2,
      map_append]

section

variable {scope : Scope} (h : scope.Coherent)
include h

theorem Scope.Coherent.map_reference_twice (names : List String) :
    (names.map scope.reference).map scope.reference = names.map scope.reference := by
  simp [h.reference_reference]

theorem Scope.Coherent.names_renameHint (type : Expr) :
    (renameHint scope type).names = type.names.map scope.reference := by
  rw [renameHint, h.hint_eq, Expr.names_mapNames, Expr.names_mapNames, h.map_reference_twice]

theorem Scope.Coherent.optionNames_renameHint (result : Option Expr) :
    optionNames (result.map (renameHint scope)) = (optionNames result).map scope.reference := by
  cases result with
  | none => rfl
  | some type => exact h.names_renameHint type

/-- The hints of ordinary parameters are renamed twice, which is no more than once. -/
theorem Scope.Coherent.paramsNames_renameParams (params : Params Expr) :
    paramsNames (renameParams scope params) = (paramsNames params).map scope.reference := by
  have honce : RenamesParam scope.reference fun p => { p with
      type := p.type.map (Expr.mapNames scope.hint)
      default := p.default.map (Expr.mapNames scope.reference) } := by
    intro p
    rw [h.hint_eq]
    exact ⟨optionNames_map _ _, optionNames_map _ _⟩
  have htwice : RenamesParam scope.reference fun p => { p with
      type := (p.type.map (Expr.mapNames scope.hint)).map (Expr.mapNames scope.hint)
      default := p.default.map (Expr.mapNames scope.reference) } := by
    intro p
    rw [h.hint_eq]
    refine ⟨?_, optionNames_map _ _⟩
    show optionNames ((p.type.map _).map _) = _
    rw [optionNames_map, optionNames_map, h.map_reference_twice]
  obtain ⟨positional, regular, rest, keywordOnly, keywordRest⟩ := params
  simp only [renameParams, paramsNames, map_append]
  rw [honce.paramNames_map, htwice.paramNames_map, honce.paramOptionNames_map,
    honce.paramNames_map, honce.paramOptionNames_map]

end

theorem occurrences_of_isImport {s : Stmt} (h : isImport s = true) : s.occurrences = [] := by
  cases s <;> first | rfl | exact absurd h (by simp [isImport])

/-- Renaming a statement in a coherent scope respells each of its occurrences in its place. The
imports that vanish from a block hold no occurrences. -/
theorem Scope.Coherent.occurrences_renameStmt_all {scope : Scope} (h : scope.Coherent) :
    (∀ s, (renameStmt scope s).occurrences = s.occurrences.map scope.respell)
    ∧ (∀ cases, caseOccurrences (renameCases scope cases)
      = (caseOccurrences cases).map scope.respell)
    ∧ (∀ body, blockOccurrences (renameBlock scope body)
      = (blockOccurrences body).map scope.respell)
    ∧ ∀ handlers, handlerOccurrences (renameHandlers scope handlers)
      = (handlerOccurrences handlers).map scope.respell := by
  apply renameStmt.mutual_induct
  case case10 =>
    rintro (_ | ⟨error, cause⟩) <;> simp [renameStmt, Stmt.occurrences]
  all_goals
    intros
    simp [renameStmt, Stmt.occurrences, renameBlock, blockOccurrences, renameCases,
      caseOccurrences, renameHandlers, handlerOccurrences, Scope.respell, h.names_renameHint,
      h.paramsNames_renameParams, h.optionNames_renameHint, occurrences_of_isImport,
      flatMap_map, map_flatMap, *]

theorem Scope.Coherent.occurrences_renameStmt {scope : Scope} (h : scope.Coherent) (s : Stmt) :
    (renameStmt scope s).occurrences = s.occurrences.map scope.respell :=
  h.occurrences_renameStmt_all.1 s

end RobotKit.Link
