import RobotKit.Script.Syntax

/-!
# Names in expressions

`mapNames` renames every name of an expression; `loads` lists the names that an expression reads.
A name that stands where it is assigned to is not read, but the parts of an attribute or subscript
target are.
-/

namespace RobotKit.Script

mutual

/-- Renames all names of an expression. Attribute, parameter and keyword names stay. -/
def Expr.mapNames (f : String → String) : Expr → Expr
  | .name id => .name (f id)
  | .literal value => .literal value
  | .formatted parts => .formatted (mapPartNames f parts)
  | .tuple items => .tuple (mapEachNames f items)
  | .list items => .list (mapEachNames f items)
  | .set items => .set (mapEachNames f items)
  | .dict entries => .dict (mapEntryNames f entries)
  | .unary op operand => .unary op (operand.mapNames f)
  | .binary left op right => .binary (left.mapNames f) op (right.mapNames f)
  | .boolean op operands => .boolean op (mapEachNames f operands)
  | .compare left rest => .compare (left.mapNames f) (mapComparisonNames f rest)
  | .call function arguments keywords =>
    .call (function.mapNames f) (mapEachNames f arguments) (mapKeywordNames f keywords)
  | .attribute value field => .attribute (value.mapNames f) field
  | .subscript value index => .subscript (value.mapNames f) (index.mapNames f)
  | .slice lower upper step =>
    .slice (mapOptionNames f lower) (mapOptionNames f upper) (mapOptionNames f step)
  | .starred value => .starred (value.mapNames f)
  | .conditional test body orElse =>
    .conditional (test.mapNames f) (body.mapNames f) (orElse.mapNames f)
  | .lambda params body => .lambda (mapParamsNames f params) (body.mapNames f)
  | .comprehension kind element generators =>
    .comprehension kind (element.mapNames f) (mapGeneratorNames f generators)
  | .dictComprehension key value generators =>
    .dictComprehension (key.mapNames f) (value.mapNames f) (mapGeneratorNames f generators)
  | .named target value => .named (target.mapNames f) (value.mapNames f)
  | .await value => .await (value.mapNames f)
  | .yield value => .yield (mapOptionNames f value)
  | .yieldFrom value => .yieldFrom (value.mapNames f)

/-- Renames all names of several expressions. -/
def mapEachNames (f : String → String) : List Expr → List Expr
  | [] => []
  | e :: rest => e.mapNames f :: mapEachNames f rest

/-- Renames all names of an optional expression. -/
def mapOptionNames (f : String → String) : Option Expr → Option Expr
  | none => none
  | some e => some (e.mapNames f)

/-- Renames all names of dictionary entries. -/
def mapEntryNames (f : String → String) : List (Entry Expr) → List (Entry Expr)
  | [] => []
  | ⟨key, value⟩ :: rest => ⟨mapOptionNames f key, value.mapNames f⟩ :: mapEntryNames f rest

def mapComparisonNames (f : String → String) : List (CompareOp × Expr) → List (CompareOp × Expr)
  | [] => []
  | (op, e) :: rest => (op, e.mapNames f) :: mapComparisonNames f rest

/-- Renames all names of keyword arguments. -/
def mapKeywordNames (f : String → String) : List (Keyword Expr) → List (Keyword Expr)
  | [] => []
  | ⟨name, value⟩ :: rest => ⟨name, value.mapNames f⟩ :: mapKeywordNames f rest

/-- Renames all names of comprehension clauses. -/
def mapGeneratorNames (f : String → String) : List (Generator Expr) → List (Generator Expr)
  | [] => []
  | ⟨isAsync, target, source, conditions⟩ :: rest =>
    ⟨isAsync, target.mapNames f, source.mapNames f, mapEachNames f conditions⟩ ::
      mapGeneratorNames f rest

/-- Renames all names in the hints and defaults of a parameter list. -/
def mapParamsNames (f : String → String) : Params Expr → Params Expr
  | ⟨positional, regular, rest, keywordOnly, keywordRest⟩ =>
    ⟨mapParamNames f positional, mapParamNames f regular, mapParamOptionNames f rest,
      mapParamNames f keywordOnly, mapParamOptionNames f keywordRest⟩

/-- Renames all names in the hints and defaults of several parameters. -/
def mapParamNames (f : String → String) : List (Param Expr) → List (Param Expr)
  | [] => []
  | ⟨name, type, default⟩ :: rest =>
    ⟨name, mapOptionNames f type, mapOptionNames f default⟩ :: mapParamNames f rest

/-- Renames all names in the hint and default of an optional parameter. -/
def mapParamOptionNames (f : String → String) : Option (Param Expr) → Option (Param Expr)
  | none => none
  | some ⟨name, type, default⟩ => some ⟨name, mapOptionNames f type, mapOptionNames f default⟩

/-- Renames all names of the parts of a formatted string. -/
def mapPartNames (f : String → String) : List FormatPart → List FormatPart
  | [] => []
  | .text value :: rest => .text value :: mapPartNames f rest
  | .field value conversion none :: rest =>
    .field (value.mapNames f) conversion none :: mapPartNames f rest
  | .field value conversion (some format) :: rest =>
    .field (value.mapNames f) conversion (some (mapPartNames f format)) :: mapPartNames f rest

end

mutual

/-- The names that an expression reads. -/
def Expr.loads : Expr → List String
  | .name id => [id]
  | .literal _ => []
  | .formatted parts => partLoads parts
  | .tuple items | .list items | .set items => eachLoads items
  | .dict entries => entryLoads entries
  | .unary _ operand => operand.loads
  | .binary left _ right => left.loads ++ right.loads
  | .boolean _ operands => eachLoads operands
  | .compare left rest => left.loads ++ comparisonLoads rest
  | .call function arguments keywords =>
    function.loads ++ eachLoads arguments ++ keywordLoads keywords
  | .attribute value _ => value.loads
  | .subscript value index => value.loads ++ index.loads
  | .slice lower upper step => optionLoads lower ++ optionLoads upper ++ optionLoads step
  | .starred value => value.loads
  | .conditional test body orElse => test.loads ++ body.loads ++ orElse.loads
  | .lambda params body => paramsLoads params ++ body.loads
  | .comprehension _ element generators => element.loads ++ generatorLoads generators
  | .dictComprehension key value generators =>
    key.loads ++ value.loads ++ generatorLoads generators
  | .named target value => target.targetLoads ++ value.loads
  | .await value => value.loads
  | .yield value => optionLoads value
  | .yieldFrom value => value.loads

/-- The names that an expression reads when it is assigned to or deleted. -/
def Expr.targetLoads : Expr → List String
  | .name _ => []
  | .tuple items | .list items => eachTargetLoads items
  | .starred value => value.targetLoads
  | .attribute value _ => value.loads
  | .subscript value index => value.loads ++ index.loads
  | _ => []

/-- The names that several expressions read. -/
def eachLoads : List Expr → List String
  | [] => []
  | e :: rest => e.loads ++ eachLoads rest

/-- The names that several targets read. -/
def eachTargetLoads : List Expr → List String
  | [] => []
  | e :: rest => e.targetLoads ++ eachTargetLoads rest

/-- The names that an optional expression reads. -/
def optionLoads : Option Expr → List String
  | none => []
  | some e => e.loads

/-- The names that dictionary entries read. -/
def entryLoads : List (Entry Expr) → List String
  | [] => []
  | ⟨key, value⟩ :: rest => optionLoads key ++ value.loads ++ entryLoads rest

def comparisonLoads : List (CompareOp × Expr) → List String
  | [] => []
  | (_, e) :: rest => e.loads ++ comparisonLoads rest

/-- The names that keyword arguments read. -/
def keywordLoads : List (Keyword Expr) → List String
  | [] => []
  | ⟨_, value⟩ :: rest => value.loads ++ keywordLoads rest

/-- The names that comprehension clauses read. -/
def generatorLoads : List (Generator Expr) → List String
  | [] => []
  | ⟨_, target, source, conditions⟩ :: rest =>
    target.targetLoads ++ source.loads ++ eachLoads conditions ++ generatorLoads rest

/-- The names that the hints and defaults of a parameter list read. -/
def paramsLoads : Params Expr → List String
  | ⟨positional, regular, rest, keywordOnly, keywordRest⟩ =>
    paramLoads positional ++ paramLoads regular ++ paramOptionLoads rest ++
      paramLoads keywordOnly ++ paramOptionLoads keywordRest

/-- The names that the hints and defaults of several parameters read. -/
def paramLoads : List (Param Expr) → List String
  | [] => []
  | ⟨_, type, default⟩ :: rest => optionLoads type ++ optionLoads default ++ paramLoads rest

/-- The names that the hint and default of an optional parameter read. -/
def paramOptionLoads : Option (Param Expr) → List String
  | none => []
  | some ⟨_, type, default⟩ => optionLoads type ++ optionLoads default

/-- The names that the fields of a formatted string read. -/
def partLoads : List FormatPart → List String
  | [] => []
  | .text _ :: rest => partLoads rest
  | .field value _ none :: rest => value.loads ++ partLoads rest
  | .field value _ (some format) :: rest => value.loads ++ partLoads format ++ partLoads rest

end

mutual

def Pattern.loads : Pattern → List String
  | .value value => value.loads
  | .singleton _ | .star _ | .wildcard | .capture _ => []
  | .sequence items | .alternatives items => patternListLoads items
  | .mapping entries _ => patternEntryLoads entries
  | .object type positions fields =>
    type.loads ++ patternListLoads positions ++ patternFieldLoads fields
  | .binding pattern _ => pattern.loads

/-- The names that several patterns read. -/
def patternListLoads : List Pattern → List String
  | [] => []
  | p :: rest => p.loads ++ patternListLoads rest

/-- The names that the entries of a mapping pattern read. -/
def patternEntryLoads : List (Expr × Pattern) → List String
  | [] => []
  | (key, p) :: rest => key.loads ++ p.loads ++ patternEntryLoads rest

/-- The names that the fields of a class pattern read. -/
def patternFieldLoads : List (String × Pattern) → List String
  | [] => []
  | (_, p) :: rest => p.loads ++ patternFieldLoads rest

end

def WithItem.loads (item : WithItem) : List String :=
  item.context.loads ++ (item.target.map Expr.targetLoads).getD []

mutual

/-- The names that a statement reads, at any depth. -/
def Stmt.loads : Stmt → List String
  | .expression value => value.loads
  | .assign targets value => eachTargetLoads targets ++ value.loads
  | .augmented target _ value => target.targetLoads ++ value.loads
  | .annotated target type value _ => target.targetLoads ++ type.loads ++ optionLoads value
  | .returns value => optionLoads value
  | .delete targets => eachTargetLoads targets
  | .pass | .breaks | .continues | .globals _ | .nonlocals _ | .imports _ => []
  | .importFrom _ _ _ | .raises none => []
  | .raises (some (error, cause)) => error.loads ++ optionLoads cause
  | .asserts test message => test.loads ++ optionLoads message
  | .function _ _ params body decorators result =>
    paramsLoads params ++ blockLoads body ++ eachLoads decorators ++ optionLoads result
  | .classDef _ bases keywords body decorators =>
    eachLoads bases ++ keywordLoads keywords ++ blockLoads body ++ eachLoads decorators
  | .branch test body orElse => test.loads ++ blockLoads body ++ blockLoads orElse
  | .whileLoop test body orElse => test.loads ++ blockLoads body ++ blockLoads orElse
  | .forLoop _ target source body orElse =>
    target.targetLoads ++ source.loads ++ blockLoads body ++ blockLoads orElse
  | .withBlock _ items body => items.flatMap WithItem.loads ++ blockLoads body
  | .tryBlock _ body handlers orElse final =>
    blockLoads body ++ handlerLoads handlers ++ blockLoads orElse ++ blockLoads final
  | .choose subject cases => subject.loads ++ caseLoads cases

/-- The names that the statements of a block read. -/
def blockLoads : List Stmt → List String
  | [] => []
  | s :: rest => s.loads ++ blockLoads rest

/-- The names that `except` clauses read. -/
def handlerLoads : List Handler → List String
  | [] => []
  | .mk type _ body :: rest => optionLoads type ++ blockLoads body ++ handlerLoads rest

/-- The names that `case` clauses read. -/
def caseLoads : List Case → List String
  | [] => []
  | .mk pattern guard body :: rest =>
    pattern.loads ++ optionLoads guard ++ blockLoads body ++ caseLoads rest

end

end RobotKit.Script
