import RobotKit.Script.Names
import RobotKit.Table

/-!
# Renaming

When the files of a project become one script, the top-level names of every file but the entry
file get new names. A `Scope` knows, for one file, which names the file declares, where its
imported names come from, and the new names of all files. `Stmt.rename` applies it to a
statement: references follow their origin, declarations take their own new names, and import
statements vanish from every block.
-/

namespace RobotKit.Link

open RobotKit.Script

/-- Where an imported name comes from: a file and the name there. -/
structure Origin where
  file : String
  name : String
deriving DecidableEq

/-- What a file needs to know to rename its names. -/
structure Scope where
  file : String
  /-- The new names of each file. -/
  newNames : Table (Table String)
  /-- The origins of the names that this file imports. -/
  origins : Table Origin
  /-- The names that this file declares. -/
  declared : List String

namespace Scope

def newName? (scope : Scope) (file name : String) : Option String :=
  (scope.newNames.get? file).bind (·.get? name)

def imported? (scope : Scope) (name : String) : Option String :=
  (scope.origins.get? name).bind fun origin => scope.newName? origin.file origin.name

def declared? (scope : Scope) (name : String) : Option String :=
  if scope.declared.contains name then scope.newName? scope.file name else none

/-- What a reference to a name becomes: an import with a new name wins over a declaration. -/
def reference (scope : Scope) (name : String) : String :=
  ((scope.imported? name).or (scope.declared? name)).getD name

/-- What a name in a type hint becomes: an import decides, whether it has a new name or not. -/
def hint (scope : Scope) (name : String) : String :=
  if scope.origins.contains name then (scope.imported? name).getD name
  else (scope.declared? name).getD name

/-- What the name of a definition or of a `global` statement becomes. -/
def definition (scope : Scope) (name : String) : String := (scope.declared? name).getD name

end Scope

/-- Renames the parameters of a function: defaults as references, hints as hints. The hints of
ordinary parameters are renamed twice. -/
def renameParams (scope : Scope) (params : Params Expr) : Params Expr :=
  let once := fun (p : Param Expr) => { p with
    type := p.type.map (Expr.mapNames scope.hint)
    default := p.default.map (Expr.mapNames scope.reference) }
  let twice := fun (p : Param Expr) =>
    once { p with type := p.type.map (Expr.mapNames scope.hint) }
  { positional := params.positional.map once
    regular := params.regular.map twice
    rest := params.rest.map once
    keywordOnly := params.keywordOnly.map once
    keywordRest := params.keywordRest.map once }

/-- Renames a hint of a variable or of a result: first as a hint, then as a reference. -/
def renameHint (scope : Scope) (type : Expr) : Expr :=
  (type.mapNames scope.hint).mapNames scope.reference

mutual

/-- Renames all names that a pattern reads. -/
def mapPatternNames (f : String → String) : Pattern → Pattern
  | .value value => .value (value.mapNames f)
  | .singleton value => .singleton value
  | .sequence items => .sequence (mapPatternListNames f items)
  | .mapping entries rest => .mapping (mapPatternEntryNames f entries) rest
  | .object type positions fields =>
    .object (type.mapNames f) (mapPatternListNames f positions) (mapPatternFieldNames f fields)
  | .star name => .star name
  | .wildcard => .wildcard
  | .capture name => .capture name
  | .binding pattern name => .binding (mapPatternNames f pattern) name
  | .alternatives items => .alternatives (mapPatternListNames f items)

/-- Renames all names that several patterns read. -/
def mapPatternListNames (f : String → String) : List Pattern → List Pattern
  | [] => []
  | p :: rest => mapPatternNames f p :: mapPatternListNames f rest

/-- Renames all names that the entries of a mapping pattern read. -/
def mapPatternEntryNames (f : String → String) : List (Expr × Pattern) → List (Expr × Pattern)
  | [] => []
  | (key, p) :: rest => (key.mapNames f, mapPatternNames f p) :: mapPatternEntryNames f rest

/-- Renames all names that the fields of a class pattern read. -/
def mapPatternFieldNames (f : String → String) : List (String × Pattern) → List (String × Pattern)
  | [] => []
  | (name, p) :: rest => (name, mapPatternNames f p) :: mapPatternFieldNames f rest

end

def isImport : Stmt → Bool
  | .imports _ | .importFrom _ _ _ => true
  | _ => false

mutual

/-- Renames a statement, and drops the imports of its blocks. -/
def renameStmt (scope : Scope) : Stmt → Stmt
  | .expression value => .expression (value.mapNames scope.reference)
  | .assign targets value =>
    .assign (mapEachNames scope.reference targets) (value.mapNames scope.reference)
  | .augmented target op value =>
    .augmented (target.mapNames scope.reference) op (value.mapNames scope.reference)
  | .annotated target type value plain =>
    .annotated (target.mapNames scope.reference) (renameHint scope type)
      (mapOptionNames scope.reference value) plain
  | .returns value => .returns (mapOptionNames scope.reference value)
  | .delete targets => .delete (mapEachNames scope.reference targets)
  | .pass => .pass
  | .breaks => .breaks
  | .continues => .continues
  | .raises error => .raises (error.map fun (e, cause) =>
      (e.mapNames scope.reference, mapOptionNames scope.reference cause))
  | .asserts test message =>
    .asserts (test.mapNames scope.reference) (mapOptionNames scope.reference message)
  | .globals names => .globals (names.map scope.definition)
  | .nonlocals names => .nonlocals names
  | .imports names => .imports names
  | .importFrom source names level => .importFrom source names level
  | .function isAsync name params body decorators result =>
    .function isAsync (scope.definition name) (renameParams scope params) (renameBlock scope body)
      (mapEachNames scope.reference decorators) (result.map (renameHint scope))
  | .classDef name bases keywords body decorators =>
    .classDef (scope.definition name) (mapEachNames scope.reference bases)
      (mapKeywordNames scope.reference keywords) (renameBlock scope body)
      (mapEachNames scope.reference decorators)
  | .branch test body orElse =>
    .branch (test.mapNames scope.reference) (renameBlock scope body) (renameBlock scope orElse)
  | .whileLoop test body orElse =>
    .whileLoop (test.mapNames scope.reference) (renameBlock scope body) (renameBlock scope orElse)
  | .forLoop isAsync target source body orElse =>
    .forLoop isAsync (target.mapNames scope.reference) (source.mapNames scope.reference)
      (renameBlock scope body) (renameBlock scope orElse)
  | .withBlock isAsync items body =>
    .withBlock isAsync
      (items.map fun item => ⟨item.context.mapNames scope.reference,
        mapOptionNames scope.reference item.target⟩)
      (renameBlock scope body)
  | .tryBlock grouped body handlers orElse final =>
    .tryBlock grouped (renameBlock scope body) (renameHandlers scope handlers)
      (renameBlock scope orElse) (renameBlock scope final)
  | .choose subject cases => .choose (subject.mapNames scope.reference) (renameCases scope cases)

/-- Renames the statements of a block and drops its imports. -/
def renameBlock (scope : Scope) : List Stmt → List Stmt
  | [] => []
  | s :: rest =>
    if isImport s then renameBlock scope rest else renameStmt scope s :: renameBlock scope rest

/-- Renames `except` clauses. -/
def renameHandlers (scope : Scope) : List Handler → List Handler
  | [] => []
  | .mk type name body :: rest =>
    .mk (mapOptionNames scope.reference type) name (renameBlock scope body) ::
      renameHandlers scope rest

def renameCases (scope : Scope) : List Case → List Case
  | [] => []
  | .mk pattern guard body :: rest =>
    .mk (mapPatternNames scope.reference pattern) (mapOptionNames scope.reference guard)
      (renameBlock scope body) :: renameCases scope rest

end

end RobotKit.Link
