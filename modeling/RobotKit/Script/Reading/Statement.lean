import RobotKit.Script.Reading.Pattern

/-!
# The grammar of statements

`parse` reads a whole script. It accepts a text exactly if the grammar of the language does;
errors that a compiler finds in a well-formed tree, such as a `return` outside a function, are not
looked for.
-/

namespace RobotKit.Script

open Reader

/-- A reader of statement lists, for the blocks inside statements. -/
abbrev Block := Reader (List Stmt)

/-! ## Simple statements -/

/-- The operators that update a target. -/
def updateOps : List (String × BinaryOp) :=
  [("+=", .add), ("-=", .sub), ("*=", .mul), ("@=", .matMul), ("/=", .div), ("%=", .mod),
    ("&=", .bitAnd), ("|=", .bitOr), ("^=", .bitXor), ("<<=", .shiftLeft), (">>=", .shiftRight),
    ("**=", .pow), ("//=", .floorDiv)]

/-- The targets and the value of an assignment whose first targets have been read. -/
def assignment (self : Rules) : Nat → List Expr → Reader Stmt
  | 0, _ => failure
  | fuel + 1, targets => do
    let value ← assignedValue self
    if ← acceptOp "=" then
      if value.isStarTarget then assignment self fuel (targets ++ [value]) else failure
    else return .assign targets value

/-- An annotation after its colon. -/
def annotatedTarget (self : Rules) (target : Expr) (plain : Bool) : Reader Stmt := do
  if !target.isSingleTarget then failure
  let type ← self .expression
  let value ← if ← acceptOp "=" then some <$> assignedValue self else pure none
  return .annotated target type value plain

def Expr.isName : Expr → Bool
  | .name _ => true
  | _ => false

/-- An expression, an assignment, an update or an annotation. -/
def expressionStatement (self : Rules) : Reader Stmt := do
  if ← isKeyword "yield" then return .expression (← yieldExpression self)
  else
    let parenthesis ← isOp "("
    let value ← starExpressions self
    if ← acceptOp ":" then annotatedTarget self value (value.isName && !parenthesis)
    else if ← acceptOp "=" then
      if value.isStarTarget then assignment self ((← size) + 1) [value] else failure
    else match ← attempt (operatorOf updateOps) with
      | some op =>
        if !value.isSingleTarget then failure
        return .augmented value op (← assignedValue self)
      | none => return .expression value

def dottedName : Reader String := do
  let first ← name
  let rest ← many do expectOp "."; name
  return ".".intercalate (first :: rest)

def aliasOf (name' : Reader String) : Reader Alias := do
  let id ← name'
  let boundAs ← if ← acceptKeyword "as" then some <$> name else pure none
  return { name := id, boundAs }

/-- The number of dots in front of a module name. -/
def importLevel : Reader Nat := do
  let dots ← many do
    if ← acceptOp "." then return 1
    else expectOp "..."; return 3
  return dots.foldl (· + ·) 0

/-- What a `from` import takes from its module. -/
def importedNames : Reader (List Alias) := do
  if ← acceptOp "*" then return [{ name := "*", boundAs := none }]
  else if ← acceptOp "(" then
    let names ← commaSeparated (aliasOf name)
    let _ ← acceptOp ","
    expectOp ")"
    return names
  else
    let names ← commaSeparated (aliasOf name)
    if ← isOp "," then failure else return names

/-- A simple statement, without the end of its line. -/
def simpleStatement (self : Rules) : Reader Stmt := do
  match ← peek with
  | some (.keyword "pass") => let _ ← take; return .pass
  | some (.keyword "break") => let _ ← take; return .breaks
  | some (.keyword "continue") => let _ ← take; return .continues
  | some (.keyword "return") =>
    let _ ← take
    return .returns (← attempt (starExpressions self))
  | some (.keyword "raise") =>
    let _ ← take
    match ← attempt (self .expression) with
    | none => return .raises none
    | some error =>
      let cause ← if ← acceptKeyword "from" then some <$> self .expression else pure none
      return .raises (some (error, cause))
  | some (.keyword "global") =>
    let _ ← take
    return .globals (← commaSeparated name)
  | some (.keyword "nonlocal") =>
    let _ ← take
    return .nonlocals (← commaSeparated name)
  | some (.keyword "del") =>
    let _ ← take
    let targets ← commaSeparated (self .primary)
    let _ ← acceptOp ","
    if areDeletable targets then return .delete targets else failure
  | some (.keyword "assert") =>
    let _ ← take
    let test ← self .expression
    let message ← if ← acceptOp "," then some <$> self .expression else pure none
    return .asserts test message
  | some (.keyword "import") =>
    let _ ← take
    return .imports (← commaSeparated (aliasOf dottedName))
  | some (.keyword "from") =>
    let _ ← take
    let level ← importLevel
    let source ← attempt dottedName
    if source.isNone && level = 0 then failure
    expectKeyword "import"
    return .importFrom source (← importedNames) level
  | _ => expressionStatement self

/-- Simple statements up to the end of a line. -/
def simpleStatements (self : Rules) : Block := do
  let first ← simpleStatement self
  let rest ← many do expectOp ";"; simpleStatement self
  let _ ← acceptOp ";"
  expect .newline
  return first :: rest

/-! ## Compound statements -/

/-- A colon and the block after it. -/
def suite (block : Block) : Block := do
  expectOp ":"
  block

/-- The block of a keyword such as `else`, or nothing. -/
def keywordSuite (word : String) (block : Block) : Block := do
  if ← acceptKeyword word then suite block else return []

/-- A conditional statement after its keyword. -/
def branchStatement (self : Rules) (block : Block) : Reader Stmt := do
  let test ← namedExpression self
  let body ← suite block
  let others ← many do
    expectKeyword "elif"
    let test ← namedExpression self
    return (test, ← suite block)
  let last ← keywordSuite "else" block
  return .branch test body (others.foldr (fun other rest => [.branch other.1 other.2 rest]) last)

/-- A `while` loop after its keyword. -/
def whileStatement (self : Rules) (block : Block) : Reader Stmt := do
  let test ← namedExpression self
  let body ← suite block
  return .whileLoop test body (← keywordSuite "else" block)

/-- A `for` loop after its keyword. -/
def forStatement (self : Rules) (block : Block) (isAsync : Bool) : Reader Stmt := do
  let target ← starTargets self
  expectKeyword "in"
  let source ← starExpressions self
  let body ← suite block
  return .forLoop isAsync target source body (← keywordSuite "else" block)

def withItem (self : Rules) : Reader WithItem := do
  let context ← self .expression
  let target ← if ← acceptKeyword "as" then some <$> starTarget self else pure none
  return { context, target }

/-- The items of a `with` statement between parentheses. -/
def parenthesizedItems (self : Rules) : Reader (List WithItem) := do
  expectOp "("
  let items ← commaSeparated (withItem self)
  let _ ← acceptOp ","
  expectOp ")"
  if ← isOp ":" then return items else failure

def withStatement (self : Rules) (block : Block) (isAsync : Bool) : Reader Stmt := do
  let items ← parenthesizedItems self <|> commaSeparated (withItem self)
  return .withBlock isAsync items (← suite block)

/-- An `except` clause; `grouped` clauses carry a star and name a type. -/
def handler (self : Rules) (block : Block) (grouped : Bool) : Reader Handler := do
  expectKeyword "except"
  if grouped then expectOp "*"
  let type ← if grouped then some <$> self .expression else attempt (self .expression)
  if type.isNone then return .mk none none (← suite block)
  else
    let bound ← if ← acceptKeyword "as" then some <$> name else pure none
    return .mk type bound (← suite block)

def tryStatement (self : Rules) (block : Block) : Reader Stmt := do
  let body ← suite block
  let grouped := match ← peekSecond with
    | some (.op "*") => true
    | _ => false
  let handlers ← many (handler self block grouped)
  if handlers.isEmpty then
    expectKeyword "finally"
    return .tryBlock false body [] [] (← suite block)
  else
    let orElse ← keywordSuite "else" block
    let final ← keywordSuite "finally" block
    return .tryBlock grouped body handlers orElse final

/-- A function definition after its keyword. -/
def functionStatement (self : Rules) (block : Block) (isAsync : Bool) (decorators : List Expr) :
    Reader Stmt := do
  let id ← name
  expectOp "("
  let params ← parameters self true ")"
  let result ← if ← acceptOp "->" then some <$> self .expression else pure none
  return .function isAsync id params (← suite block) decorators result

/-- A class definition after its keyword. -/
def classStatement (self : Rules) (block : Block) (decorators : List Expr) : Reader Stmt := do
  let id ← name
  let (bases, keywords) ← if ← acceptOp "(" then arguments self else pure ([], [])
  return .classDef id bases keywords (← suite block) decorators

def decorator (self : Rules) : Reader Expr := do
  expectOp "@"
  let value ← namedExpression self
  expect .newline
  return value

/-- The head of a `match` statement, up to its first clause. -/
def chooseHead (self : Rules) : Reader Expr := do
  expect (.name "match")
  let first ← starNamed self
  let subject ← if ← acceptOp "," then
      match ← attempt (commaSeparated (starNamed self)) with
      | some items => let _ ← acceptOp ","; pure (.tuple (first :: items))
      | none => pure (.tuple [first])
    else if first.isStarred then failure
    else pure first
  expectOp ":"
  expect .newline
  expect .indent
  return subject

def caseClause (self : Rules) (depth : Nat) (block : Block) : Reader Case := do
  expect (.name "case")
  let pattern ← casePattern self depth
  let guard ← if ← acceptKeyword "if" then some <$> namedExpression self else pure none
  return .mk pattern guard (← suite block)

def chooseStatement (self : Rules) (depth : Nat) (block : Block) (subject : Expr) :
    Reader Stmt := do
  let cases ← many1 (caseClause self depth block)
  expect .dedent
  return .choose subject cases

def definition (self : Rules) (block : Block) (decorators : List Expr) : Reader Stmt := do
  match ← take with
  | .keyword "def" => functionStatement self block false decorators
  | .keyword "class" => classStatement self block decorators
  | .keyword "async" =>
    expectKeyword "def"
    functionStatement self block true decorators
  | _ => failure

/-- The statements that one line or one compound statement stands for. -/
def statement (self : Rules) (depth : Nat) (block : Block) : Block := do
  match ← peek, ← peekSecond with
  | some (.keyword "if"), _ => let _ ← take; return [← branchStatement self block]
  | some (.keyword "while"), _ => let _ ← take; return [← whileStatement self block]
  | some (.keyword "for"), _ => let _ ← take; return [← forStatement self block false]
  | some (.keyword "with"), _ => let _ ← take; return [← withStatement self block false]
  | some (.keyword "try"), _ => let _ ← take; return [← tryStatement self block]
  | some (.keyword "def"), _ | some (.keyword "class"), _ => return [← definition self block []]
  | some (.op "@"), _ =>
    let decorators ← many1 (decorator self)
    return [← definition self block decorators]
  | some (.keyword "async"), some (.keyword "for") =>
    let _ ← take
    let _ ← take
    return [← forStatement self block true]
  | some (.keyword "async"), some (.keyword "with") =>
    let _ ← take
    let _ ← take
    return [← withStatement self block true]
  | some (.keyword "async"), _ => return [← definition self block []]
  | some (.name "match"), _ =>
    match ← attempt (chooseHead self) with
    | some subject => return [← chooseStatement self depth block subject]
    | none => simpleStatements self
  | _, _ => simpleStatements self

/-- Statements up to the end of the indentation, which is left in place, or of the text. -/
def statements (self : Rules) (depth : Nat) (block : Block) : Nat → Block
  | 0 => failure
  | fuel + 1 => do
    match ← peek with
    | none | some .dedent => return []
    | _ =>
      let first ← statement self depth block
      return first ++ (← statements self depth block fuel)

/-- The block after a colon: an indented one, or the rest of the line. -/
def blockRule (self : Rules) (depth : Nat) (block : Block) : Block := do
  if ← accept .newline then
    expect .indent
    let body ← statements self depth block ((← size) + 1)
    if body.isEmpty then failure
    expect .dedent
    return body
  else simpleStatements self

/-- Blocks nested at most `fuel` levels. -/
def blockOf (self : Rules) (depth : Nat) : Nat → Block
  | 0 => failure
  | fuel + 1 => blockRule self depth (blockOf self depth fuel)

/-- Why a text is no script. -/
inductive ParseError where
  /-- The grammar refuses it. -/
  | refused
  /-- It holds the character zero. -/
  | nullCharacter
deriving DecidableEq

def parse (text : String) : Except ParseError (List Stmt) :=
  let chars := text.toList
  if chars.contains (Char.ofNat 0) then .error .nullCharacter
  else
    let depth := chars.length + 10
    let self := rules depth
    let result := do
      let tokens ← tokenize chars
      let (body, rest) ← (statements self depth (blockOf self depth depth) (tokens.length + 1)).run tokens
      if rest.isEmpty then some body else none
    match result with
    | some body => .ok body
    | none => .error .refused

end RobotKit.Script
