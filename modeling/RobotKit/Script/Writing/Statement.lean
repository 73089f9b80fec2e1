import RobotKit.Script.Writing.Expression

/-!
# Writing statements

Every statement starts on a line of its own, blocks are indented by four blanks, and a blank line
stands before each function and class. A text that opens a module, class or function is written
between three marks.
-/

namespace RobotKit.Script

/-- The start of a line inside `depth` blocks. -/
def newLine (depth : Nat) : String := "\n" ++ String.ofList (List.replicate (4 * depth) ' ')

/-- An expression as part of a statement. -/
def Expr.text (e : Expr) : Except WriteError String := e.write false .test

/-- The text of a name in an import. -/
def Alias.write (a : Alias) : String :=
  a.name ++ (a.boundAs.map (" as " ++ ·)).getD ""

def WithItem.write (item : WithItem) : Except WriteError String := do
  let context ← item.context.text
  let target ← writeOption false item.target
  return context ++ (target.map (" as " ++ ·)).getD ""

def importText (names : List Alias) : String := "import " ++ commas (names.map Alias.write)

def importFromText (source : Option String) (names : List Alias) (level : Nat) : String :=
  "from " ++ String.ofList (List.replicate level '.') ++ source.getD "" ++ " import " ++
    commas (names.map Alias.write)

mutual

def Pattern.write (p : Precedence) : Pattern → Except WriteError String
  | .value value => value.text
  | .singleton value => value.write false
  | .sequence items => do return "[" ++ commas (← writePatterns .test items) ++ "]"
  | .mapping entries rest => do
    let texts ← writePatternEntries entries
    return "\x7b" ++ commas (texts ++ (rest.map ("**" ++ ·)).toList) ++ "\x7d"
  | .object type positions fields => do
    let head ← type.write false .atom
    let positionTexts ← writePatterns .test positions
    let fieldTexts ← writePatternFields fields
    return head ++ "(" ++ commas (positionTexts ++ fieldTexts) ++ ")"
  | .star none => .ok "*_"
  | .star (some name) => .ok ("*" ++ name)
  | .wildcard => .ok "_"
  | .capture name => .ok name
  | .binding pattern name => do
    let text ← pattern.write .bitOr
    return parenthesizeIf (p > Precedence.test) (text ++ " as " ++ name)
  | .alternatives items => do
    let texts ← writePatterns (Precedence.next .bitOr) items
    return parenthesizeIf (p > Precedence.bitOr) (" | ".intercalate texts)

/-- The written forms of several patterns. -/
def writePatterns (p : Precedence) : List Pattern → Except WriteError (List String)
  | [] => .ok []
  | item :: rest => do
    let text ← item.write p
    return text :: (← writePatterns p rest)

def writePatternEntries : List (Expr × Pattern) → Except WriteError (List String)
  | [] => .ok []
  | (key, pattern) :: rest => do
    let keyText ← key.text
    let patternText ← pattern.write .test
    return (keyText ++ ": " ++ patternText) :: (← writePatternEntries rest)

def writePatternFields : List (String × Pattern) → Except WriteError (List String)
  | [] => .ok []
  | (name, pattern) :: rest => do
    let text ← pattern.write .test
    return (name ++ "=" ++ text) :: (← writePatternFields rest)

end

def writeDecorators (depth : Nat) (decorators : List Expr) : Except WriteError String := do
  let texts ← writeEach false .test decorators
  return String.join (texts.map fun text => newLine depth ++ "@" ++ text)

mutual

/-- The written form of a statement inside `depth` blocks, with the line end before it. -/
def Stmt.write (depth : Nat) : Stmt → Except WriteError String
  | .expression value => do return newLine depth ++ (← value.write false .yielding)
  | .assign targets value => do
    let texts ← writeEach false .tuple targets
    let valueText ← value.text
    return newLine depth ++ String.join (texts.map (· ++ " = ")) ++ valueText
  | .augmented target op value => do
    let targetText ← target.text
    let valueText ← value.text
    return newLine depth ++ targetText ++ " " ++ op.symbol ++ "= " ++ valueText
  | .annotated target type value plain => do
    let isName := match target with
      | .name _ => true
      | _ => false
    let targetText ← target.text
    let typeText ← type.text
    let valueText ← writeOption false value
    return newLine depth ++ parenthesizeIf (!plain && isName) targetText ++ ": " ++ typeText ++
      (valueText.map (" = " ++ ·)).getD ""
  | .returns value => do
    let text ← writeOption false value
    return newLine depth ++ "return" ++ (text.map (" " ++ ·)).getD ""
  | .delete targets => do return newLine depth ++ "del " ++ commas (← writeEach false .test targets)
  | .pass => .ok (newLine depth ++ "pass")
  | .breaks => .ok (newLine depth ++ "break")
  | .continues => .ok (newLine depth ++ "continue")
  | .raises none => .ok (newLine depth ++ "raise")
  | .raises (some (error, cause)) => do
    let errorText ← error.text
    let causeText ← writeOption false cause
    return newLine depth ++ "raise " ++ errorText ++ (causeText.map (" from " ++ ·)).getD ""
  | .asserts test message => do
    let testText ← test.text
    let messageText ← writeOption false message
    return newLine depth ++ "assert " ++ testText ++ (messageText.map (", " ++ ·)).getD ""
  | .globals names => .ok (newLine depth ++ "global " ++ commas names)
  | .nonlocals names => .ok (newLine depth ++ "nonlocal " ++ commas names)
  | .imports names => .ok (newLine depth ++ importText names)
  | .importFrom source names level =>
    .ok (newLine depth ++ importFromText source names level)
  | .function isAsync name params body decorators result => do
    let head ← writeDecorators depth decorators
    let paramTexts ← writeParams false params
    let resultText ← writeOption false result
    let bodyText ← writeDocumented (depth + 1) body
    return "\n" ++ head ++ newLine depth ++ (if isAsync then "async def " else "def ") ++ name ++
      "(" ++ commas paramTexts ++ ")" ++ (resultText.map (" -> " ++ ·)).getD "" ++ ":" ++ bodyText
  | .classDef name bases keywords body decorators => do
    let head ← writeDecorators depth decorators
    let baseTexts ← writeEach false .test bases
    let keywordTexts ← writeKeywords false keywords
    let arguments := baseTexts ++ keywordTexts
    let bodyText ← writeDocumented (depth + 1) body
    return "\n" ++ head ++ newLine depth ++ "class " ++ name ++
      parenthesizeIf (!arguments.isEmpty) (commas arguments) ++ ":" ++ bodyText
  | .branch test body orElse => do
    let testText ← test.text
    let bodyText ← writeBlock (depth + 1) body
    return newLine depth ++ "if " ++ testText ++ ":" ++ bodyText ++ (← writeElse depth orElse)
  | .whileLoop test body orElse => do
    let testText ← test.text
    let bodyText ← writeBlock (depth + 1) body
    let orElseText ← writeBlock (depth + 1) orElse
    return newLine depth ++ "while " ++ testText ++ ":" ++ bodyText ++
      keywordBlock depth "else" orElse orElseText
  | .forLoop isAsync target source body orElse => do
    let targetText ← target.write false .tuple
    let sourceText ← source.text
    let bodyText ← writeBlock (depth + 1) body
    let orElseText ← writeBlock (depth + 1) orElse
    return newLine depth ++ (if isAsync then "async for " else "for ") ++ targetText ++ " in " ++
      sourceText ++ ":" ++ bodyText ++ keywordBlock depth "else" orElse orElseText
  | .withBlock isAsync items body => do
    let texts ← items.mapM WithItem.write
    let bodyText ← writeBlock (depth + 1) body
    return newLine depth ++ (if isAsync then "async with " else "with ") ++ commas texts ++ ":" ++
      bodyText
  | .tryBlock grouped body handlers orElse final => do
    let bodyText ← writeBlock (depth + 1) body
    let handlerText ← writeHandlers depth grouped handlers
    let orElseText ← writeBlock (depth + 1) orElse
    let finalText ← writeBlock (depth + 1) final
    return newLine depth ++ "try:" ++ bodyText ++ handlerText ++
      keywordBlock depth "else" orElse orElseText ++ keywordBlock depth "finally" final finalText
  | .choose subject cases => do
    let text ← subject.text
    return newLine depth ++ "match " ++ text ++ ":" ++ (← writeCases (depth + 1) cases)
where
  /-- A keyword with its block, if the block has statements. -/
  keywordBlock (depth : Nat) (word : String) (block : List Stmt) (text : String) : String :=
    if block.isEmpty then "" else newLine depth ++ word ++ ":" ++ text

def writeBlock (depth : Nat) : List Stmt → Except WriteError String
  | [] => .ok ""
  | first :: rest => do
    let text ← first.write depth
    return text ++ (← writeBlock depth rest)

/-- The statements of a module, class or function, whose first one may describe it. -/
def writeDocumented (depth : Nat) : List Stmt → Except WriteError String
  | .expression (.literal (.text value tagged)) :: rest => do
    let text := (if tagged then "u" else "") ++ writeFewEscapes longMarks value
    return newLine depth ++ text ++ (← writeBlock depth rest)
  | [] => .ok ""
  | first :: rest => do
    let text ← first.write depth
    return text ++ (← writeBlock depth rest)

/-- What follows the block of a conditional: a nested conditional alone is an `elif`. -/
def writeElse (depth : Nat) : List Stmt → Except WriteError String
  | [] => .ok ""
  | [.branch test body orElse] => do
    let testText ← test.text
    let bodyText ← writeBlock (depth + 1) body
    return newLine depth ++ "elif " ++ testText ++ ":" ++ bodyText ++ (← writeElse depth orElse)
  | first :: rest => do
    let text ← first.write (depth + 1)
    return newLine depth ++ "else:" ++ text ++ (← writeBlock (depth + 1) rest)

/-- The `except` clauses of a `try` statement. -/
def writeHandlers (depth : Nat) (grouped : Bool) : List Handler → Except WriteError String
  | [] => .ok ""
  | .mk type name body :: rest => do
    let typeText ← writeOption false type
    let bodyText ← writeBlock (depth + 1) body
    let head := newLine depth ++ (if grouped then "except*" else "except") ++
      (typeText.map (" " ++ ·)).getD "" ++ (name.map (" as " ++ ·)).getD ""
    return head ++ ":" ++ bodyText ++ (← writeHandlers depth grouped rest)

/-- The `case` clauses of a `match` statement. -/
def writeCases (depth : Nat) : List Case → Except WriteError String
  | [] => .ok ""
  | .mk pattern guard body :: rest => do
    let patternText ← pattern.write .test
    let guardText ← writeOption false guard
    let bodyText ← writeBlock (depth + 1) body
    return newLine depth ++ "case " ++ patternText ++ (guardText.map (" if " ++ ·)).getD "" ++
      ":" ++ bodyText ++ (← writeCases depth rest)

end

/-- A text without the line ends before its first statement. -/
def withoutLeadingLines (text : String) : String :=
  String.ofList (text.toList.dropWhile (· = '\n'))

/-- The text of one statement on its own. -/
def Stmt.text (s : Stmt) : Except WriteError String := do
  return withoutLeadingLines (← s.write 0)

def write (body : List Stmt) : Except WriteError String := do
  return withoutLeadingLines (← writeDocumented 0 body)

end RobotKit.Script
