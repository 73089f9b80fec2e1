import RobotKit.Script.Writing.Literal

/-!
# Writing expressions

An expression is written with the parentheses that its surroundings need and no others. The
surroundings are given as a precedence: an expression that binds less tightly is put between
parentheses.
-/

namespace RobotKit.Script

open RobotKit.Text

/-- How tightly an expression binds; larger numbers bind more tightly. -/
abbrev Precedence := Nat

namespace Precedence

def naming : Precedence := 1
def tuple : Precedence := 2
def yielding : Precedence := 3
/-- Conditional expressions and lambdas. -/
def test : Precedence := 4
def or : Precedence := 5
def and : Precedence := 6
def not : Precedence := 7
def compare : Precedence := 8
/-- Bitwise or, and what may follow a star. -/
def bitOr : Precedence := 9
def bitXor : Precedence := 10
def bitAnd : Precedence := 11
def shift : Precedence := 12
def sum : Precedence := 13
def product : Precedence := 14
def sign : Precedence := 15
def power : Precedence := 16
def awaiting : Precedence := 17
/-- Atoms, calls, attributes and subscripts. -/
def atom : Precedence := 18

def next (p : Precedence) : Precedence := min (p + 1) atom

end Precedence

def UnaryOp.symbol : UnaryOp → String
  | .invert => "~"
  | .not => "not "
  | .plus => "+"
  | .minus => "-"

def UnaryOp.precedence : UnaryOp → Precedence
  | .not => .not
  | _ => .sign

def BinaryOp.symbol : BinaryOp → String
  | .add => "+"
  | .sub => "-"
  | .mul => "*"
  | .matMul => "@"
  | .div => "/"
  | .floorDiv => "//"
  | .mod => "%"
  | .pow => "**"
  | .shiftLeft => "<<"
  | .shiftRight => ">>"
  | .bitOr => "|"
  | .bitXor => "^"
  | .bitAnd => "&"

def BinaryOp.precedence : BinaryOp → Precedence
  | .add | .sub => .sum
  | .mul | .matMul | .div | .floorDiv | .mod => .product
  | .pow => .power
  | .shiftLeft | .shiftRight => .shift
  | .bitOr => .bitOr
  | .bitXor => .bitXor
  | .bitAnd => .bitAnd

/-- The precedence around the left operand. Powers group to the right. -/
def BinaryOp.leftPrecedence (op : BinaryOp) : Precedence :=
  if op = .pow then op.precedence.next else op.precedence

/-- The precedence around the right operand. -/
def BinaryOp.rightPrecedence (op : BinaryOp) : Precedence :=
  if op = .pow then op.precedence else op.precedence.next

/-- The word of a short-circuit operator. -/
def BoolOp.symbol : BoolOp → String
  | .and => "and"
  | .or => "or"

/-- The precedence of a short-circuit operator. -/
def BoolOp.precedence : BoolOp → Precedence
  | .and => .and
  | .or => .or

/-- The sign of a comparison. -/
def CompareOp.symbol : CompareOp → String
  | .eq => "=="
  | .ne => "!="
  | .lt => "<"
  | .le => "<="
  | .gt => ">"
  | .ge => ">="
  | .is => "is"
  | .isNot => "is not"
  | .member => "in"
  | .notMember => "not in"

def Conversion.letter : Conversion → String
  | .str => "s"
  | .repr => "r"
  | .ascii => "a"

/-- The text between parentheses if `condition` holds. -/
def parenthesizeIf (condition : Bool) (text : String) : String :=
  if condition then "(" ++ text ++ ")" else text

def commas (texts : List String) : String := ", ".intercalate texts

/-- Texts with commas between them, and one after a single text. -/
def tupleItems (texts : List String) : String :=
  match texts with
  | [single] => single ++ ","
  | _ => commas texts

/-- The operands of a short-circuit operator, written for ever tighter surroundings. -/
def boolPrecedences (op : BoolOp) (count : Nat) : List Precedence :=
  (List.range count).map fun i => min (op.precedence + i + 1) Precedence.atom

/-- The texts of a parameter list in the order in which they are written: those before the slash,
the slash, the ordinary ones, the star, those after it, and the collector of keywords. -/
def paramTexts (positional regular : List String) (rest : Option String)
    (keywordOnly : List String) (keywordRest : Option String) : List String :=
  let slash := if positional.isEmpty then [] else ["/"]
  let star := match rest with
    | some text => ["*" ++ text]
    | none => if keywordOnly.isEmpty then [] else ["*"]
  positional ++ slash ++ regular ++ star ++ keywordOnly ++
    (keywordRest.map ("**" ++ ·)).toList

/-- Doubles the braces of a literal part of a formatted string. -/
def doubleBraces (text : List CodePoint) : List CodePoint :=
  text.flatMap fun c => if c.val = 123 || c.val = 125 then [c, c] else [c]

/-- The bodies of the parts of a formatted string, and the marks that fit all of them. The result
is empty if no mark does. Literal parts (marked `true`) escape line feeds and tabs. -/
def fitParts (marks : List String) :
    List (Bool × List CodePoint) → Option (List (List Char) × List String)
  | [] => some ([], marks)
  | (isLiteral, text) :: rest =>
    let (body, fitting) := fewEscapes isLiteral marks text
    if fitting.all fun mark => !marks.contains mark then none
    else (fitParts fitting rest).map fun (bodies, final) => (body :: bodies, final)

/-- A formatted string from its parts, where backslashes may stand in the literal parts. -/
def writeParts (parts : List (Bool × List CodePoint)) : String :=
  match fitParts allMarks parts with
  | some (bodies, marks) =>
    let mark := marks.headD "'"
    "f" ++ mark ++ String.ofList bodies.flatten ++ mark
  | none =>
    let body := parts.flatMap fun part => part.2.flatMap fun c => quoteCode '\'' c.val
    "f'''" ++ String.ofList body ++ "'''"

def Expr.isInteger : Expr → Bool
  | .literal value => value.isInteger
  | _ => false

/-- The expression of a field between its braces, with what follows it. A blank keeps two opening
braces apart. -/
def fieldText (value tail : String) : Except WriteError (List CodePoint) :=
  if value.toList.contains '\\' then .error .fieldBackslash
  else
    let gap := if value.toList.head? = some '\x7b' then " " else ""
    .ok (codePoints ("\x7b" ++ gap ++ value ++ tail))

def Collection.brackets : Collection → String × String
  | .list => ("[", "]")
  | .set => ("\x7b", "\x7d")
  | .generator => ("(", ")")

mutual

/-- The written form of an expression; `inField` inside the field of a formatted string. -/
def Expr.write (inField : Bool) (p : Precedence) : Expr → Except WriteError String
  | .name id => .ok id
  | .literal value => value.write inField
  | .formatted parts => do
    let texts ← writeFormatParts parts
    if inField then return "f" ++ writeFewEscapes allMarks (texts.flatMap (·.2))
    else return writeParts texts
  | .tuple items => do
    let texts ← writeEach inField .test items
    return parenthesizeIf (texts.isEmpty || p > Precedence.tuple) (tupleItems texts)
  | .list items => do return "[" ++ commas (← writeEach inField .test items) ++ "]"
  | .set items => do
    let texts ← writeEach inField .test items
    return "\x7b" ++ (if texts.isEmpty then "*()" else commas texts) ++ "\x7d"
  | .dict entries => do return "\x7b" ++ commas (← writeEntries inField entries) ++ "\x7d"
  | .unary op operand => do
    let text ← operand.write inField op.precedence
    return parenthesizeIf (p > op.precedence) (op.symbol ++ text)
  | .binary left op right => do
    let leftText ← left.write inField op.leftPrecedence
    let rightText ← right.write inField op.rightPrecedence
    return parenthesizeIf (p > op.precedence) (leftText ++ " " ++ op.symbol ++ " " ++ rightText)
  | .boolean op operands => do
    let texts ← writeOperands inField (boolPrecedences op operands.length) operands
    return parenthesizeIf (p > op.precedence) ((" " ++ op.symbol ++ " ").intercalate texts)
  | .compare left rest => do
    let first ← left.write inField (Precedence.next .compare)
    let others ← writeComparisons inField rest
    return parenthesizeIf (p > Precedence.compare) (first ++ others)
  | .call function arguments keywords => do
    let head ← function.write inField .atom
    let positions ← writeEach inField .test arguments
    let named ← writeKeywords inField keywords
    return head ++ "(" ++ commas (positions ++ named) ++ ")"
  | .attribute value field => do
    let text ← value.write inField .atom
    return text ++ (if value.isInteger then " ." else ".") ++ field
  | .subscript value (.tuple (item :: items)) => do
    let text ← value.write inField .atom
    let first ← item.write inField .test
    let others ← writeEach inField .test items
    return text ++ "[" ++ tupleItems (first :: others) ++ "]"
  | .subscript value index => do
    let text ← value.write inField .atom
    return text ++ "[" ++ (← index.write inField .test) ++ "]"
  | .slice lower upper step => do
    let low ← writeOption inField lower
    let high ← writeOption inField upper
    let stride ← writeOption inField step
    return low.getD "" ++ ":" ++ high.getD "" ++ (stride.map (":" ++ ·)).getD ""
  | .starred value => do return "*" ++ (← value.write inField .bitOr)
  | .conditional test body orElse => do
    let bodyText ← body.write inField (Precedence.next .test)
    let testText ← test.write inField (Precedence.next .test)
    let orElseText ← orElse.write inField .test
    return parenthesizeIf (p > Precedence.test)
      (bodyText ++ " if " ++ testText ++ " else " ++ orElseText)
  | .lambda params body => do
    let texts ← writeParams inField params
    let bodyText ← body.write inField .test
    let head := if texts.isEmpty then "lambda" else "lambda " ++ commas texts
    return parenthesizeIf (p > Precedence.test) (head ++ ": " ++ bodyText)
  | .comprehension kind element generators => do
    let text ← element.write inField .test
    return kind.brackets.1 ++ text ++ (← writeGenerators inField generators) ++ kind.brackets.2
  | .dictComprehension key value generators => do
    let keyText ← key.write inField .test
    let valueText ← value.write inField .test
    let rest ← writeGenerators inField generators
    return "\x7b" ++ keyText ++ ": " ++ valueText ++ rest ++ "\x7d"
  | .named target value => do
    let targetText ← target.write inField .atom
    let valueText ← value.write inField .atom
    return parenthesizeIf (p > Precedence.naming) (targetText ++ " := " ++ valueText)
  | .await value => do
    return parenthesizeIf (p > Precedence.awaiting) ("await " ++ (← value.write inField .atom))
  | .yield none => .ok (parenthesizeIf (p > Precedence.yielding) "yield")
  | .yield (some value) => do
    return parenthesizeIf (p > Precedence.yielding) ("yield " ++ (← value.write inField .atom))
  | .yieldFrom value => do
    let text ← value.write inField .atom
    return parenthesizeIf (p > Precedence.yielding) ("yield from " ++ text)

/-- The written forms of several expressions in equal surroundings. -/
def writeEach (inField : Bool) (p : Precedence) : List Expr → Except WriteError (List String)
  | [] => .ok []
  | e :: rest => do
    let text ← e.write inField p
    return text :: (← writeEach inField p rest)

/-- The written form of an optional expression. -/
def writeOption (inField : Bool) : Option Expr → Except WriteError (Option String)
  | none => .ok none
  | some e => do return some (← e.write inField .test)

/-- The operands of a short-circuit operator, each for its own surroundings. -/
def writeOperands (inField : Bool) (ps : List Precedence) :
    List Expr → Except WriteError (List String)
  | [] => .ok []
  | e :: rest => do
    let text ← e.write inField (ps.headD .atom)
    return text :: (← writeOperands inField ps.tail rest)

def writeEntries (inField : Bool) : List (Entry Expr) → Except WriteError (List String)
  | [] => .ok []
  | ⟨none, value⟩ :: rest => do
    let text ← value.write inField .bitOr
    return ("**" ++ text) :: (← writeEntries inField rest)
  | ⟨some key, value⟩ :: rest => do
    let keyText ← key.write inField .test
    let valueText ← value.write inField .test
    return (keyText ++ ": " ++ valueText) :: (← writeEntries inField rest)

/-- The operators and right-hand sides of a chain of comparisons. -/
def writeComparisons (inField : Bool) : List (CompareOp × Expr) → Except WriteError String
  | [] => .ok ""
  | (op, right) :: rest => do
    let text ← right.write inField (Precedence.next .compare)
    return " " ++ op.symbol ++ " " ++ text ++ (← writeComparisons inField rest)

def writeKeywords (inField : Bool) : List (Keyword Expr) → Except WriteError (List String)
  | [] => .ok []
  | ⟨name, value⟩ :: rest => do
    let text ← value.write inField .test
    let head := match name with
      | some id => id ++ "="
      | none => "**"
    return (head ++ text) :: (← writeKeywords inField rest)

def writeGenerators (inField : Bool) : List (Generator Expr) → Except WriteError String
  | [] => .ok ""
  | ⟨isAsync, target, source, conditions⟩ :: rest => do
    let targetText ← target.write inField .tuple
    let sourceText ← source.write inField (Precedence.next .test)
    let tests ← writeEach inField (Precedence.next .test) conditions
    let head := (if isAsync then " async for " else " for ") ++ targetText ++ " in " ++ sourceText
    return head ++ String.join (tests.map (" if " ++ ·)) ++ (← writeGenerators inField rest)

def writeParams (inField : Bool) : Params Expr → Except WriteError (List String)
  | ⟨positional, regular, rest, keywordOnly, keywordRest⟩ => do
    let positionalTexts ← writeParamList inField positional
    let regularTexts ← writeParamList inField regular
    let restText ← writeParamOption inField rest
    let keywordOnlyTexts ← writeParamList inField keywordOnly
    let keywordRestText ← writeParamOption inField keywordRest
    return paramTexts positionalTexts regularTexts restText keywordOnlyTexts keywordRestText

/-- The texts of several parameters. -/
def writeParamList (inField : Bool) : List (Param Expr) → Except WriteError (List String)
  | [] => .ok []
  | ⟨name, type, default⟩ :: rest => do
    let typeText ← writeOption inField type
    let defaultText ← writeOption inField default
    let text := name ++ (typeText.map (": " ++ ·)).getD "" ++ (defaultText.map ("=" ++ ·)).getD ""
    return text :: (← writeParamList inField rest)

/-- The text of an optional parameter. -/
def writeParamOption (inField : Bool) : Option (Param Expr) → Except WriteError (Option String)
  | none => .ok none
  | some ⟨name, type, _⟩ => do
    let typeText ← writeOption inField type
    return some (name ++ (typeText.map (": " ++ ·)).getD "")

/-- The parts of a formatted string before escaping, each with whether it is literal. -/
def writeFormatParts : List FormatPart → Except WriteError (List (Bool × List CodePoint))
  | [] => .ok []
  | .text value :: rest => do return (true, doubleBraces value) :: (← writeFormatParts rest)
  | .field value conversion none :: rest => do
    let text ← value.write true (Precedence.next .test)
    let letter := (conversion.map fun c => "!" ++ c.letter).getD ""
    let head ← fieldText text letter
    return (false, head ++ codePoints "\x7d") :: (← writeFormatParts rest)
  | .field value conversion (some format) :: rest => do
    let text ← value.write true (Precedence.next .test)
    let letter := (conversion.map fun c => "!" ++ c.letter).getD ""
    let head ← fieldText text (letter ++ ":")
    let inner ← writeFormatParts format
    let whole := head ++ inner.flatMap (·.2) ++ codePoints "\x7d"
    return (false, whole) :: (← writeFormatParts rest)

end

end RobotKit.Script
