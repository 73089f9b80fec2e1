import RobotKit.Script.Formatted
import RobotKit.Script.Reading.Basic

/-!
# The grammar of expressions

The rules follow the precedence of the operators, from the conditional expression down to atoms.
A rule that needs a whole expression inside brackets or after an operator asks `Rules` for it.
-/

namespace RobotKit.Script

open Reader RobotKit.Text

/-- The levels of the grammar that other rules refer to. -/
inductive Level where
  | expression | disjunction | inversion | bitOr | factor | primary

abbrev Rules := Level → Reader Expr

/-! ## Targets -/

mutual

/-- May the expression be assigned to? -/
def Expr.isTarget : Expr → Bool
  | .name _ | .attribute _ _ | .subscript _ _ => true
  | .tuple items | .list items => areTargets items
  | _ => false

/-- May each of the expressions, possibly starred, be assigned to? -/
def areTargets : List Expr → Bool
  | [] => true
  | .starred e :: rest => e.isTarget && areTargets rest
  | e :: rest => e.isTarget && areTargets rest

end

/-- May the expression stand on the left of an assignment, where one star is allowed? -/
def Expr.isStarTarget : Expr → Bool
  | .starred e => e.isTarget
  | e => e.isTarget

/-- May the expression be the single target of an annotation or an update? -/
def Expr.isSingleTarget : Expr → Bool
  | .name _ | .attribute _ _ | .subscript _ _ => true
  | _ => false

mutual

/-- May the expression be deleted? -/
def Expr.isDeletable : Expr → Bool
  | .name _ | .attribute _ _ | .subscript _ _ => true
  | .tuple items | .list items => areDeletable items
  | _ => false

/-- May each of the expressions be deleted? -/
def areDeletable : List Expr → Bool
  | [] => true
  | e :: rest => e.isDeletable && areDeletable rest

end

/-- One target: a primary expression that may be assigned to, or a starred one. -/
def starTarget (self : Rules) : Reader Expr := do
  let starred ← acceptOp "*"
  let target ← self .primary
  if !target.isTarget then failure
  else if starred then return .starred target
  else return target

/-- Items with commas between them: one item alone, or a tuple. -/
def tupleOf (item : Reader Expr) : Reader Expr := do
  let items ← commaSeparated item
  let comma ← acceptOp ","
  match items with
  | [single] => return if comma then .tuple items else single
  | _ => return .tuple items

def starTargets (self : Rules) : Reader Expr := tupleOf (starTarget self)

/-! ## Expressions with stars, names and yields -/

/-- Does an assignment expression come next? -/
def isWalrus : Reader Bool := do
  match ← peek, ← peekSecond with
  | some (.name _), some (.op ":=") => return true
  | _, _ => return false

/-- An expression, possibly with a name for it. -/
def namedExpression (self : Rules) : Reader Expr := do
  if ← isWalrus then
    let target ← name
    expectOp ":="
    return .named (.name target) (← self .expression)
  else
    let value ← self .expression
    if ← isOp ":=" then failure else return value

/-- An expression, possibly named or starred. -/
def starNamed (self : Rules) : Reader Expr := do
  if ← acceptOp "*" then return .starred (← self .bitOr) else namedExpression self

/-- An expression, possibly starred. -/
def starExpression (self : Rules) : Reader Expr := do
  if ← acceptOp "*" then return .starred (← self .bitOr) else self .expression

/-- One or more expressions, possibly starred. -/
def starExpressions (self : Rules) : Reader Expr := tupleOf (starExpression self)

def yieldExpression (self : Rules) : Reader Expr := do
  expectKeyword "yield"
  if ← acceptKeyword "from" then return .yieldFrom (← self .expression)
  else return .yield (← attempt (starExpressions self))

/-- The right-hand side of an assignment. -/
def assignedValue (self : Rules) : Reader Expr := do
  if ← isKeyword "yield" then yieldExpression self else starExpressions self

/-! ## Comprehensions -/

/-- Does a comprehension clause come next? -/
def isClause : Reader Bool := do
  match ← peek with
  | some (.keyword "for") | some (.keyword "async") => return true
  | _ => return false

def clause (self : Rules) : Reader (Generator Expr) := do
  let isAsync ← acceptKeyword "async"
  expectKeyword "for"
  let target ← starTargets self
  expectKeyword "in"
  let source ← self .disjunction
  let conditions ← many do expectKeyword "if"; self .disjunction
  return { isAsync, target, source, conditions }

def clauses (self : Rules) : Reader (List (Generator Expr)) := many1 (clause self)

def Expr.isStarred : Expr → Bool
  | .starred _ => true
  | _ => false

/-- The rest of a list or set after its opening bracket: a display or a comprehension. -/
def collection (self : Rules) (kind : Collection) (build : List Expr → Expr) (close : String)
    (first : Expr) : Reader Expr := do
  if ← isClause then
    if first.isStarred then failure
    let generators ← clauses self
    expectOp close
    return .comprehension kind first generators
  else if ← acceptOp "," then
    return build (first :: (← commaClosed (starNamed self) close))
  else
    expectOp close
    return build [first]

/-! ## Brackets -/

/-- What follows an opening parenthesis: a tuple, a generator or one expression. -/
def parenthesized (self : Rules) : Reader Expr := do
  if ← acceptOp ")" then return .tuple []
  else if ← isKeyword "yield" then
    let value ← yieldExpression self
    expectOp ")"
    return value
  else
    let first ← starNamed self
    if ← acceptOp ")" then
      if first.isStarred then failure else return first
    else collection self .generator .tuple ")" first

/-- What follows an opening square bracket. -/
def bracketed (self : Rules) : Reader Expr := do
  if ← acceptOp "]" then return .list []
  else collection self .list .list "]" (← starNamed self)

/-- One entry of a dictionary display. -/
def dictEntry (self : Rules) : Reader (Entry Expr) := do
  if ← acceptOp "**" then return ⟨none, ← self .bitOr⟩
  else
    let key ← self .expression
    expectOp ":"
    return ⟨some key, ← self .expression⟩

/-- The rest of a dictionary display after its first entry. -/
def dictRest (self : Rules) (first : Entry Expr) : Reader Expr := do
  if ← acceptOp "," then
    return .dict (first :: (← commaClosed (dictEntry self) "\x7d"))
  else
    expectOp "\x7d"
    return .dict [first]

/-- What follows an opening brace. -/
def braced (self : Rules) : Reader Expr := do
  if ← acceptOp "\x7d" then return .dict []
  else if ← isOp "**" then dictRest self (← dictEntry self)
  else
    let walrus ← isWalrus
    let first ← starNamed self
    if walrus || first.isStarred then collection self .set .set "\x7d" first
    else if ← acceptOp ":" then
      let value ← self .expression
      if ← isClause then
        let generators ← clauses self
        expectOp "\x7d"
        return .dictComprehension first value generators
      else dictRest self ⟨some first, value⟩
    else collection self .set .set "\x7d" first

/-! ## Strings -/

/-- Is the letter among those in front of a string, in either case? -/
def hasLetter (letter : Char) (letters : List Char) : Bool :=
  letters.any fun c => c.toLower = letter

/-- The expression of a field: its text is read between parentheses. -/
def fieldExpression (self : Rules) (source : List Char) : Option Expr := do
  let tokens ← tokenize ('(' :: source ++ [')'])
  let (value, rest) ← (self .expression).run tokens
  if rest = [.newline] then some value else none

mutual

def readPiece (self : Rules) : Piece → Option FormatPart
  | .text value => some (.text value)
  | .field source conversion none => do
    let value ← fieldExpression self source
    some (.field value conversion none)
  | .field source conversion (some format) => do
    let value ← fieldExpression self source
    let format ← readPieces self format
    some (.field value conversion (some (mergeTexts format)))

def readPieces (self : Rules) : List Piece → Option (List FormatPart)
  | [] => some []
  | piece :: rest => do
    let part ← readPiece self piece
    let parts ← readPieces self rest
    some (part :: parts)

/-- Joins neighbouring texts. -/
def mergeTexts : List FormatPart → List FormatPart
  | [] => []
  | .text a :: rest =>
    match mergeTexts rest with
    | .text b :: more => .text (a ++ b) :: more
    | more => if a.isEmpty then more else .text a :: more
  | part :: rest => part :: mergeTexts rest

end

/-- The pieces that one string token contributes to a text. -/
def stringPieces (letters body : List Char) : Option (List Piece) :=
  if hasLetter 'f' letters then Template.split (hasLetter 'r' letters) body
  else (decodeText (hasLetter 'r' letters) body).map fun text => [.text text]

/-- The expression that a run of string tokens stands for. Byte strings and texts do not mix; one
formatted string makes the whole text a formatted one. -/
def joinStrings (self : Rules) (tokens : List (List Char × List Char)) : Option Expr :=
  if tokens.all fun t => hasLetter 'b' t.1 then do
    let parts ← tokens.mapM fun (letters, body) => decodeBytes (hasLetter 'r' letters) body
    some (.literal (.bytes parts.flatten))
  else if tokens.any fun t => hasLetter 'b' t.1 then none
  else do
    let pieces ← tokens.mapM fun (letters, body) => stringPieces letters body
    let parts ← readPieces self pieces.flatten
    if tokens.any fun t => hasLetter 'f' t.1 then some (.formatted (mergeTexts parts))
    else
      let tagged := (tokens.head?.bind fun t => t.1.head?) = some 'u'
      let text := parts.flatMap fun part => match part with
        | .text value => value
        | .field _ _ _ => []
      some (.literal (.text text tagged))

def stringToken : Reader (List Char × List Char) := do
  match ← take with
  | .string letters body => return (letters, body)
  | _ => failure

/-- One or more string tokens side by side. -/
def strings (self : Rules) : Reader Expr := do
  let tokens ← many1 stringToken
  match joinStrings self tokens with
  | some value => return value
  | none => failure

/-! ## Atoms, calls and subscripts -/

def atom (self : Rules) : Reader Expr := do
  match ← peek with
  | some (.string _ _) => strings self
  | _ =>
    match ← take with
    | .name id => return .name id
    | .number value => return .literal value
    | .keyword "None" => return .literal .null
    | .keyword "True" => return .literal (.bool true)
    | .keyword "False" => return .literal (.bool false)
    | .op "..." => return .literal .ellipsis
    | .op "(" => parenthesized self
    | .op "[" => bracketed self
    | .op "\x7b" => braced self
    | _ => failure

inductive Argument where
  | positional (value : Expr)
  | spread (value : Expr)
  | keyword (name : String) (value : Expr)
  | mapping (value : Expr)

def argument (self : Rules) : Reader Argument := do
  match ← peek, ← peekSecond with
  | some (.op "*"), _ => let _ ← take; return .spread (← self .expression)
  | some (.op "**"), _ => let _ ← take; return .mapping (← self .expression)
  | some (.name id), some (.op "=") =>
    let _ ← take
    let _ ← take
    return .keyword id (← self .expression)
  | _, _ =>
    let value ← namedExpression self
    if ← isOp "=" then failure else return .positional value

/-- The last kind of argument seen, which limits what may follow. -/
inductive ArgumentPhase where
  | positions | keywords | mappings

/-- The phase after an argument, if it may stand there: no position follows a keyword, and no
spread list follows a spread mapping. -/
def ArgumentPhase.next : ArgumentPhase → Argument → Option ArgumentPhase
  | .positions, .positional _ | .positions, .spread _ => some .positions
  | .keywords, .spread _ => some .keywords
  | .mappings, .keyword _ _ => some .mappings
  | _, .keyword _ _ => some .keywords
  | _, .mapping _ => some .mappings
  | _, _ => none

/-- Do the arguments come in an allowed order? -/
def orderedArguments : ArgumentPhase → List Argument → Bool
  | _, [] => true
  | phase, a :: rest =>
    match phase.next a with
    | some phase => orderedArguments phase rest
    | none => false

/-- The values by position and by keyword of a list of arguments. -/
def splitArguments : List Argument → List Expr × List (Keyword Expr)
  | [] => ([], [])
  | a :: rest =>
    let (positions, keywords) := splitArguments rest
    match a with
    | .positional value => (value :: positions, keywords)
    | .spread value => (.starred value :: positions, keywords)
    | .keyword name value => (positions, ⟨some name, value⟩ :: keywords)
    | .mapping value => (positions, ⟨none, value⟩ :: keywords)

/-- Arguments up to the closing parenthesis, which is taken too. -/
def arguments (self : Rules) : Reader (List Expr × List (Keyword Expr)) := do
  let args ← commaClosed (argument self) ")"
  if orderedArguments .positions args then return splitArguments args else failure

/-- The arguments of a call after its opening parenthesis. A generator may stand alone without
parentheses of its own. -/
def callArguments (self : Rules) : Reader (List Expr × List (Keyword Expr)) := do
  if ← acceptOp ")" then return ([], [])
  else
    let first ← argument self
    match first, ← isClause with
    | .positional element, true =>
      let generators ← clauses self
      expectOp ")"
      return ([.comprehension .generator element generators], [])
    | _, _ =>
      let rest ← if ← acceptOp "," then commaClosed (argument self) ")"
        else do expectOp ")"; pure []
      let args := first :: rest
      if orderedArguments .positions args then return splitArguments args else failure

/-- One slice or index of a subscript. -/
def sliceItem (self : Rules) : Reader Expr := do
  if ← acceptOp "*" then return .starred (← self .expression)
  else if ← isWalrus then namedExpression self
  else
    let lower ← if ← isOp ":" then pure none else some <$> self .expression
    if ← acceptOp ":" then
      let upper ← attempt (self .expression)
      let step ← if ← acceptOp ":" then attempt (self .expression) else pure none
      return .slice lower upper step
    else match lower with
      | some value => return value
      | none => failure

/-- The subscript after an opening square bracket. -/
def subscripts (self : Rules) : Reader Expr := do
  let items ← commaSeparated (sliceItem self)
  let comma ← acceptOp ","
  expectOp "]"
  match items with
  | [single] => return if comma || single.isStarred then .tuple items else single
  | _ => return .tuple items

/-- Attribute accesses, calls and subscripts after a value. -/
def trailers (self : Rules) : Nat → Expr → Reader Expr
  | 0, value => return value
  | fuel + 1, value => do
    if ← acceptOp "." then trailers self fuel (.attribute value (← name))
    else if ← acceptOp "(" then
      let (positions, keywords) ← callArguments self
      trailers self fuel (.call value positions keywords)
    else if ← acceptOp "[" then trailers self fuel (.subscript value (← subscripts self))
    else return value

/-- An atom with its accesses, calls and subscripts. -/
def primary (self : Rules) : Reader Expr := do
  let value ← atom self
  match ← peek with
  | some (.op ".") | some (.op "(") | some (.op "[") => trailers self (← size) value
  | _ => return value

/-! ## Operators -/

/-- A power; the exponent may carry a sign. -/
def power (self : Rules) : Reader Expr := do
  let awaited ← acceptKeyword "await"
  let base ← primary self
  let base := if awaited then .await base else base
  if ← acceptOp "**" then return .binary base .pow (← self .factor) else return base

/-- A value with signs in front. -/
def factor (self : Rules) : Reader Expr := do
  if ← acceptOp "+" then return .unary .plus (← self .factor)
  else if ← acceptOp "-" then return .unary .minus (← self .factor)
  else if ← acceptOp "~" then return .unary .invert (← self .factor)
  else power self

/-- Takes one of the operators of a table. -/
def operatorOf (table : List (String × BinaryOp)) : Reader BinaryOp := do
  match ← take with
  | .op text =>
    match table.lookup text with
    | some op => return op
    | none => failure
  | _ => failure

/-- Operands joined by operators of one precedence, grouped to the left. -/
def leftGrouped (table : List (String × BinaryOp)) (operand : Reader Expr) : Reader Expr := do
  let first ← operand
  let rest ← many do
    let op ← operatorOf table
    return (op, ← operand)
  return rest.foldl (fun left next => .binary left next.1 next.2) first

def term (self : Rules) : Reader Expr :=
  leftGrouped [("*", .mul), ("/", .div), ("//", .floorDiv), ("%", .mod), ("@", .matMul)] (factor self)

def sum (self : Rules) : Reader Expr := leftGrouped [("+", .add), ("-", .sub)] (term self)

def shift (self : Rules) : Reader Expr :=
  leftGrouped [("<<", .shiftLeft), (">>", .shiftRight)] (sum self)

/-- Bitwise operators, from `&` over `^` to `|`. -/
def bitOr (self : Rules) : Reader Expr :=
  leftGrouped [("|", .bitOr)]
    (leftGrouped [("^", .bitXor)] (leftGrouped [("&", .bitAnd)] (shift self)))

def compareOp : Reader CompareOp := do
  match ← take with
  | .op "==" => return .eq
  | .op "!=" => return .ne
  | .op "<" => return .lt
  | .op "<=" => return .le
  | .op ">" => return .gt
  | .op ">=" => return .ge
  | .keyword "in" => return .member
  | .keyword "is" => return if ← acceptKeyword "not" then .isNot else .is
  | .keyword "not" => expectKeyword "in"; return .notMember
  | _ => failure

def comparison (self : Rules) : Reader Expr := do
  let left ← bitOr self
  let rest ← many do
    let op ← compareOp
    return (op, ← bitOr self)
  return if rest.isEmpty then left else .compare left rest

/-- A comparison, possibly negated. -/
def inversion (self : Rules) : Reader Expr := do
  if ← acceptKeyword "not" then return .unary .not (← self .inversion) else comparison self

/-- Operands joined by a short-circuit operator. -/
def joined (op : BoolOp) (word : String) (operand : Reader Expr) : Reader Expr := do
  let first ← operand
  let rest ← many do expectKeyword word; operand
  return if rest.isEmpty then first else .boolean op (first :: rest)

/-- Conjunctions inside disjunctions. -/
def disjunction (self : Rules) : Reader Expr :=
  joined .or "or" (joined .and "and" (inversion self))

/-! ## Functions and conditional expressions -/

/-- The parameters read so far, with whether one of them had a default, whether a slash has been
seen, and whether what follows is given by keyword only. -/
structure ParamState where
  params : Params Expr
  defaulted : Bool
  slashed : Bool
  starred : Bool

/-- A hint after a colon, looked for only where `typed`. -/
def hintWhere (typed : Bool) (hint : Reader Expr) : Reader (Option Expr) := do
  if !typed then return none
  else if ← acceptOp ":" then return some (← hint)
  else return none

/-- One parameter with an optional default; annotations only where `typed`. -/
def param (self : Rules) (typed : Bool) : Reader (Param Expr) := do
  let id ← name
  let type ← hintWhere typed (self .expression)
  let default ← if ← acceptOp "=" then some <$> self .expression else pure none
  return { name := id, type, default }

/-- The parameter that collects positions or keywords; it has no default. -/
def collector (self : Rules) (typed starAllowed : Bool) : Reader (Param Expr) := do
  let id ← name
  let type ← hintWhere typed (if starAllowed then starExpression self else self .expression)
  if ← isOp "=" then failure
  return { name := id, type, default := none }

/-- Adds the next item of a parameter list; the result says whether it was the last possible. -/
def paramItem (self : Rules) (typed : Bool) (state : ParamState) : Reader (ParamState × Bool) := do
  let params := state.params
  if ← acceptOp "**" then
    let rest ← collector self typed false
    return ({ state with params := { params with keywordRest := some rest } }, true)
  else if ← acceptOp "*" then
    if state.starred then failure
    if ← isOp "," then
      match ← peekSecond with
      | some (.name _) => return ({ state with starred := true }, false)
      | _ => failure
    else
      let rest ← collector self typed true
      return ({ state with starred := true, params := { params with rest := some rest } }, false)
  else if ← acceptOp "/" then
    if state.starred || state.slashed || params.regular.isEmpty then failure
    return ({ state with
      slashed := true
      params := { params with positional := params.regular, regular := [] } }, false)
  else
    let next ← param self typed
    if state.starred then
      return ({ state with
        params := { params with keywordOnly := params.keywordOnly ++ [next] } }, false)
    else if state.defaulted && next.default.isNone then failure
    else
      return ({ state with
        defaulted := next.default.isSome
        params := { params with regular := params.regular ++ [next] } }, false)

/-- The items of a parameter list up to its closing operator, which is taken too. -/
def paramItems (self : Rules) (typed : Bool) (close : String) :
    Nat → ParamState → Reader (Params Expr)
  | 0, _ => failure
  | fuel + 1, state => do
    if ← acceptOp close then return state.params
    else
      let (state, last) ← paramItem self typed state
      if ← acceptOp "," then
        if last then expectOp close; return state.params
        else paramItems self typed close fuel state
      else
        expectOp close
        return state.params

def Params.empty {ε : Type} : Params ε :=
  { positional := [], regular := [], rest := none, keywordOnly := [], keywordRest := none }

/-- A parameter list with its closing operator. -/
def parameters (self : Rules) (typed : Bool) (close : String) : Reader (Params Expr) := do
  paramItems self typed close ((← size) + 1)
    { params := .empty, defaulted := false, slashed := false, starred := false }

/-- A lambda or conditional expression. -/
def expression (self : Rules) : Reader Expr := do
  if ← acceptKeyword "lambda" then
    let params ← parameters self false ":"
    return .lambda params (← self .expression)
  else
    let body ← disjunction self
    if ← acceptKeyword "if" then
      let test ← disjunction self
      expectKeyword "else"
      return .conditional test body (← self .expression)
    else return body

def levelRule (self : Rules) : Level → Reader Expr
  | .expression => expression self
  | .disjunction => disjunction self
  | .inversion => inversion self
  | .bitOr => bitOr self
  | .factor => factor self
  | .primary => primary self

/-- The rules for expressions nested at most `depth` levels. -/
def rules : Nat → Rules
  | 0, _ => failure
  | depth + 1, level => levelRule (rules depth) level

end RobotKit.Script
