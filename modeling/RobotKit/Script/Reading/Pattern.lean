import RobotKit.Script.Reading.Expression

/-!
# The grammar of match patterns
-/

namespace RobotKit.Script

open Reader

/-- Is the next token the start of an attribute, a call or a keyword? Then the name before it
captures nothing. -/
def continuesName : Reader Bool := do
  match ← peek with
  | some (.op ".") | some (.op "(") | some (.op "=") => return true
  | _ => return false

/-- A name that a pattern binds. -/
def captureTarget : Reader String := do
  let id ← name
  if id = "_" || (← continuesName) then failure else return id

/-- A number, possibly with a minus sign, and its value. -/
def signedNumber : Reader (Expr × Literal) := do
  let negative ← acceptOp "-"
  match ← take with
  | .number value =>
    let expr := Expr.literal value
    return (if negative then .unary .minus expr else expr, value)
  | _ => failure

def Literal.isImaginary : Literal → Bool
  | .imaginary _ => true
  | _ => false

/-- A number in a pattern: a signed one, or the sum or difference of a real and an imaginary
one. -/
def numberExpr : Reader Expr := do
  let (left, value) ← signedNumber
  let op ← if ← acceptOp "+" then pure (some BinaryOp.add)
    else if ← acceptOp "-" then pure (some BinaryOp.sub)
    else pure none
  match op with
  | none => return left
  | some op =>
    match ← take with
    | .number right =>
      if value.isImaginary || !right.isImaginary then failure
      return .binary left op (.literal right)
    | _ => failure

def dottedExpr : Reader Expr := do
  let first ← name
  let rest ← many do expectOp "."; name
  return rest.foldl .attribute (.name first)

/-- The keywords that stand for single values. -/
def singletonLiteral : Token → Option Literal
  | .keyword "None" => some .null
  | .keyword "True" => some (.bool true)
  | .keyword "False" => some (.bool false)
  | _ => none

/-- The key of a mapping pattern: a literal or an attribute. -/
def mappingKey (self : Rules) : Reader Expr := do
  match ← peek with
  | some (.number _) | some (.op "-") => numberExpr
  | some (.string _ _) => strings self
  | some (.name _) =>
    match ← dottedExpr with
    | .name _ => failure
    | key => return key
  | some token =>
    match singletonLiteral token with
    | some value => let _ ← take; return .literal value
    | none => failure
  | none => failure

/-- An item of a mapping pattern: an entry, or the name for the other entries. -/
inductive MappingItem where
  | entry (key : Expr) (pattern : Pattern)
  | rest (name : String)

/-- The entries of a mapping pattern; only the last item may name the rest. -/
def mappingPattern : List MappingItem → Option Pattern
  | [] => some (.mapping [] none)
  | [.rest name] => some (.mapping [] (some name))
  | .rest _ :: _ => none
  | .entry key pattern :: more =>
    match mappingPattern more with
    | some (.mapping entries rest) => some (.mapping ((key, pattern) :: entries) rest)
    | _ => none

inductive ObjectItem where
  | position (pattern : Pattern)
  | field (name : String) (pattern : Pattern)

/-- A class pattern; fields follow positions. -/
def objectPattern (type : Expr) : List ObjectItem → Option Pattern
  | [] => some (.object type [] [])
  | .field name pattern :: more =>
    match objectPattern type more with
    | some (.object _ [] fields) => some (.object type [] ((name, pattern) :: fields))
    | _ => none
  | .position pattern :: more =>
    match objectPattern type more with
    | some (.object _ positions fields) => some (.object type (pattern :: positions) fields)
    | _ => none

/-- A starred pattern or any other. -/
def starPattern (pattern : Reader Pattern) : Reader Pattern := do
  if ← acceptOp "*" then
    if ← accept (.name "_") then return .star none else return .star (some (← captureTarget))
  else pattern

def Pattern.isStar : Pattern → Bool
  | .star _ => true
  | _ => false

/-- The result of an option, or failure. -/
def ofOption {α : Type} : Option α → Reader α
  | some a => return a
  | none => failure

/-- A pattern that is no alternative and binds no name to the whole. -/
def closedPattern (self : Rules) (pattern : Reader Pattern) : Reader Pattern := do
  match ← peek with
  | some (.number _) | some (.op "-") => return .value (← numberExpr)
  | some (.string _ _) => return .value (← strings self)
  | some (.name "_") => let _ ← take; return .wildcard
  | some (.name _) =>
    let value ← dottedExpr
    if ← acceptOp "(" then
      let items ← commaClosed (do
        match ← peek, ← peekSecond with
        | some (.name id), some (.op "=") =>
          let _ ← take
          let _ ← take
          return .field id (← pattern)
        | _, _ => return .position (← pattern)) ")"
      ofOption (objectPattern value items)
    else if ← isOp "=" then failure
    else match value with
      | .name id => return .capture id
      | _ => return .value value
  | some (.op "(") =>
    let _ ← take
    if ← acceptOp ")" then return .sequence []
    else
      let first ← starPattern pattern
      if ← acceptOp "," then
        return .sequence (first :: (← commaClosed (starPattern pattern) ")"))
      else
        expectOp ")"
        if first.isStar then failure else return first
  | some (.op "[") =>
    let _ ← take
    return .sequence (← commaClosed (starPattern pattern) "]")
  | some (.op "\x7b") =>
    let _ ← take
    let items ← commaClosed (do
      if ← acceptOp "**" then return .rest (← captureTarget)
      else
        let key ← mappingKey self
        expectOp ":"
        return .entry key (← pattern)) "\x7d"
    ofOption (mappingPattern items)
  | some token =>
    let value ← ofOption (singletonLiteral token)
    let _ ← take
    return .singleton value
  | none => failure

/-- A pattern: alternatives, possibly with a name for the whole. -/
def patternRule (self : Rules) (pattern : Reader Pattern) : Reader Pattern := do
  let first ← closedPattern self pattern
  let rest ← many do expectOp "|"; closedPattern self pattern
  let whole := if rest.isEmpty then first else .alternatives (first :: rest)
  if ← acceptKeyword "as" then return .binding whole (← captureTarget) else return whole

/-- Patterns nested at most `depth` levels. -/
def pattern (self : Rules) : Nat → Reader Pattern
  | 0 => failure
  | depth + 1 => patternRule self (pattern self depth)

/-- The pattern of a `case` clause, where a sequence needs no brackets. -/
def casePattern (self : Rules) (depth : Nat) : Reader Pattern := do
  let first ← starPattern (pattern self depth)
  if ← acceptOp "," then
    let rest ← attempt (commaSeparated (starPattern (pattern self depth)))
    match rest with
    | some items => let _ ← acceptOp ","; return .sequence (first :: items)
    | none => return .sequence [first]
  else if first.isStar then failure
  else return first

end RobotKit.Script
