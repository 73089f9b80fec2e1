import RobotKit.Program.Basic

/-!
# Running a robot program

Expressions are evaluated and statements carried out from left to right. Robot programs use a small
part of the language; whatever else they hold is refused when it is reached. Every call of an
operation of a part is logged with its arguments before it runs and with its result when it has
ended; so is the making of a part, as a call of the operation that starts it.

A number bounds the depth of the evaluation, with one level for each round of a loop.
-/

namespace RobotKit.Program

open RobotKit.Device RobotKit.Script

/-! ## Operators -/

def literalValue : Literal → Except Fault Value
  | .null => .ok .nothing
  | .bool value => .ok (.flag value)
  | .int value => .ok (.integer value)
  | .float value => .ok (.decimal value)
  | .text codes _ =>
    match Text.stringOf? codes with
    | some s => .ok (.text s)
    | none => .error .unsupported
  | .bytes value => .ok (.bytes value)
  | .ellipsis | .imaginary _ => .error .unsupported

/-- The result of an operator with one operand. -/
def unaryValue (op : UnaryOp) (value : Value) : Except Fault Value :=
  match op with
  | .not => .ok (.flag !value.isTrue)
  | .minus => value.negate
  | .plus | .invert => .error .unsupported

/-- The result of an operator with two operands. -/
def binaryValue (a : Value) (op : BinaryOp) (b : Value) : Except Fault Value :=
  match op with
  | .add => a.add b
  | .sub => a.sub b
  | .mul => a.mul b
  | _ => .error .unsupported

def comparisonHolds (a : Value) (op : CompareOp) (b : Value) : Except Fault Bool :=
  match op with
  | .eq => .ok (a.equal b)
  | .ne => .ok !(a.equal b)
  | .lt => a.less b
  | .le => a.atMost b
  | .gt => a.greater b
  | .ge => a.atLeast b
  | _ => .error .unsupported

/-- The result of a function that is there without the library. -/
def plainResult (name : String) (arguments : List Value) (named : List (String × Value)) :
    Except Fault Value :=
  match name, arguments, named with
  | "abs", [value], [] => value.magnitude
  | "len", [value], [] => do return .integer (← value.size)
  | _, _, _ => .error .kind

/-! ## Calls of the library -/

/-- Runs a call of an operation of a part and logs it. -/
def logged (id : Nat) (operation : String) (arguments : List Value)
    (named : List (String × Value)) (result : Value → Value) (action : Act Value) :
    Act Value := do
  let place ← note (.call id operation arguments named none)
  let value ← action
  noteResult place (result value)
  return value

/-- Calls a value of the library and logs it if it is an operation of a part. -/
def callLibrary (value : Value) (arguments : List Value) (named : List (String × Value)) :
    Act Value := do
  let action := Device.call .current depthLimit value arguments named
  match value with
  | .routine _ name (some id) => logged id name arguments named (fun v => v) action
  | .part id =>
    if (member? (← part id).kind "__call__").isSome then
      logged id "__call__" arguments named (fun v => v) action
    else action
  | .kind kind =>
    if (member? kind "__init__").isSome then
      logged (← get).parts.size "__init__" arguments named (fun _ => .nothing) action
    else action
  | _ => action

/-! ## Evaluation -/

/-- Fixes the parameters of a function: what collects further arguments is not supported. -/
def fixedParameters (params : Params Expr) : Except Fault (List (String × Option Expr)) :=
  if params.rest.isSome || params.keywordRest.isSome || !params.keywordOnly.isEmpty then
    .error .unsupported
  else .ok ((params.positional ++ params.regular).map fun p => (p.name, p.default))

def assignAll (value : Value) : List Expr → Run Unit
  | [] => return ()
  | .name id :: rest => do
    writeName id value
    assignAll value rest
  | _ :: _ => throw .unsupported

def define (name : String) (parameters : List Parameter) (body : List Stmt) : Run Unit := do
  let own := parameters.filterMap fun
    | .need name | .may name _ => some name
    | _ => none
  let shared := globalNames body
  let localNames := (own ++ allSetNames body).filter fun name => !shared.contains name
  let index := (← get).functions.size
  modify fun state => { state with
    functions := state.functions.push ⟨name, parameters, body, localNames⟩ }
  writeName name (.defined index name)

mutual

def evaluate : Nat → Expr → Run Value
  | 0, _ => throw .endless
  | fuel + 1, e => do
    match e with
    | .name id => readName id
    | .literal value => compute (literalValue value)
    | .tuple items => return .tuple (← evaluateAll fuel items)
    | .list items => return .list (← evaluateAll fuel items)
    | .unary op operand => compute (unaryValue op (← evaluate fuel operand))
    | .binary left op right =>
      let a ← evaluate fuel left
      let b ← evaluate fuel right
      compute (binaryValue a op b)
    | .boolean op operands => evaluateUntil fuel op operands
    | .compare left rest => compareAll fuel (← evaluate fuel left) rest
    | .conditional test body orElse =>
      if (← evaluate fuel test).isTrue then evaluate fuel body else evaluate fuel orElse
    | .attribute value field => onDevice (look (← evaluate fuel value) field)
    | .call function arguments keywords =>
      let f ← evaluate fuel function
      let arguments ← evaluateAll fuel arguments
      let named ← evaluateNamed fuel keywords
      callValue fuel f arguments named
    | _ => throw .unsupported

def evaluateAll : Nat → List Expr → Run (List Value)
  | 0, _ => throw .endless
  | _, [] => return []
  | fuel + 1, e :: rest => do
    let value ← evaluate fuel e
    return value :: (← evaluateAll fuel rest)

def evaluateNamed : Nat → List (Keyword Expr) → Run (List (String × Value))
  | 0, _ => throw .endless
  | _, [] => return []
  | fuel + 1, keyword :: rest => do
    match keyword.name with
    | none => throw .unsupported
    | some name =>
      let value ← evaluate fuel keyword.value
      return (name, value) :: (← evaluateNamed fuel rest)

/-- The first operand that settles a short-circuit operator, or else the last one. -/
def evaluateUntil : Nat → BoolOp → List Expr → Run Value
  | 0, _, _ => throw .endless
  | _, _, [] => throw .unsupported
  | fuel + 1, _, [e] => evaluate fuel e
  | fuel + 1, op, e :: rest => do
    let value ← evaluate fuel e
    if value.isTrue = (op = .or) then return value else evaluateUntil fuel op rest

def compareAll : Nat → Value → List (CompareOp × Expr) → Run Value
  | 0, _, _ => throw .endless
  | _, _, [] => return .flag true
  | fuel + 1, a, (op, e) :: rest => do
    let b ← evaluate fuel e
    if ← compute (comparisonHolds a op b) then
      if rest.isEmpty then return .flag true else compareAll fuel b rest
    else return .flag false

def callValue : Nat → Value → List Value → List (String × Value) → Run Value
  | 0, _, _, _ => throw .endless
  | fuel + 1, value, arguments, named => do
    match value with
    | .defined index _ =>
      match (← get).functions[index]? with
      | some function => callFunction fuel function arguments named
      | none => throw .kind
    | .routine owner name none =>
      if owner = plainOwner then compute (plainResult name arguments named)
      else onDevice (callLibrary value arguments named)
    | value => onDevice (callLibrary value arguments named)

def callFunction : Nat → Function → List Value → List (String × Value) → Run Value
  | 0, _, _, _ => throw .endless
  | fuel + 1, function, arguments, named => do
    let bound ← compute (bind function.parameters arguments named)
    let outer := (← get).locals
    modify fun state => { state with
      locals := some ⟨function.localNames, .ofList bound.byName⟩ }
    let flow ← carryOutAll fuel function.body
    modify fun state => { state with locals := outer }
    match flow with
    | .returned value => return value
    | _ => return .nothing

def carryOut : Nat → Stmt → Run Flow
  | 0, _ => throw .endless
  | fuel + 1, stmt => do
    match stmt with
    | .expression value =>
      let _ ← evaluate fuel value
      return .next
    | .assign targets value =>
      assignAll (← evaluate fuel value) targets
      return .next
    | .augmented (.name id) op value =>
      let a ← readName id
      let b ← evaluate fuel value
      writeName id (← compute (binaryValue a op b))
      return .next
    | .returns none => return .returned .nothing
    | .returns (some value) => return .returned (← evaluate fuel value)
    | .pass | .globals _ => return .next
    | .breaks => return .broke
    | .continues => return .continued
    | .importFrom (some "vex") [⟨"*", none⟩] 0 =>
      modify fun state => { state with hasLibrary := true }
      return .next
    | .function false name params body [] _ =>
      let parameters ← evaluateDefaults fuel (← compute (fixedParameters params))
      define name parameters body
      return .next
    | .branch test body orElse =>
      if (← evaluate fuel test).isTrue then carryOutAll fuel body else carryOutAll fuel orElse
    | .whileLoop test body orElse => loop fuel test body orElse
    | _ => throw .unsupported

/-- Carries out statements one after the other. -/
def carryOutAll : Nat → List Stmt → Run Flow
  | 0, _ => throw .endless
  | _, [] => return .next
  | fuel + 1, stmt :: rest => do
    match ← carryOut fuel stmt with
    | .next => carryOutAll fuel rest
    | flow => return flow

def loop : Nat → Expr → List Stmt → List Stmt → Run Flow
  | 0, _, _, _ => throw .endless
  | fuel + 1, test, body, orElse => do
    if (← evaluate fuel test).isTrue then
      match ← carryOutAll fuel body with
      | .next | .continued => loop fuel test body orElse
      | .broke => return .next
      | .returned value => return .returned value
    else carryOutAll fuel orElse

/-- The parameters of a function with the values of their defaults. -/
def evaluateDefaults : Nat → List (String × Option Expr) → Run (List Parameter)
  | 0, _ => throw .endless
  | _, [] => return []
  | fuel + 1, (name, default) :: rest => do
    let parameter ← match default with
      | none => pure (.need name)
      | some e => do pure (.may name (← evaluate fuel e))
    return parameter :: (← evaluateDefaults fuel rest)

end

end RobotKit.Program
