import RobotKit.Device.Catalogue.Brain
import RobotKit.Device.Catalogue.Control
import RobotKit.Device.Catalogue.Light
import RobotKit.Device.Catalogue.Motion
import RobotKit.Device.Catalogue.Radio
import RobotKit.Device.Catalogue.Sensor

/-!
# The device library

The kinds, constants and functions of the library by their names, the attributes of values, and
what happens when a value is called.
-/

namespace RobotKit.Device

def kinds : List Kind :=
  unitKinds ++ brainKinds ++ controlKinds ++ motionKinds ++ sensorKinds ++ lightKinds ++ radioKinds

def kind? (name : String) : Option Kind := kinds.find? (·.name = name)

def functions (edition : Edition) : List Operation := [
  function "info" [] (gives (.text "VEX V5 Python")),
  sleep,
  wait edition,
  function "on_screen_errors" [.need "value"] pass,
  function "clear_errors" [] pass]

def libraryName? (edition : Edition) (name : String) : Option Value :=
  if (kind? name).isSome && !name.contains '.' then some (.kind name)
  else match shortNames.lookup name with
    | some constant => some (.constant constant)
    | none => ((functions edition).find? (·.name = name)).map fun f => .routine "" f.name none

/-! ## Attributes -/

/-- A kind, and after it the kind whose operations it has too. -/
def lineage (name : String) : List Kind :=
  match kind? name with
  | some kind => kind :: (kind.base.bind kind?).toList
  | none => []

/-- Is the kind, or a kind whose operations it has, the one with the second name? -/
def derives (name ancestor : String) : Bool := (lineage name).any (·.name = ancestor)

/-- What a kind has under a name. -/
inductive Member where
  | constant (value : Value)
  | action (owner : String) (operation : Operation)

def Kind.allOperations (kind : Kind) : List Operation := kind.start.toList ++ kind.operations

/-- What a kind has under a name, or else the kind whose operations it has too. -/
def member? (kind name : String) : Option Member :=
  (lineage kind).findSome? fun kind =>
    match kind.constants.lookup name, kind.allOperations.find? (·.name = name) with
    | some value, _ => some (.constant value)
    | none, some operation => some (.action kind.name operation)
    | none, none => none

/-- What a kind has under a name as the attribute of one of its parts. -/
def Member.ofPart (id : Nat) : Member → Value
  | .constant value => value
  | .action owner operation =>
    .routine owner operation.name (if operation.isShared then none else some id)

/-- What a kind has under a name as the attribute of the kind. -/
def Member.ofKind : Member → Value
  | .constant value => value
  | .action owner operation => .routine owner operation.name none

/-- The value, or a failure because there is no such attribute. -/
def orMissing : Option Value → Act Value
  | some value => pure value
  | none => throw .attribute

/-- The attribute of a value: for a part first its own, then that of its kind. -/
def look (holder : Value) (name : String) : Act Value := do
  match holder with
  | .part id =>
    let p ← part id
    orMissing (p.attributes.get? name <|> (member? p.kind name).map (Member.ofPart id))
  | .constant constant => orMissing ((constant? constant).bind (·.attributes.get? name))
  | .kind kind => orMissing ((member? kind name).map Member.ofKind)
  | _ => throw .attribute

/-! ## Calls -/

/-- The operation of a kind, or the function of the library, with this name. -/
def operation? (edition : Edition) (owner name : String) : Option Operation :=
  if owner = "" then (functions edition).find? (·.name = name)
  else (kind? owner).bind fun kind => kind.allOperations.find? (·.name = name)

def Operation.run (operation : Operation) (library : Library) (arguments : List Value)
    (named : List (String × Value)) : Act Value := do
  operation.body library (← lift (bind operation.parameters arguments named))

/-- Makes a part of a kind. A part that was told how its start ends is not started; only nothing
is a proper end. -/
def construct (library : Library) (kind : String) (arguments : List Value)
    (named : List (String × Value)) : Act Value := do
  let id ← newPart kind
  match ← takeAnswer (← part id) "__init__", member? kind "__init__" with
  | some .nothing, _ => return .part id
  | some _, _ => throw .kind
  | none, some (.action _ operation) =>
    let _ ← operation.run library (.part id :: arguments) named
    return .part id
  | none, _ =>
    unless arguments.isEmpty && named.isEmpty do throw .kind
    return .part id

/-- Runs an operation of a part. The call is logged if the part is watched, and if the operation
was told what to answer, it does nothing but that. -/
def runOfPart (library : Library) (operation : Operation) (id : Nat) (arguments : List Value)
    (named : List (String × Value)) : Act Value := do
  let p ← part id
  if p.watchedAs.isSome && operation.name ≠ "__init__" then
    let _ ← note (.call id operation.name arguments named none)
  match ← takeAnswer p operation.name with
  | some answer => return answer
  | none => operation.run library (.part id :: arguments) named

/-- Calls a value. The number bounds how deeply calls may be nested. -/
def call (edition : Edition) :
    Nat → Value → List Value → List (String × Value) → Act Value
  | 0, _, _, _ => throw .tooDeep
  | depth + 1, value, arguments, named => do
    let library : Library :=
      { look := look, call := fun value arguments => call edition depth value arguments [] }
    match value with
    | .callback => return .nothing
    | .kind kind => construct library kind arguments named
    | .routine owner name receiver =>
      match operation? edition owner name, receiver with
      | some operation, some id => runOfPart library operation id arguments named
      | some operation, none => operation.run library arguments named
      | none, _ => throw .kind
    | .part id =>
      match member? (← part id).kind "__call__" with
      | some (.action _ operation) => runOfPart library operation id arguments named
      | _ => throw .kind
    | _ => throw .kind

/-- How deeply calls may be nested. -/
def depthLimit : Nat := 900

end RobotKit.Device
