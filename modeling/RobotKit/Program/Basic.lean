import RobotKit.Device.Library
import RobotKit.Script.Syntax

/-!
# The state of a robot program

A robot program runs on the device library. Beside the world of its parts it has global names,
functions of its own, and, while a function runs, local names.
-/

namespace RobotKit.Program

open RobotKit.Device RobotKit.Script

/-- A function that the program defines. -/
structure Function where
  name : String
  parameters : List Parameter
  body : List Stmt
  /-- The names that are local to it. -/
  localNames : List String

/-- The local names of a running function. -/
structure Locals where
  names : List String
  values : Table Value

structure State where
  world : World
  globals : Table Value
  functions : Array Function
  /-- Did the program import the names of the device library? -/
  hasLibrary : Bool
  locals : Option Locals

/-- The state of a program before it runs. -/
def State.fresh (answers : Table (List Value)) : State where
  world := { World.empty with answers }
  globals := {}
  functions := #[]
  hasLibrary := false
  locals := none

abbrev Run := ExceptT Fault (StateM State)

/-- How a statement ends. -/
inductive Flow where
  | next
  | broke
  | continued
  | returned (value : Value)

def onDevice {α : Type} (action : Act α) : Run α := do
  let state ← get
  let (result, world) := action.run.run state.world
  set { state with world }
  match result with
  | .ok value => return value
  | .error fault => throw fault

/-- A computation that does not touch the world. -/
def compute {α : Type} : Except Fault α → Run α
  | .ok value => pure value
  | .error fault => throw fault

/-! ## Names -/

/-- The functions that are there without the library. -/
def plainFunctions : List String := ["abs", "len"]

/-- The name of the owner of functions that are there without the library. -/
def plainOwner : String := "plain"

def State.global? (state : State) (name : String) : Option Value :=
  state.globals.get? name <|>
  (if state.hasLibrary then libraryName? .current name else none)

def readName (name : String) : Run Value := do
  let state ← get
  match state.locals with
  | some scope =>
    if scope.names.contains name then
      match scope.values.get? name with
      | some value => return value
      | none => throw .unboundLocal
    else readGlobal state
  | none => readGlobal state
where
  /-- The value of a name that is not local. -/
  readGlobal (state : State) : Run Value :=
    match state.global? name with
    | some value => return value
    | none =>
      if plainFunctions.contains name then return .routine plainOwner name none
      else throw .unboundName

def writeName (name : String) (value : Value) : Run Unit :=
  modify fun state => match state.locals with
    | some scope =>
      if scope.names.contains name then
        { state with locals := some { scope with values := scope.values.insert name value } }
      else { state with globals := state.globals.insert name value }
    | none => { state with globals := state.globals.insert name value }

def nameOf? : Expr → Option String
  | .name id => some id
  | _ => none

mutual

def setNames : Stmt → List String
  | .assign targets _ => targets.filterMap nameOf?
  | .augmented target _ _ => (nameOf? target).toList
  | .annotated target _ _ _ => (nameOf? target).toList
  | .function _ name _ _ _ _ => [name]
  | .branch _ body orElse => allSetNames body ++ allSetNames orElse
  | .whileLoop _ body orElse => allSetNames body ++ allSetNames orElse
  | _ => []

def allSetNames : List Stmt → List String
  | [] => []
  | stmt :: rest => setNames stmt ++ allSetNames rest

end

/-- The names that statements declare as global. -/
def globalNames (body : List Stmt) : List String :=
  body.flatMap fun
    | .globals names => names
    | _ => []

end RobotKit.Program
