import RobotKit.Device.Printing

/-!
# The test bench

On a test bench parts are made and tried one step after the other. Steps refer to parts by the
variables that keep them, and to the library by its names. A step that fails keeps nothing.
-/

namespace RobotKit.Device

/-- A value as a step writes it. -/
inductive Term where
  | value (value : Value)
  /-- What is at a dotted path. -/
  | path (path : String)
  | list (items : List Term)
  | tuple (items : List Term)
  | record (entries : List (String × Term))

inductive Step where
  /-- Calls what is at a path and keeps the result in a variable. -/
  | call (path : String) (arguments : List Term) (named : List (String × Term))
      (target : Option String)
  /-- Makes a motor whose calls are logged, and tells its operations what to answer. -/
  | motor (target : String) (arguments : List Term) (answers : List (String × List Term))
  | get (path : String)
  | set (path : String) (value : Term)
  | state (path : String)
  | text (path : String)
  | same (a b : Term)

inductive Answer where
  | value (value : Value)
  | state (attributes : Table Value)
  | text (plain exact : String)

structure Bench where
  edition : Edition
  names : Table Value
  world : World

def Bench.fresh (edition : Edition) : Bench := ⟨edition, {}, .empty⟩

/-- How often a step may pause. -/
def pauseLimit : Nat := 2000

namespace Bench

/-! ## Paths -/

/-- The attribute of an attribute and so on. -/
def follow (value : Value) : List String → Act Value
  | [] => pure value
  | name :: rest => do follow (← look value name) rest

/-- What the names of a path lead to: the first is a variable or a name of the library. -/
def resolveNames (bench : Bench) : List String → Act Value
  | [] => throw .attribute
  | name :: rest => do
    let value ← orMissing (bench.names.get? name <|> libraryName? bench.edition name)
    follow value rest

/-- What is at a dotted path. -/
def resolve (bench : Bench) (path : String) : Act Value :=
  bench.resolveNames (path.splitOn ".")

mutual

def term (bench : Bench) : Term → Act Value
  | .value value => pure value
  | .path path => bench.resolve path
  | .list items => do return .list (← bench.terms items)
  | .tuple items => do return .tuple (← bench.terms items)
  | .record entries => do return .record (← bench.termEntries entries)

def terms (bench : Bench) : List Term → Act (List Value)
  | [] => pure []
  | item :: rest => do return (← bench.term item) :: (← bench.terms rest)

def termEntries (bench : Bench) : List (String × Term) → Act (List (String × Value))
  | [] => pure []
  | (name, item) :: rest => do
    return (name, ← bench.term item) :: (← bench.termEntries rest)

end

/-! ## Steps -/

def ownAttributes : Value → Act (Table Value)
  | .part id => do return (← part id).attributes
  | .constant name =>
    match constant? name with
    | some constant => pure constant.attributes
    | none => throw .attribute
  | .callback | .routine .. | .defined .. => pure {}
  | _ => throw .kind

/-- Tells the operations of a part what to answer. -/
def tellAnswers (bench : Bench) (p : Part) : List (String × List Term) → Act Unit
  | [] => pure ()
  | (operation, answers) :: rest => do
    let values ← bench.terms answers
    modify fun world => { world with
      answers := world.answers.insert (p.label ++ "." ++ operation) values }
    bench.tellAnswers p rest

/-- What a step does: its answer, and the variable that it sets. -/
def perform (bench : Bench) : Step → Act (Answer × Option (String × Value))
  | .call path arguments named target => do
    let value ← bench.resolve path
    let arguments ← bench.terms arguments
    let named ← bench.termEntries named
    let result ← call bench.edition depthLimit value arguments named
    return (.value result, target.map (·, result))
  | .motor target arguments answers => do
    let arguments ← bench.terms arguments
    let motor ← call bench.edition depthLimit (.kind "Motor") arguments []
    if let .part id := motor then
      changePart id fun p => { p with watchedAs := some target }
      bench.tellAnswers (← part id) answers
    return (.value motor, some (target, motor))
  | .get path => do return (.value (← bench.resolve path), none)
  | .set path value => do
    let names := path.splitOn "."
    let holder ← bench.resolveNames names.dropLast
    setAttribute holder (names.getLast?.getD "") (← bench.term value)
    return (.value .nothing, none)
  | .state path => do return (.state (← ownAttributes (← bench.resolve path)), none)
  | .text path => do
    let value ← bench.resolve path
    return (.text (← plainText value) (← exactText value), none)
  | .same a b => do return (.value (.flag ((← bench.term a).equal (← bench.term b))), none)

/-- Performs a step, with an empty log. -/
def step (bench : Bench) (s : Step) : Except Fault Answer × Bench :=
  let ready := { bench.world with log := #[], pausesLeft := some pauseLimit }
  match (bench.perform s).run.run ready with
  | (.ok (answer, none), world) => (.ok answer, { bench with world })
  | (.ok (answer, some (name, value)), world) =>
    (.ok answer, { bench with world, names := bench.names.insert name value })
  | (.error fault, world) => (.error fault, { bench with world })

/-- The first variable that keeps a value. -/
def nameOf? (bench : Bench) (value : Value) : Option String :=
  (bench.names.entries.find? fun entry => entry.2.equal value).map (·.1)

end Bench

end RobotKit.Device
