import RobotKit.Device.World

/-!
# Operations and kinds

An operation has parameters and a body. A kind of part has operations, constants and, if it is not
made without further ado, an operation that starts a new part. Bodies see the library only through
the two ways in which they use it: to look up an attribute and to call a value.
-/

namespace RobotKit.Device

/-- The library as the bodies of its operations use it. -/
structure Library where
  /-- The attribute of a value. -/
  look : Value → String → Act Value
  /-- Calls a value with arguments. -/
  call : Value → List Value → Act Value

def Library.invoke (library : Library) (receiver : Value) (operation : String)
    (arguments : List Value) : Act Value := do
  library.call (← library.look receiver operation) arguments

/-! ## Parameters -/

inductive Parameter where
  | need (name : String)
  | may (name : String) (default : Value)
  /-- Any number of further arguments. -/
  | others
  /-- Any further named arguments. -/
  | otherNames

/-- Arguments as an operation gets them. -/
structure Arguments where
  byName : List (String × Value)
  others : List Value

def Arguments.get (arguments : Arguments) (name : String) : Value :=
  (arguments.byName.lookup name).getD .nothing

/-- The argument for one parameter, and the arguments that are left: the next one by its place,
or the one with the name of the parameter, but not both, or else the default. -/
def choose (name : String) (default : Option Value) (arguments : List Value)
    (named : List (String × Value)) : Except Fault (Value × List Value) :=
  match arguments, named.lookup name, default with
  | argument :: rest, none, _ => .ok (argument, rest)
  | _ :: _, some _, _ => .error .kind
  | [], some argument, _ => .ok (argument, [])
  | [], none, some value => .ok (value, [])
  | [], none, none => .error .kind

/-- Gives the arguments to the parameters. Arguments that are left over need a parameter that
takes them. -/
def bind : List Parameter → List Value → List (String × Value) → Except Fault Arguments
  | [], arguments, named =>
    if arguments.isEmpty && named.isEmpty then .ok ⟨[], []⟩ else .error .kind
  | .others :: rest, arguments, named => do
    return { ← bind rest [] named with others := arguments }
  | .otherNames :: rest, arguments, _ => bind rest arguments []
  | .need name :: rest, arguments, named => do
    let (value, arguments) ← choose name none arguments named
    let bound ← bind rest arguments (named.filter (·.1 ≠ name))
    return { bound with byName := (name, value) :: bound.byName }
  | .may name default :: rest, arguments, named => do
    let (value, arguments) ← choose name (some default) arguments named
    let bound ← bind rest arguments (named.filter (·.1 ≠ name))
    return { bound with byName := (name, value) :: bound.byName }

/-- A unit: a constant of the library. -/
abbrev unit (name : String) : Value := .constant name

def inUnits (default : String) : Parameter := .may "units" (unit default)

/-! ## Bodies -/

abbrev Body := Library → Arguments → Act Value

def gives (value : Value) : Body := fun _ _ => pure value

def pass : Body := gives .nothing

/-- Gives an attribute of the part. -/
def gets (name : String) : Body := fun library arguments =>
  library.look (arguments.get "self") name

/-- Where the value of an attribute comes from. -/
inductive Source where
  | given (parameter : String)
  | fixed (value : Value)
  | made (kind : String) (arguments : List Source)

mutual

def Source.value (library : Library) (arguments : Arguments) : Source → Act Value
  | .given parameter => pure (arguments.get parameter)
  | .fixed value => pure value
  | .made kind sources => do library.call (.kind kind) (← sourceValues library arguments sources)

def sourceValues (library : Library) (arguments : Arguments) :
    List Source → Act (List Value)
  | [] => pure []
  | source :: rest => do
    return (← source.value library arguments) :: (← sourceValues library arguments rest)

end

/-- Sets attributes of the part. -/
def keep (fields : List (String × Source)) : Body := fun library arguments => do
  for (name, source) in fields do
    setAttribute (arguments.get "self") name (← source.value library arguments)
  return .nothing

def makes (kind : String) (sources : List Source) : Body := fun library arguments =>
  (Source.made kind sources).value library arguments

/-! ## Operations -/

structure Operation where
  name : String
  parameters : List Parameter
  body : Body
  /-- Does it belong to the kind alone, so that it does not get the part? -/
  isShared : Bool

/-- An operation of a part, which gets the part as its first argument. -/
def method (name : String) (parameters : List Parameter) (body : Body) : Operation :=
  ⟨name, .need "self" :: parameters, body, false⟩

/-- An operation that can be called without a part too. -/
def loose (name : String) (body : Body) : Operation :=
  ⟨name, [.may "self" .nothing], body, false⟩

/-- A function without a part. -/
def function (name : String) (parameters : List Parameter) (body : Body) : Operation :=
  ⟨name, parameters, body, true⟩

/-- An operation that registers a function for an event. -/
def handler (name : String) : Operation :=
  method name [.need "callback", .may "arg" (.tuple [])]
    (makes "Event" [.given "callback", .given "arg"])

/-- The operation that starts a new part. -/
def starting (parameters : List Parameter) (body : Body) : Operation :=
  method "__init__" parameters body

/-- Starts a part that remembers the port at which it is. -/
def atPort : Operation := starting [.need "port"] (keep [("_index", .given "port")])

def zero (name : String) : Operation := method name [] (gives (.integer 0))

def yes (name : String) : Operation := method name [] (gives (.flag true))

def no (name : String) : Operation := method name [] (gives (.flag false))

def silent (name : String) : Operation := method name [] pass

def takes (name : String) : Operation := method name [.need "value"] pass

def adjusts (name units : String) : Operation := method name [.need "value", inUnits units] pass

/-- Gives a number in place of a measurement. -/
def measures (name units : String) (number : Int) : Operation :=
  method name [inUnits units] (gives (.integer number))

/-! ## Kinds -/

structure Kind where
  name : String
  /-- The kind whose operations it has too. -/
  base : Option String := none
  start : Option Operation := none
  constants : List (String × Value) := []
  operations : List Operation := []

/-- A kind of device at a port for three wires. -/
def wired (name : String) (operations : List Operation) : Kind :=
  { name, start := atPort, operations := zero "value" :: zero "type" :: operations }

end RobotKit.Device
