import RobotKit.Device.Arithmetic
import RobotKit.Table

/-!
# The world of a robot program

The parts that exist with their attributes, the answers that some operations were told to give,
and a log of what happened. Actions change the world and can fail.
-/

namespace RobotKit.Device

structure Part where
  /-- The name of its kind. -/
  kind : String
  /-- Its number among the parts of this kind. -/
  number : Nat
  attributes : Table Value
  /-- The name under which the calls of its operations are logged, if they are. -/
  watchedAs : Option String

inductive Entry where
  | pause (duration : Value)
  /-- A call of an operation of a part, and its result if it has ended. -/
  | call (part : Nat) (operation : String) (arguments : List Value)
      (named : List (String × Value)) (result : Option Value)

structure World where
  parts : Array Part
  /-- What operations are told to answer, by the label of the part and the operation. -/
  answers : Table (List Value)
  log : Array Entry
  /-- How many pauses are left before the program is stopped; without a number, any number. -/
  pausesLeft : Option Nat

def World.empty : World := { parts := #[], answers := {}, log := #[], pausesLeft := none }

instance : Inhabited World := ⟨World.empty⟩

abbrev Act := ExceptT Fault (StateM World)

/-- The result of a computation that does not touch the world. -/
def lift {α : Type} : Except Fault α → Act α
  | .ok a => pure a
  | .error fault => throw fault

/-! ## The clock -/

/-- Pauses, unless no pause is left. -/
def pause (duration : Value) : Act Unit := do
  let world ← get
  match world.pausesLeft with
  | some 0 => throw .pausedOut
  | some (left + 1) =>
    set { world with log := world.log.push (.pause duration), pausesLeft := some left }
  | none => set { world with log := world.log.push (.pause duration) }

/-! ## Parts -/

def part (id : Nat) : Act Part := do
  match (← get).parts[id]? with
  | some p => return p
  | none => throw .attribute

/-- Adds a part without attributes, numbered after those of its kind. -/
def newPart (kind : String) : Act Nat := do
  let world ← get
  let number := (world.parts.filter fun p => p.kind = kind).size
  set { world with parts := world.parts.push ⟨kind, number, {}, none⟩ }
  return world.parts.size

/-- The name by which a part is known outside. -/
def Part.label (p : Part) : String := p.kind ++ "#" ++ toString p.number

/-- Changes the part with this identity. -/
def changePart (id : Nat) (f : Part → Part) : Act Unit :=
  modify fun world => { world with parts := world.parts.modify id f }

/-- Sets an attribute of a value; only parts have attributes that can be set. -/
def setAttribute (holder : Value) (name : String) (value : Value) : Act Unit :=
  match holder with
  | .part id => changePart id fun p => { p with attributes := p.attributes.insert name value }
  | _ => throw .attribute

def isOfKind (value : Value) (kind : String) : Act Bool := do
  match value with
  | .part id => return (← part id).kind = kind
  | _ => return false

/-! ## Answers and the log -/

/-- Takes the next answer that an operation of a part was told to give. -/
def takeAnswer (p : Part) (operation : String) : Act (Option Value) := do
  let world ← get
  let key := p.label ++ "." ++ operation
  match world.answers.get? key with
  | some (answer :: rest) =>
    set { world with answers := world.answers.insert key rest }
    return some answer
  | _ => return none

/-- Adds an entry to the log and tells its place there. -/
def note (entry : Entry) : Act Nat := do
  let world ← get
  set { world with log := world.log.push entry }
  return world.log.size

/-- Fills in the result of a call in the log. -/
def noteResult (place : Nat) (result : Value) : Act Unit :=
  modify fun world => { world with log := world.log.modify place fun
    | .call id operation arguments named _ => .call id operation arguments named (some result)
    | entry => entry }

end RobotKit.Device
