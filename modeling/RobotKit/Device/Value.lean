import RobotKit.Decimal.Binary64

/-!
# Values of robot programs

A robot program works with plain values, with parts of the robot, with the constants and kinds of
the device library, and with functions.
-/

namespace RobotKit.Device

open RobotKit.Decimal

inductive Value where
  | nothing
  | flag (value : Bool)
  | integer (value : Int)
  | decimal (value : Binary64)
  | text (value : String)
  | bytes (value : List UInt8)
  | list (items : List Value)
  | tuple (items : List Value)
  | record (entries : List (String × Value))
  /-- A constant of the device library, by its name there. -/
  | constant (name : String)
  /-- A part of the robot. -/
  | part (id : Nat)
  /-- A function that does nothing. -/
  | callback
  /-- A kind of part, by its name in the device library. -/
  | kind (name : String)
  /-- A function of the device library, that of a kind if it has an owner, and the part that it
  belongs to if it was found there. -/
  | routine (owner name : String) (receiver : Option Nat)
  /-- A function that the program defines. -/
  | defined (index : Nat) (name : String)

instance : Inhabited Value := ⟨.nothing⟩

/-- Why a step of a robot program fails. -/
inductive Fault where
  /-- A value is of the wrong kind, or the arguments do not fit. -/
  | kind
  /-- There is no such part or operation. -/
  | attribute
  /-- A list has too few items. -/
  | index
  /-- A number is too large. -/
  | overflow
  /-- A drive train needs two motors or motor groups. -/
  | needsMotors
  /-- A drive train that knows its heading needs a sensor for it. -/
  | needsSensor
  /-- The program paused too often. -/
  | pausedOut
  /-- There is no entry of this name. -/
  | missing
  /-- A name has no value. -/
  | unboundName
  /-- A local name has no value yet. -/
  | unboundLocal
  /-- Calls are nested too deeply. -/
  | tooDeep
  /-- The program would never end. -/
  | endless
  /-- The program uses a construct that robot programs do not have. -/
  | unsupported
deriving DecidableEq

/-- A number: an integer, or a decimal. -/
inductive Number where
  | integer (value : Int)
  | decimal (value : Binary64)

/-- The number that a value is; flags count as zero and one. -/
def Value.number? : Value → Option Number
  | .flag value => some (.integer (if value then 1 else 0))
  | .integer value => some (.integer value)
  | .decimal value => some (.decimal value)
  | _ => none

def Value.integer? : Value → Option Int
  | .flag value => some (if value then 1 else 0)
  | .integer value => some value
  | _ => none

def Value.isTrue : Value → Bool
  | .nothing => false
  | .flag value => value
  | .integer value => value ≠ 0
  | .decimal value => !(value.bits &&& 0x7FFFFFFFFFFFFFFF = 0)
  | .text value => value ≠ ""
  | .bytes value => !value.isEmpty
  | .list items => !items.isEmpty
  | .tuple items => !items.isEmpty
  | .record entries => !entries.isEmpty
  | _ => true

end RobotKit.Device
