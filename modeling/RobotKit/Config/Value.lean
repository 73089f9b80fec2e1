import RobotKit.Config.Moment
import RobotKit.Decimal.Shortest
import RobotKit.Script.Writing.Literal

/-!
# Configuration values

The values of a configuration file, and the two texts of a value: the plain one, and the one in
which it is shown inside a list.
-/

namespace RobotKit.Config

open RobotKit.Decimal RobotKit.Text

inductive Value where
  | text (value : String)
  | integer (value : Int)
  | decimal (value : Binary64)
  | flag (value : Bool)
  | moment (value : Moment)
  | list (items : List Value)
  | table (entries : List (String × Value))

instance : Inhabited Value := ⟨.table []⟩

namespace Value

def entries? : Value → Option (List (String × Value))
  | .table entries => some entries
  | _ => none

/-- Does the value count as given? Zeros, `false` and everything empty do not. -/
def isGiven : Value → Bool
  | .text value => value ≠ ""
  | .integer value => value ≠ 0
  | .decimal value => !(value.bits &&& 0x7FFFFFFFFFFFFFFF = 0)
  | .flag value => value
  | .moment _ => true
  | .list items => !items.isEmpty
  | .table entries => !entries.isEmpty

def kind : Value → String
  | .text _ => "str"
  | .integer _ => "int"
  | .decimal _ => "float"
  | .flag _ => "bool"
  | .moment value => value.kind
  | .list _ => "list"
  | .table _ => "dict"

/-- An integer in base ten, which may not be too long. -/
def integerText (n : Int) : Except Script.WriteError String :=
  if Binary64.digitCount n.natAbs > Script.maxDecimalDigits then .error .longInteger
  else .ok (toString n)

mutual

/-- A value as it is shown inside a list. -/
def shown : Value → Except Script.WriteError String
  | .text value => .ok (quoteString value)
  | .integer value => integerText value
  | .decimal value => .ok (plainStyle.write value)
  | .flag value => .ok (if value then "True" else "False")
  | .moment value => .ok value.call
  | .list items => do return "[" ++ ", ".intercalate (← shownItems items) ++ "]"
  | .table entries => do return "\x7b" ++ ", ".intercalate (← shownEntries entries) ++ "\x7d"

def shownItems : List Value → Except Script.WriteError (List String)
  | [] => .ok []
  | value :: rest => do return (← value.shown) :: (← shownItems rest)

def shownEntries : List (String × Value) → Except Script.WriteError (List String)
  | [] => .ok []
  | (name, value) :: rest => do
    return (quoteString name ++ ": " ++ (← value.shown)) :: (← shownEntries rest)

end

def plain : Value → Except Script.WriteError String
  | .text value => .ok value
  | .moment value => .ok value.text
  | value => value.shown

end Value

end RobotKit.Config
