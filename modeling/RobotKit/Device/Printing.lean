import RobotKit.Decimal.Shortest
import RobotKit.Device.Library
import RobotKit.Text.Quoted

/-!
# Values as text

A value has a plain text and an exact one. The two differ for texts only, whose exact text is
quoted; inside lists all values stand with their exact text.
-/

namespace RobotKit.Device

open RobotKit.Decimal

mutual

/-- The exact text of a value. A unit is written as its own text. -/
def exactText : Value → Act String
  | .nothing => pure "None"
  | .flag value => pure (if value then "True" else "False")
  | .integer value => pure (toString value)
  | .decimal value => pure (plainStyle.write value)
  | .text value => pure (Text.quoteString value)
  | .bytes value => pure (Text.quoteBytes value)
  | .list items => do return "[" ++ ", ".intercalate (← exactTexts items) ++ "]"
  | .tuple [item] => do return "(" ++ (← exactText item) ++ ",)"
  | .tuple items => do return "(" ++ ", ".intercalate (← exactTexts items) ++ ")"
  | .record entries => do
    return "\x7b" ++ ", ".intercalate (← exactEntries entries) ++ "\x7d"
  | .kind name => pure ("<class 'vex." ++ name ++ "'>")
  | .part id => do
    unless derives (← part id).kind "vexEnum" do throw .unsupported
    match ← look (.part id) "name" with
    | .text name => return name
    | _ => throw .kind
  | .constant name => do
    match ← look (.constant name) "name" with
    | .text label => return label
    | _ => throw .kind
  | _ => throw .unsupported

def exactTexts : List Value → Act (List String)
  | [] => pure []
  | value :: rest => do return (← exactText value) :: (← exactTexts rest)

def exactEntries : List (String × Value) → Act (List String)
  | [] => pure []
  | (name, value) :: rest => do
    return (Text.quoteString name ++ ": " ++ (← exactText value)) :: (← exactEntries rest)

end

def plainText : Value → Act String
  | .text value => pure value
  | value => exactText value

end RobotKit.Device
