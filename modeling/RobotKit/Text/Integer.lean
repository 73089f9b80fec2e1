import RobotKit.Script.Token
import RobotKit.Text.Blank
import RobotKit.Text.Digit

/-!
# Integers as people type them

Blanks around the number, a sign, digits of any script and single underscores between digits are
accepted.
-/

namespace RobotKit.Text

/-- The values of digits with single underscores between them; `afterDigit` tells whether an
underscore may come next. -/
def typedDigits : Bool → List Char → Option (List Nat)
  | afterDigit, [] => if afterDigit then some [] else none
  | afterDigit, c :: rest =>
    if c = '_' then if afterDigit then typedDigits false rest else none
    else match digitValue? c with
      | some value => (typedDigits true rest).map (value :: ·)
      | none => none

/-- The integer that a text spells; it may not have too many digits. -/
def integer? (text : String) : Option Int :=
  let number := trim text.toList
  let isNegative := number.head? = some '-'
  let digits := match number with
    | '+' :: rest => rest
    | '-' :: rest => rest
    | rest => rest
  (typedDigits false digits).bind fun values =>
    if values.length > Script.maxDecimalDigits then none
    else
      let size : Nat := values.foldl (fun n v => n * 10 + v) 0
      some (if isNegative then -(size : Int) else size)

end RobotKit.Text
