import RobotKit.Text.Ranges
import RobotKit.Text.UnicodeTable

/-!
# Identifiers

An identifier begins with a letter or an underscore and goes on with letters, digits, marks and
connectors, as Unicode defines them.
-/

namespace RobotKit.Text

/-- Ranges of the characters beyond ASCII that may begin an identifier. -/
def identifierStarts : Ranges := Ranges.ofText UnicodeTable.startText

/-- Ranges of the characters beyond ASCII that may continue an identifier but not begin one. -/
def identifierContinues : Ranges := Ranges.ofText UnicodeTable.continueText

/-- May the character begin an identifier? -/
def isIdentifierStart (c : Char) : Bool :=
  if c.toNat < 128 then c.isAlpha || c = '_' else identifierStarts.contains c.toNat

/-- May the character continue an identifier? -/
def isIdentifierContinue (c : Char) : Bool :=
  if c.toNat < 128 then c.isAlphanum || c = '_'
  else identifierStarts.contains c.toNat || identifierContinues.contains c.toNat

def isIdentifier : List Char → Bool
  | [] => false
  | c :: rest => isIdentifierStart c && rest.all isIdentifierContinue

end RobotKit.Text
