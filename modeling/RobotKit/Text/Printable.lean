import RobotKit.Text.Ranges
import RobotKit.Text.UnicodeTable

/-!
# Printable characters

A character is printable if it has a glyph or is the plain space. Quoted texts write all other
characters as escapes.
-/

namespace RobotKit.Text

/-- Ranges of the code points beyond ASCII that have no glyph. -/
def hiddenRanges : Ranges := Ranges.ofText UnicodeTable.hiddenText

/-- Does the code point have a printed form of its own? -/
def isPrintable (code : Nat) : Bool :=
  if code < 128 then 32 ≤ code && code < 127 else !hiddenRanges.contains code

end RobotKit.Text
