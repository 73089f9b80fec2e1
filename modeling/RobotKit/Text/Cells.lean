import RobotKit.Text.UnicodeTable
import RobotKit.Text.Ranges

/-!
# Terminal cells

The width of a text in a terminal is the sum of the widths of its characters.
-/

namespace RobotKit.Text

/-- Characters without width. -/
def zeroWidth : Ranges := Ranges.ofText UnicodeTable.zeroText

def doubleWidth : Ranges := Ranges.ofText UnicodeTable.doubleText

def cellWidth (c : Char) : Nat :=
  let n := c.toNat
  if 32 ≤ n && n < 127 then 1
  else if zeroWidth.contains n then 0
  else if doubleWidth.contains n then 2
  else 1

def cells (cs : List Char) : Nat := cs.foldl (fun sum c => sum + cellWidth c) 0

end RobotKit.Text
