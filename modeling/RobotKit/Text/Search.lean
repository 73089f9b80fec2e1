/-!
# Searching in texts
-/

namespace RobotKit.Text

/-- Does a text hold `part`? -/
def hasPart (part : List Char) : List Char → Bool
  | [] => part.isEmpty
  | c :: rest => part.isPrefixOf (c :: rest) || hasPart part rest

def holds (part text : String) : Bool := hasPart part.toList text.toList

end RobotKit.Text
