import RobotKit.Console.Wrap

/-!
# Panels

A panel shows a text in a frame that has a title and takes the whole width of the console.
-/

namespace RobotKit.Console

/-- A text filled up with blanks to a width. -/
def fill (width : Nat) (line : List Char) : List Char :=
  line ++ List.replicate (width - Text.cells line) ' '

/-- A run of the line of the frame. -/
def rule (count : Nat) : String := String.ofList (List.replicate count '─')

/-- The lines of a panel around a text. -/
def panel (title text : String) : List String :=
  let inner := consoleWidth - 4
  let heading := " " ++ title ++ " "
  let free := consoleWidth - 2 - heading.length
  ["╭" ++ rule (free / 2) ++ heading ++ rule (free - free / 2) ++ "╮"] ++
    (wrap inner text.toList).map (fun line => "│ " ++ String.ofList (fill inner line) ++ " │") ++
    ["╰" ++ rule (consoleWidth - 2) ++ "╯"]

end RobotKit.Console
