import RobotKit.Command.Grammar
import RobotKit.Console.Panel

/-!
# Usage and help texts

The usage of a command shows its arguments in brief; the help lists them with a description each.
The panel lists all commands.
-/

namespace RobotKit.Command

/-- The width of usage and help texts. -/
def textWidth : Nat := 78

/-- The column at which descriptions start at the latest. -/
def lastColumn : Nat := 24

/-- Upper case for ASCII letters. -/
def upper (text : String) : String := text.map Char.toUpper

/-- An option with the value it takes. -/
def Argument.spelledWithValue (a : Argument) (spelling : String) : String :=
  match a.arity with
  | .switch => spelling
  | .optional => spelling ++ " [" ++ upper a.name ++ "]"
  | _ => spelling ++ " " ++ upper a.name

def Argument.usage (a : Argument) : List String :=
  match a.spellings with
  | [] => [if a.arity = .rest then "..." else a.name]
  | spelling :: _ =>
    let text := a.spelledWithValue spelling
    [if a.isRequired then text else "[" ++ text ++ "]"]

def Grammar.choices (g : Grammar) : String :=
  "\x7b" ++ ",".intercalate (g.commands.map (·.1)) ++ "\x7d"

/-- Fills lines with parts, one blank between two. The parts of the present line are `line`,
latest first, and it takes `used` columns; every further line is indented by `indent`. -/
def fillLines (width indent : Nat) : List String → List String → Nat → List String
  | [], line, _ => if line.isEmpty then [] else [" ".intercalate line.reverse]
  | part :: rest, line, used =>
    let total := used + part.length + if line.isEmpty then 0 else 1
    if total > width && !line.isEmpty then
      " ".intercalate line.reverse :: fillLines width indent rest [part] (indent + part.length)
    else fillLines width indent rest (part :: line) total

def Grammar.usage (g : Grammar) : String :=
  let options := (g.arguments.filter (!·.isPositional)).flatMap Argument.usage
  let positionals := (g.arguments.filter (·.isPositional)).flatMap Argument.usage ++
    if g.commands.isEmpty then [] else [g.choices, "..."]
  let start := "usage: " ++ g.program
  let line := " ".intercalate (start :: options ++ positionals)
  if line.length ≤ textWidth then line ++ "\n"
  else
    let indent := start.length + 1
    let lines := if options.isEmpty then fillLines textWidth indent positionals [start] start.length
      else fillLines textWidth indent options [start] start.length ++
        fillLines textWidth indent positionals [] indent
    let margin := String.ofList (List.replicate indent ' ')
    ("\n" ++ margin).intercalate lines ++ "\n"

/-- A row of a help text: how far it is indented, what it describes, and the description. -/
structure Row where
  indent : Nat
  subject : String
  description : String

def wordsIn (text : String) : List String := (text.splitOn " ").filter (· ≠ "")

def Row.lines (column : Nat) (r : Row) : List String :=
  let subject := String.ofList (List.replicate r.indent ' ') ++ r.subject
  let margin := String.ofList (List.replicate column ' ')
  let parts := fillLines (textWidth - column) 0 (wordsIn r.description) [] 0
  let parts := if parts.isEmpty then [""] else parts
  let start := if subject.length + 2 ≤ column then
      [subject ++ String.ofList (List.replicate (column - subject.length) ' ') ++ parts.headD ""]
    else [subject, margin ++ parts.headD ""]
  start ++ (parts.drop 1).map (margin ++ ·)

/-- A section of a help text. -/
def sectionLines (title : String) (column : Nat) (rows : List Row) : List String :=
  if rows.isEmpty then [] else ["", title ++ ":"] ++ rows.flatMap (Row.lines column)

def Grammar.help (g : Grammar) : String :=
  let options := (g.arguments.filter (!·.isPositional)).map fun a =>
    ⟨2, ", ".intercalate (a.spellings.map a.spelledWithValue), a.help⟩
  let positionals := (g.arguments.filter (·.isPositional)).map (fun a => ⟨2, a.name, a.help⟩) ++
    if g.commands.isEmpty then []
    else ⟨2, g.choices, g.choice.2⟩ :: g.commands.map fun (name, help) => ⟨4, name, help⟩
  let widest := ((positionals ++ options).map fun (r : Row) => r.indent + r.subject.length).foldl max 0
  let column := min (widest + 2) lastColumn
  g.usage ++ String.join ((sectionLines "positional arguments" column positionals ++
    sectionLines "options" column options).map (· ++ "\n"))

/-! ## The panel of all commands -/

/-- A text filled up with blanks on its right. -/
def padRight (width : Nat) (text : String) : String :=
  text ++ String.ofList (List.replicate (width - text.length) ' ')

/-- The options of a command as the panel lists them. -/
def optionsLine (arguments : List Argument) : String :=
  if arguments.isEmpty then ""
  else "\t\tOptions: " ++ " ".intercalate (arguments.map fun a =>
    let spelling := a.spellings.headD a.name
    if a.isRequired && !a.isPositional then spelling ++ " <" ++ a.name ++ "> (required)"
    else spelling) ++ "\n"

/-- The lines for a command. -/
def Entry.panelText (e : Entry) : String :=
  padRight 10 e.name ++ e.help ++ "\n" ++
    if e.commands.isEmpty then optionsLine e.arguments
    else String.join (e.commands.map fun c =>
      "  " ++ padRight 13 c.name ++ c.help ++ "\n" ++ optionsLine c.arguments)

def version : String := "1.2.1"

def helpPanel : String :=
  let text := toolName ++ " " ++ version ++ " - VEX Competition Development Tool\n\nCommands:\n" ++
    String.join (entries.map Entry.panelText)
  String.join ((Console.panel "Help" text).map (· ++ "\n"))

end RobotKit.Command
