/-!
# The commands

What the command line of the tool accepts: commands with their arguments, and commands of
commands. The texts of the help are part of the description.
-/

namespace RobotKit.Command

/-- How many values an argument takes. -/
inductive Arity where
  /-- None: it is there or not. -/
  | switch
  /-- Exactly one. -/
  | one
  /-- One or none. -/
  | optional
  /-- All that follow. -/
  | rest
deriving DecidableEq

inductive Kind where
  | text
  | integer
  /-- A directory or a network address. -/
  | place
deriving DecidableEq

structure Argument where
  /-- How the argument is spelled; a positional argument has no spelling. -/
  spellings : List String
  name : String
  arity : Arity
  kind : Kind
  isRequired : Bool
  help : String

namespace Argument

def option (name : String) (arity : Arity) (kind : Kind) (isRequired : Bool) (help : String) :
    Argument :=
  { spellings := ["--" ++ name], name, arity, kind, isRequired, help }

def positional (name : String) (arity : Arity) (kind : Kind) (help : String) : Argument :=
  { spellings := [], name, arity, kind, isRequired := arity ≠ .rest, help }

def helpOption : Argument :=
  { spellings := ["-h", "--help"], name := "help", arity := .switch, kind := .text,
    isRequired := false, help := "show this help message and exit" }

def isPositional (a : Argument) : Bool := a.spellings.isEmpty

/-- The name by which messages call an argument. -/
def label (a : Argument) : String :=
  if a.isPositional then a.name else "/".intercalate a.spellings

end Argument

/-- A command without commands of its own. -/
structure Leaf where
  name : String
  help : String
  arguments : List Argument

structure Entry extends Leaf where
  commands : List Leaf

/-- A command that only takes arguments. -/
def plain (name help : String) (arguments : List Argument) : Entry :=
  { name, help, arguments, commands := [] }

/-- The switch that makes a command tell more. -/
def verboseSwitch : Argument := .option "verbose" .switch .text false "Enable verbose output"

def entries : List Entry := [
  plain "create" "Create new directory and initialize project" [
    .option "name" .one .text true "Project name (required)",
    .option "slot" .one .integer false "Project slot number",
    .option "template" .one .text false "Template name",
    .option "package" .optional .text false
      "Create as a package (optionally specify package name)"],
  plain "add" "Add a previously registered package to a project" [
    .positional "package" .one .text "Package name in name:version format (required)"],
  plain "mu" "Build and upload project to VEX V5 brain" [verboseSwitch],
  plain "mut" "Build, upload project to VEX V5 brain, then open terminal" [],
  plain "build" "Build project to out directory" [verboseSwitch],
  plain "upload" "Upload project to VEX V5 brain" [
    .positional "path" .one .text "Path to file to upload"],
  plain "vexcom" "Run vexcom with specified arguments (auto-installs if needed)" [
    .positional "args" .rest .text
      "Arguments to pass to vexcom (accepts anything after 'vexcom')"],
  plain "debug" "debug DishPy CLI internals" [],
  { name := "package"
    help := "Package management commands"
    arguments := []
    commands := [
      { name := "list"
        help := "List all available packages that have been registered with DishPy"
        arguments := [] },
      { name := "register"
        help := "Register a package with DishPy"
        arguments := [.positional "package_path" .one .place
          "Path to package directory. Can also be a git repo or link to azip file"] }] },
  plain "terminal" "open terminal for the V5 brain" []]

/-- What stands at one level of the command line: arguments, or a choice among commands. -/
structure Grammar where
  program : String
  arguments : List Argument
  /-- The name and the help of the choice. -/
  choice : String × String
  /-- The names and the helps of the commands to choose from. -/
  commands : List (String × String)

def toolName : String := "dishpy"

def namesOf (leaves : List Leaf) : List (String × String) := leaves.map fun c => (c.name, c.help)

/-- The grammar at the start of the command line. -/
def topGrammar : Grammar :=
  { program := toolName, arguments := [], choice := ("command", "Available commands"),
    commands := namesOf (entries.map (·.toLeaf)) }

def Leaf.grammar (program : String) (c : Leaf) (commands : List Leaf) : Grammar :=
  { program := program ++ " " ++ c.name
    arguments := .helpOption :: c.arguments
    choice := ("subcommand", "Available subcommands")
    commands := namesOf commands }

/-- The grammar after some commands. -/
def grammarAfter : List String → Grammar
  | [] => topGrammar
  | [name] => match entries.find? (·.name = name) with
    | some e => e.toLeaf.grammar toolName e.commands
    | none => topGrammar
  | name :: next :: _ => match entries.find? (·.name = name) with
    | some e => match e.commands.find? (·.name = next) with
      | some c => c.grammar (toolName ++ " " ++ e.name) []
      | none => topGrammar
    | none => topGrammar

end RobotKit.Command
