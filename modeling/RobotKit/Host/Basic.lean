import RobotKit.Host.Failure
import RobotKit.Table

/-!
# The host

Everything that actions can see and change: the files, the current directory, what was printed,
and which programs were started; and the behaviour of the world outside, which the actions meet
but cannot change.
-/

namespace RobotKit.Host

open RobotKit.Files

/-- What an address offers. -/
structure Remote where
  /-- The type that the address announces, if it answers at all; it may announce none. -/
  contentType : Option (Option String)
  /-- The status with which a clone of the address ends. -/
  cloneStatus : Int
  /-- The status with which a download from the address ends. -/
  downloadStatus : Int
  /-- The status with which unpacking the download ends. -/
  unpackStatus : Int
  /-- The files that a clone or the unpacked download holds. -/
  files : List (String × Content)

/-- How the installer of the uploader ends. -/
inductive Installation where
  | fails (complaint : String)
  | cannotStart
  | installsNothing
  | installs
deriving DecidableEq

structure Machine where
  system : String
  processor : String
  /-- The largest size of a list. -/
  sizeLimit : Int

/-- The world outside, as far as actions meet it. -/
structure Surroundings where
  remotes : Table Remote
  machine : Machine
  installation : Installation
  /-- The path of the installer. -/
  installer : Path
  /-- The status with which the uploader ends. -/
  uploaderStatus : Int
  /-- Can the uploader take the place of this program? -/
  canReplace : Bool
  /-- The directory of the files that come with the tool. -/
  resources : Path
  /-- The directory for what the tool keeps between runs. -/
  cache : Path
  /-- What reading a script complains of, given its path and what is there. The words are those of
  the reader, so they may be unknown. -/
  complaint : String → Option Node → Option String := fun _ _ => none

/-- The host: the surroundings, and what changes. -/
structure State where
  surroundings : Surroundings
  files : Node
  directory : Location
  /-- The address of the latest download. -/
  downloaded : Option String
  output : String
  complaints : String
  /-- The programs that were started, with their arguments. -/
  started : List (List String)

/-- An action on the host. What it changed stays changed when it fails. -/
abbrev Action := ExceptT Failure (StateM State)

/-- Ends an action early. -/
def fail {α : Type} (failure : Failure) : Action α := throw failure

def print (text : String) : Action Unit :=
  modify fun s => { s with output := s.output ++ text }

def printLine (line : String) : Action Unit := print (line ++ "\n")

/-- Prints a text as an error message. -/
def complain (text : String) : Action Unit :=
  modify fun s => { s with complaints := s.complaints ++ text }

/-- Prints a text with markup, wrapped to the width of the console. -/
def say (text : String) : Action Unit :=
  match Console.render text with
  | .ok lines => print lines
  | .error e => fail (.markup e)

/-- Runs an action; if it fails, the handler has the last word, unless the program ends. -/
def handle {α : Type} (action : Action α) (handler : Failure → Action α) : Action α :=
  tryCatch action fun failure => if failure.isExit then throw failure else handler failure

def surroundings : Action Surroundings := do return (← get).surroundings

end RobotKit.Host
