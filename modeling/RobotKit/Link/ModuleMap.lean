import RobotKit.Files.Path
import RobotKit.Table

/-!
# Module names

A script can import the files of its project by dotted names: the names of the directories and of
the file without its ending, joined by dots. The file `__init__.py` stands for its directory.
-/

namespace RobotKit.Link

def scriptEnding : List Char := ".py".toList

/-- A text without any script ending inside it. -/
def dropEndings : Nat → List Char → List Char
  | 0, cs => cs
  | _, [] => []
  | fuel + 1, c :: rest =>
    if scriptEnding.isPrefixOf (c :: rest) then dropEndings fuel (rest.drop 2)
    else c :: dropEndings fuel rest

/-- A dotted name without `.__init__` at its end. -/
def dropInit (name : List Char) : List Char :=
  if ".__init__".toList.isSuffixOf name then name.take (name.length - 9) else name

/-- The dotted name of a relative path: slashes become dots, script endings vanish wherever they
stand, and a final `__init__` stands for its directory. -/
def moduleName (path : String) : String :=
  let dotted := path.toList.map fun c => if c = '/' then '.' else c
  String.ofList (dropInit (dropEndings dotted.length dotted))

/-- The names between the dots of a dotted name. -/
def splitDots (name : String) : List String :=
  (name.toList.splitOn '.').map String.ofList

def isScriptName (name : String) : Bool := scriptEnding.isSuffixOf name.toList

/-- A script file of a project: its path inside the project directory, and the full path. -/
structure ScriptFile where
  relative : String
  full : String
deriving DecidableEq

/-- The full path of each module. Of two files with one module name the later one counts. -/
def moduleMap (files : List ScriptFile) : Table String :=
  .ofList (files.map fun file => (moduleName file.relative, file.full))

end RobotKit.Link
